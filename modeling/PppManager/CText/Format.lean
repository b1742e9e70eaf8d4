import Mathlib.Algebra.Order.Ring.Int
import Mathlib.Data.List.Basic
import Mathlib.Tactic.Common

/-!
# C strings and formatted output

A C string is the list of its characters up to the terminating NUL; a byte is written as the
character with its code.  `printf f as` is the text the format `f` gives for the arguments `as`,
for the directives `%d`, `%u`, `%ld`, `%lu`, `%s` and `%%`, and `snprintf n f as` is that text as it
lies in a buffer of `n` bytes.
-/

namespace CText

/-- The characters of a C string, without the terminating NUL. -/
abbrev CStr := List Char

/-- The decimal text of an integer. -/
def dec : ℤ → CStr
  | .ofNat n => Nat.toDigits 10 n
  | .negSucc n => '-' :: Nat.toDigits 10 (n + 1)

/-- An argument of a formatted output function. -/
inductive Arg where
  | int (i : ℤ)
  | str (s : CStr)

/-- The text a format gives for a list of arguments. -/
def printf : CStr → List Arg → CStr
  | '%' :: 'd' :: f, .int i :: as => dec i ++ printf f as
  | '%' :: 'u' :: f, .int i :: as => dec i ++ printf f as
  | '%' :: 'l' :: 'd' :: f, .int i :: as => dec i ++ printf f as
  | '%' :: 'l' :: 'u' :: f, .int i :: as => dec i ++ printf f as
  | '%' :: 's' :: f, .str s :: as => s ++ printf f as
  | '%' :: '%' :: f, as => '%' :: printf f as
  | c :: f, as => c :: printf f as
  | [], _ => []

/-- Every directive of the format is one `printf` knows and has its argument: without this the
output of C is undefined. -/
def printfDefined : CStr → List Arg → Bool
  | '%' :: 'd' :: f, .int _ :: as => printfDefined f as
  | '%' :: 'u' :: f, .int _ :: as => printfDefined f as
  | '%' :: 'l' :: 'd' :: f, .int _ :: as => printfDefined f as
  | '%' :: 'l' :: 'u' :: f, .int _ :: as => printfDefined f as
  | '%' :: 's' :: f, .str _ :: as => printfDefined f as
  | '%' :: '%' :: f, as => printfDefined f as
  | '%' :: _, _ => false
  | _ :: f, as => printfDefined f as
  | [], _ => true

/-- The content of a buffer of `n` bytes after formatted output into it. -/
def snprintf (n : ℕ) (f : CStr) (as : List Arg) : CStr :=
  (printf f as).take (n - 1)

/-- The content of a buffer of `n` bytes, zero before, after `strncpy` of `s` into it. -/
def strncpy (n : ℕ) (s : CStr) : CStr :=
  s.take n

/-- The text of an argument. -/
def Arg.text : Arg → CStr
  | .int i => dec i
  | .str s => s

@[simp]
theorem Arg.text_int (i : ℤ) :
  (Arg.int i).text = dec i
  := rfl

@[simp]
theorem Arg.text_str (s : CStr) :
  (Arg.str s).text = s
  := rfl

/-- The text a format gives is no longer than the format and the texts of the arguments. -/
theorem length_printf_le (f : CStr) (as : List Arg) :
  (printf f as).length ≤ f.length + (as.map fun a => a.text.length).sum
  := by
  fun_induction printf f as with
  | case1 f i as ih | case2 f i as ih | case3 f i as ih | case4 f i as ih =>
      simp only [List.length_append, List.length_cons, List.map_cons, List.sum_cons, Arg.text_int]
      omega
  | case5 f s as ih =>
      simp only [List.length_append, List.length_cons, List.map_cons, List.sum_cons, Arg.text_str]
      omega
  | case6 f as ih =>
      simp only [List.length_cons]
      omega
  | case7 c f as _ _ _ _ _ _ ih =>
      simp only [List.length_cons]
      omega
  | case8 as => apply Nat.zero_le

theorem printf_cons_of_ne {c : Char} (hc : c ≠ '%') (f : CStr) (as : List Arg) :
  printf (c :: f) as = c :: printf f as ∧ printfDefined (c :: f) as = printfDefined f as
  := by
  constructor
  · rw [printf.eq_7] <;> simp [hc]
  · rw [printfDefined.eq_8] <;> simp [hc]

/-- Without arguments the text is no longer than the format, and shorter if the format has a
directive. -/
theorem length_printf_nil {f : CStr} (h : printfDefined f [] = true) :
  (printf f []).length ≤ f.length ∧ ('%' ∈ f → (printf f []).length < f.length)
  := by
  generalize has : ([] : List Arg) = as at h ⊢
  fun_induction printfDefined f as with
  | case1 | case2 | case3 | case4 | case5 => cases has
  | case6 f as ih =>
      obtain ⟨hle, -⟩ := ih has h
      rw [printf, List.length_cons, List.length_cons, List.length_cons]
      exact ⟨by omega, fun _ => by omega⟩
  | case7 => cases h
  | case8 c f as _ _ _ _ _ _ hc ih =>
      obtain ⟨hle, hlt⟩ := ih has h
      rw [(printf_cons_of_ne hc f as).1, List.length_cons, List.length_cons]
      use Nat.succ_le_succ hle
      intro hmem
      apply Nat.succ_lt_succ (hlt ((List.mem_cons.mp hmem).resolve_left (Ne.symm hc)))
  | case9 as => exact ⟨Nat.le_refl _, fun hmem => absurd hmem List.not_mem_nil⟩

/-- Without arguments a format is defined and gives itself exactly if it has no directive. -/
theorem printf_nil_eq_self_iff {f : CStr} :
  printfDefined f [] = true ∧ printf f [] = f ↔ '%' ∉ f
  := by
  constructor
  · rintro ⟨hdefined, htext⟩ hmem
    have hlt := (length_printf_nil hdefined).2 hmem
    rw [htext] at hlt
    apply Nat.lt_irrefl _ hlt
  · intro h
    induction f with
    | nil => exact ⟨rfl, rfl⟩
    | cons c f ih =>
        rw [List.mem_cons, not_or] at h
        obtain ⟨hdefined, htext⟩ := ih h.2
        obtain ⟨hprintf, hprintfDefined⟩ := printf_cons_of_ne (Ne.symm h.1) f []
        rw [hprintf, hprintfDefined, htext]
        exact ⟨hdefined, rfl⟩

theorem isDigit_of_mem_dec_ofNat {n : ℕ} {c : Char} (h : c ∈ dec n) :
  c.isDigit
  := Nat.isDigit_of_mem_toDigits (by decide) (by decide) h

/-- The decimal text of a number of `k` digits has at most those digits and a sign. -/
theorem length_dec_le {i : ℤ} {k : ℕ} (hk : 0 < k) (h : i.natAbs < 10 ^ k) :
  (dec i).length ≤ k + 1
  := by
  cases i with
  | ofNat n => apply Nat.le_succ_of_le ((Nat.length_toDigits_le_iff (by decide) hk).mpr h)
  | negSucc n => apply Nat.succ_le_succ ((Nat.length_toDigits_le_iff (by decide) hk).mpr h)

end CText
