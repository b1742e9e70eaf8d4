import PppManager.CText.Format
import Mathlib.Data.List.TakeWhile

/-!
# Formatted input and string search

The parts of the C library that read text: `strtol`, `atoi`, the conversions of `sscanf`, `strtok`,
`strstr` and `fgets`.  A conversion that fails gives `none`, and the caller's variable keeps its
value.
-/

namespace CText

/-- `isspace` in the C locale. -/
def isSpace (c : Char) : Bool :=
  c = ' ' || (decide ('\t' ≤ c) && decide (c ≤ '\r'))

/-- A hexadecimal digit. -/
def isXDigit (c : Char) : Bool :=
  c.isDigit || (decide ('a' ≤ c) && decide (c ≤ 'f')) || (decide ('A' ≤ c) && decide (c ≤ 'F'))

/-- The value of a hexadecimal digit. -/
def xDigitValue (c : Char) : ℕ :=
  if c.isDigit then c.toNat - '0'.toNat
  else if 'a' ≤ c then c.toNat - 'a'.toNat + 10
  else c.toNat - 'A'.toNat + 10

/-- A decimal number in front of a text, after blanks and with an optional sign: its value and
the text after it. -/
def scanInt (s : CStr) : Option (ℤ × CStr) :=
  let s := s.dropWhile isSpace
  let (neg, s) :=
    match s with
    | '-' :: s => (true, s)
    | '+' :: s => (false, s)
    | s => (false, s)
  let ds := s.takeWhile Char.isDigit
  let v : ℤ := Nat.ofDigitChars 10 ds 0
  if ds = [] then none else some (if neg then -v else v, s.dropWhile Char.isDigit)

theorem not_isSpace_of_zero_le {c : Char} (h : '0'.val ≤ c.val) :
  isSpace c = false
  := by
  rw [isSpace, Bool.or_eq_false_iff, decide_eq_false_iff_not, ← Bool.decide_and,
    decide_eq_false_iff_not]
  constructor
  · rintro rfl
    revert h
    decide
  · rintro ⟨-, hle⟩
    have h0 : '0'.val ≤ '\r'.val := UInt32.le_trans h hle
    revert h0
    decide

theorem not_isSpace_of_isDigit {c : Char} (h : c.isDigit = true) :
  isSpace c = false
  := by
  rw [Char.isDigit, Bool.and_eq_true] at h
  apply not_isSpace_of_zero_le (of_decide_eq_true h.1)

/-- The number after blanks, in front of a text that does not go on with a digit. -/
theorem scanInt_field {bs ds rest : CStr} (hbs : ∀ c ∈ bs, isSpace c = true)
    (hdigits : ∀ c ∈ ds, c.isDigit = true) (hne : ds ≠ [])
    (hrest : rest.takeWhile Char.isDigit = []) :
  scanInt (bs ++ (ds ++ rest)) = some ((Nat.ofDigitChars 10 ds 0 : ℤ), rest) ∧
    scanInt (bs ++ ('-' :: (ds ++ rest))) = some (-(Nat.ofDigitChars 10 ds 0 : ℤ), rest)
  := by
  have htake : (ds ++ rest).takeWhile Char.isDigit = ds := by
    rw [List.takeWhile_append_of_pos hdigits, hrest, List.append_nil]
  have hdrop : (ds ++ rest).dropWhile Char.isDigit = rest := by
    rw [List.dropWhile_append_of_pos hdigits]
    have hsplit := List.takeWhile_append_dropWhile (p := Char.isDigit) (l := rest)
    rw [hrest, List.nil_append] at hsplit
    apply hsplit
  constructor
  · obtain ⟨c, ds, rfl⟩ := List.exists_cons_of_ne_nil hne
    have hc := hdigits c List.mem_cons_self
    have hspace : (bs ++ (c :: ds ++ rest)).dropWhile isSpace = c :: ds ++ rest := by
      rw [List.dropWhile_append_of_pos hbs, List.cons_append]
      apply List.dropWhile_cons_of_neg
      rw [not_isSpace_of_isDigit hc]
      decide
    simp only [scanInt, hspace]
    split
    · rename_i h
      obtain ⟨rfl, -⟩ := List.cons.inj h
      cases hc
    · rename_i h
      obtain ⟨rfl, -⟩ := List.cons.inj h
      cases hc
    · dsimp only
      rw [htake, hdrop, if_neg hne]
      rfl
  · have hspace : (bs ++ ('-' :: (ds ++ rest))).dropWhile isSpace = '-' :: (ds ++ rest) := by
      rw [List.dropWhile_append_of_pos hbs]
      apply List.dropWhile_cons_of_neg
      decide
    simp only [scanInt, hspace]
    rw [htake, hdrop, if_neg hne, if_true]

/-- The number in front of a text of digits. -/
theorem scanInt_digits {ds : CStr} (hdigits : ∀ c ∈ ds, c.isDigit = true) (hne : ds ≠ []) :
  scanInt ds = some ((Nat.ofDigitChars 10 ds 0 : ℤ), [])
  := by
  have h := (@scanInt_field [] ds [] nofun hdigits hne rfl).1
  rw [List.nil_append, List.append_nil] at h
  apply h

/-- The decimal text of an integer, in front of a text that does not go on with a digit, is read back
as that integer. -/
theorem scanInt_dec_append (i : ℤ) {rest : CStr} (hrest : rest.takeWhile Char.isDigit = []) :
  scanInt (dec i ++ rest) = some (i, rest)
  := by
  have hdigits : ∀ n : ℕ, ∀ c ∈ Nat.toDigits 10 n, c.isDigit = true :=
    fun n _ => Nat.isDigit_of_mem_toDigits (by decide) (by decide)
  cases i with
  | ofNat n =>
      have h := (@scanInt_field [] _ _ nofun (hdigits n) Nat.toDigits_ne_nil hrest).1
      rw [Nat.ofDigitChars_ten_toDigits] at h
      apply h
  | negSucc n =>
      have h := (@scanInt_field [] _ _ nofun (hdigits (n + 1)) Nat.toDigits_ne_nil hrest).2
      rw [Nat.ofDigitChars_ten_toDigits] at h
      apply h

/-- The decimal text of an integer is read back as that integer. -/
theorem scanInt_dec (i : ℤ) :
  scanInt (dec i) = some (i, [])
  := by
  have h := @scanInt_dec_append i [] rfl
  rw [List.append_nil] at h
  apply h

/-- The nearest value a `long` of 64 bits holds. -/
def clampLong (i : ℤ) : ℤ :=
  max (-2 ^ 63) (min i (2 ^ 63 - 1))

/-- The value an integer has as an `int` of 32 bits. -/
def toInt (i : ℤ) : ℤ :=
  i.bmod (2 ^ 32)

/-- `strtol` in base ten. -/
def strtol (s : CStr) : ℤ :=
  match scanInt s with
  | some (i, _) => clampLong i
  | none => 0

/-- `strtoul` in base ten, as an unsigned 64-bit number: a minus sign negates it, and a number whose
digits are out of range gives `ULONG_MAX`. -/
def strtoul (s : CStr) : ℤ :=
  match scanInt s with
  | some (i, _) => if i.natAbs < 2 ^ 64 then i % 2 ^ 64 else 2 ^ 64 - 1
  | none => 0

/-- `atoi`. -/
def atoi (s : CStr) : ℤ :=
  toInt (strtol s)

/-- `atoi` gives a number an `int` holds. -/
theorem atoi_lt (s : CStr) :
  atoi s < 2 ^ 31
  := by
  rw [atoi, toInt]
  apply Int.bmod_lt
  decide

/-- A number an `int` holds is itself as an `int`. -/
theorem toInt_of_lt {i : ℤ} (hlow : -2 ^ 31 ≤ i) (hhigh : i < 2 ^ 31) :
  toInt i = i
  := by
  rw [toInt]
  apply Int.bmod_eq_of_le <;> omega

/-- A number an `int` holds is itself as a `long` and as an `int`. -/
theorem toInt_clampLong {i : ℤ} (hlow : -2 ^ 31 ≤ i) (hhigh : i < 2 ^ 31) :
  toInt (clampLong i) = i
  := by
  have hclamp : clampLong i = i := by
    rw [clampLong]
    omega
  rw [hclamp, toInt_of_lt hlow hhigh]

/-- The decimal text of a number an `int` holds is read back by `atoi`. -/
theorem atoi_dec {i : ℤ} (hlow : -2 ^ 31 ≤ i) (hhigh : i < 2 ^ 31) :
  atoi (dec i) = i
  := by
  rw [atoi, strtol, scanInt_dec]
  apply toInt_clampLong hlow hhigh

/-- Digits that make up a number an `int` holds are read by `atoi` as that number. -/
theorem atoi_digits {ds : CStr} (hdigits : ∀ c ∈ ds, c.isDigit = true) (hne : ds ≠ [])
    (h : Nat.ofDigitChars 10 ds 0 < 2 ^ 31) :
  atoi ds = Nat.ofDigitChars 10 ds 0
  := by
  rw [atoi, strtol, scanInt_digits hdigits hne]
  apply toInt_clampLong <;> omega

/-- The conversion `%d` of `sscanf`. -/
def sscanfD (s : CStr) : Option ℤ :=
  (scanInt s).map (fun r => toInt (clampLong r.1))

/-- The conversion `%ld` of `sscanf`. -/
def sscanfLd (s : CStr) : Option ℤ :=
  (scanInt s).map (fun r => clampLong r.1)

/-- The conversion `%lu` of `sscanf`. -/
def sscanfLu (s : CStr) : Option ℤ :=
  (scanInt s).map (fun _ => strtoul s)

/-- The conversion `%s` of `sscanf`: the first word. -/
def sscanfS (s : CStr) : Option CStr :=
  match (s.dropWhile isSpace).takeWhile (fun c => !isSpace c) with
  | [] => none
  | w => some w

/-- A word is read as it is. -/
theorem sscanfS_word {w : CStr} (hne : w ≠ []) (hw : ∀ c ∈ w, isSpace c = false) :
  sscanfS w = some w
  := by
  obtain ⟨c, w, rfl⟩ := List.exists_cons_of_ne_nil hne
  have hdrop : (c :: w).dropWhile isSpace = c :: w := by
    apply List.dropWhile_cons_of_neg
    rw [hw c List.mem_cons_self]
    decide
  have htake : (c :: w).takeWhile (fun c => !isSpace c) = c :: w := by
    apply List.takeWhile_eq_self_iff.mpr
    intro c hc
    rw [hw c hc]
    rfl
  rw [sscanfS, hdrop, htake]

/-- The conversion `%08lX` of `sscanf`: at most eight characters, an optional sign and an optional
prefix `0x`, then hexadecimal digits.  The zero of the prefix is a digit. -/
def sscanf08lX (s : CStr) : Option (BitVec 64) :=
  let s := (s.dropWhile isSpace).take 8
  let (neg, s) :=
    match s with
    | '-' :: s => (true, s)
    | '+' :: s => (false, s)
    | s => (false, s)
  let s :=
    match s with
    | '0' :: 'x' :: s => '0' :: s
    | '0' :: 'X' :: s => '0' :: s
    | s => s
  let ds := s.takeWhile isXDigit
  let v := BitVec.ofNat 64 (ds.foldl (fun n c => 16 * n + xDigitValue c) 0)
  if ds = [] then none else some (if neg then -v else v)

theorem not_mem_of_isXDigit {c : Char} (h : isXDigit c = true) :
  c ∉ ['-', '+', 'x', 'X']
  := by
  intro hc
  simp only [List.mem_cons, List.not_mem_nil, or_false] at hc
  rcases hc with rfl | rfl | rfl | rfl <;> revert h <;> decide

theorem not_isSpace_of_isXDigit {c : Char} (h : isXDigit c = true) :
  isSpace c = false
  := by
  apply not_isSpace_of_zero_le
  simp only [isXDigit, Char.isDigit, Bool.or_eq_true, Bool.and_eq_true, decide_eq_true_eq] at h
  rcases h with (h | h) | h
  · apply h.1
  · apply UInt32.le_trans _ h.1
    decide
  · apply UInt32.le_trans _ h.1
    decide

/-- Eight hexadecimal digits are read as they are. -/
theorem sscanf08lX_digits {ds rest : CStr} (hdigits : ∀ c ∈ ds, isXDigit c = true)
    (hlen : ds.length = 8) :
  sscanf08lX (ds ++ rest) =
    some (BitVec.ofNat 64 (ds.foldl (fun n c => 16 * n + xDigitValue c) 0))
  := by
  obtain ⟨c, d, ds, rfl⟩ : ∃ c d ds', ds = c :: d :: ds' := by
    rcases ds with _ | ⟨c, _ | ⟨d, ds⟩⟩
    · cases hlen
    · cases hlen
    · exact ⟨c, d, ds, rfl⟩
  have hc := not_mem_of_isXDigit (hdigits c List.mem_cons_self)
  have hd := not_mem_of_isXDigit (hdigits d (List.mem_cons_of_mem _ List.mem_cons_self))
  simp only [List.mem_cons, List.not_mem_nil, or_false, not_or] at hc hd
  have hdrop : ((c :: d :: ds) ++ rest).dropWhile isSpace = (c :: d :: ds) ++ rest := by
    apply List.dropWhile_cons_of_neg
    rw [not_isSpace_of_isXDigit (hdigits c List.mem_cons_self)]
    decide
  have htake : (c :: d :: ds).takeWhile isXDigit = c :: d :: ds :=
    List.takeWhile_eq_self_iff.mpr hdigits
  rw [sscanf08lX, hdrop, List.take_left' hlen]
  split
  rename_i neg s' hsign
  split at hsign
  · rename_i h
    apply absurd (List.cons.inj h).1 hc.1
  · rename_i h
    apply absurd (List.cons.inj h).1 hc.2.1
  · obtain ⟨rfl, rfl⟩ := Prod.mk.inj hsign
    dsimp only
    split
    · rename_i h
      apply absurd (List.cons.inj (List.cons.inj h).2).1 hd.2.2.1
    · rename_i h
      apply absurd (List.cons.inj (List.cons.inj h).2).1 hd.2.2.2
    · rw [htake, if_neg (List.cons_ne_nil _ _)]
      rfl

/-- A hexadecimal digit, in upper case. -/
def upperDigit (d : ℕ) : Char :=
  d.digitChar.toUpper

/-- The last `w` hexadecimal digits of a number. -/
def hexDigits (digit : ℕ → Char) : ℕ → ℕ → CStr
  | 0, _ => []
  | w + 1, n => hexDigits digit w (n / 16) ++ [digit (n % 16)]

theorem length_hexDigits {digit : ℕ → Char} {w n : ℕ} :
  (hexDigits digit w n).length = w
  := by
  induction w generalizing n with
  | zero => rfl
  | succ w ih => rw [hexDigits, List.length_append, ih, List.length_singleton]

theorem mem_hexDigits {digit : ℕ → Char} {w n : ℕ} {c : Char} (h : c ∈ hexDigits digit w n) :
  ∃ d < 16, c = digit d
  := by
  induction w generalizing n with
  | zero => cases h
  | succ w ih =>
      rw [hexDigits, List.mem_append, List.mem_singleton] at h
      rcases h with h | h
      · apply ih h
      · exact ⟨n % 16, Nat.mod_lt n (by decide), h⟩

theorem isXDigit_upperDigit {d : ℕ} (hd : d < 16) :
  isXDigit (upperDigit d) = true ∧ xDigitValue (upperDigit d) = d
  := by
  revert d
  decide

/-- The value of the last digits of a number. -/
theorem foldl_hexDigits {w n : ℕ} (hn : n < 16 ^ w) :
  (hexDigits upperDigit w n).foldl (fun n c => 16 * n + xDigitValue c) 0 = n
  := by
  induction w generalizing n with
  | zero =>
      rw [Nat.pow_zero, Nat.lt_one_iff] at hn
      rw [hn]
      rfl
  | succ w ih =>
      have hlast := (isXDigit_upperDigit (Nat.mod_lt n (by decide : 0 < 16))).2
      have hinit := ih (Nat.div_lt_of_lt_mul (Nat.pow_succ' ▸ hn))
      rw [hexDigits, List.foldl_append, hinit, List.foldl_cons, List.foldl_nil, hlast]
      omega

/-- A number of eight hexadecimal digits is read back. -/
theorem sscanf08lX_hexDigits {n : ℕ} {rest : CStr} (hn : n < 16 ^ 8) :
  sscanf08lX (hexDigits upperDigit 8 n ++ rest) = some (BitVec.ofNat 64 n)
  := by
  rw [sscanf08lX_digits _ length_hexDigits, foldl_hexDigits hn]
  intro c hc
  obtain ⟨d, hd, rfl⟩ := mem_hexDigits hc
  apply (isXDigit_upperDigit hd).1

/-- The tokens `strtok` gives one after the other for a set of delimiters, the characters of the
token being read before the text. -/
def strtokFrom (delim : Char → Bool) : CStr → CStr → List CStr
  | [], [] => []
  | cur, [] => [cur]
  | cur, c :: s =>
      if delim c then
        match cur with
        | [] => strtokFrom delim [] s
        | cur => cur :: strtokFrom delim [] s
      else
        strtokFrom delim (cur ++ [c]) s

/-- The tokens `strtok` gives one after the other for the delimiter `d`. -/
def strtok (d : Char) (s : CStr) : List CStr :=
  strtokFrom (fun c => c = d) [] s

theorem strtokFrom_of_not_delim {delim : Char → Bool} {cur s : CStr} {c : Char}
    (hc : delim c = false) :
  strtokFrom delim cur (c :: s) = strtokFrom delim (cur ++ [c]) s
  := by
  cases cur <;> simp [strtokFrom, hc]

theorem strtokFrom_append {delim : Char → Bool} {cur v s : CStr} (hv : ∀ c ∈ v, delim c = false) :
  strtokFrom delim cur (v ++ s) = strtokFrom delim (cur ++ v) s
  := by
  induction v generalizing cur with
  | nil => rw [List.nil_append, List.append_nil]
  | cons c v ih =>
      rw [List.cons_append, strtokFrom_of_not_delim (hv c List.mem_cons_self),
        ih (fun d hd => hv d (List.mem_cons_of_mem _ hd)), List.append_assoc,
        List.singleton_append]

theorem delim_eq_false {d : Char} {v : CStr} (hv : d ∉ v) :
  ∀ c ∈ v, decide (c = d) = false
  := by
  intro c hc
  apply decide_eq_false
  rintro rfl
  apply hv hc

/-- The first token. -/
theorem strtok_cons {d : Char} {v s : CStr} (hne : v ≠ []) (hv : d ∉ v) :
  strtok d (v ++ d :: s) = v :: strtok d s
  := by
  rw [strtok, strtokFrom_append (delim_eq_false hv), List.nil_append]
  cases v with
  | nil => apply absurd rfl hne
  | cons c v => simp [strtokFrom, strtok]

/-- A text with no delimiter is one token. -/
theorem strtok_eq_singleton {d : Char} {v : CStr} (hne : v ≠ []) (hv : d ∉ v) :
  strtok d v = [v]
  := by
  rw [strtok, ← List.append_nil v, strtokFrom_append (delim_eq_false hv), List.nil_append,
    List.append_nil]
  cases v with
  | nil => apply absurd rfl hne
  | cons c v => rfl

/-- `strstr`: the text from the first occurrence of `sub` on. -/
def strstr (sub : CStr) : CStr → Option CStr
  | [] => if sub = [] then some [] else none
  | c :: s => if sub.isPrefixOf (c :: s) then some (c :: s) else strstr sub s

/-- A string is found exactly if it occurs. -/
theorem isSome_strstr_iff {sub s : CStr} :
  (strstr sub s).isSome = true ↔ sub <:+: s
  := by
  induction s with
  | nil =>
      rw [strstr, List.infix_nil]
      split_ifs with h
      · apply iff_of_true rfl h
      · apply iff_of_false nofun h
  | cons c s ih =>
      rw [strstr, List.infix_cons_iff, ← List.isPrefixOf_iff_prefix]
      split_ifs with h
      · apply iff_of_true rfl (.inl h)
      · rw [ih, or_iff_right h]

/-- A string that occurs is found. -/
theorem isSome_strstr {sub s : CStr} (h : sub <:+: s) :
  (strstr sub s).isSome = true
  := isSome_strstr_iff.mpr h

/-- A string of two characters does not begin in a text without the first. -/
theorem infix_append_iff_of_not_mem {c d : Char} {v w : CStr} (hv : c ∉ v) :
  [c, d] <:+: v ++ w ↔ [c, d] <:+: w
  := by
  induction v with
  | nil => rfl
  | cons e v ih =>
      rw [List.mem_cons, not_or] at hv
      rw [List.cons_append, List.infix_cons_iff, List.cons_prefix_cons, ih hv.2]
      apply or_iff_right
      rintro ⟨rfl, -⟩
      apply hv.1 rfl

/-- A string of two characters does not end with another than the second. -/
theorem infix_concat_iff_of_ne {c d e : Char} {v : CStr} (h : d ≠ e) :
  [c, d] <:+: v ++ [e] ↔ [c, d] <:+: v
  := by
  rw [List.infix_concat_iff]
  apply or_iff_right
  intro hsuffix
  have hlast := hsuffix.getLast (List.cons_ne_nil _ _)
  rw [List.getLast_append_of_ne_nil _ (List.cons_ne_nil _ _)] at hlast
  apply h hlast

/-- The first occurrence of a character. -/
theorem strstr_char {c : Char} {v w : CStr} (h : c ∉ v) :
  strstr [c] (v ++ c :: w) = some (c :: w)
  := by
  induction v with
  | nil =>
      rw [List.nil_append, strstr, if_pos]
      rw [List.isPrefixOf_cons_cons_self]
      rfl
  | cons d v ih =>
      rw [List.mem_cons, not_or] at h
      rw [List.cons_append, strstr, if_neg, ih h.2]
      rw [List.isPrefixOf_cons_cons, beq_eq_false_iff_ne.mpr h.1, Bool.false_and]
      apply Bool.false_ne_true

/-- The chunks `fgets` gives one after the other with room for `max` characters: up to a line end,
or to the room, the characters of the chunk being read before the text. -/
def fgetsFrom (max : ℕ) : CStr → CStr → List CStr
  | [], [] => []
  | cur, [] => [cur]
  | cur, c :: s =>
      let cur := cur ++ [c]
      if c = '\n' || cur.length = max then cur :: fgetsFrom max [] s else fgetsFrom max cur s

/-- The chunks `fgets` with a buffer of `n` bytes gives for a file, one after the other. -/
def fgets (n : ℕ) (text : CStr) : List CStr :=
  fgetsFrom (n - 1) [] text

theorem fgetsFrom_line {max : ℕ} {cur v s : CStr} (hv : '\n' ∉ v)
    (hlen : cur.length + v.length < max) :
  fgetsFrom max cur (v ++ '\n' :: s) = (cur ++ (v ++ ['\n'])) :: fgetsFrom max [] s
  := by
  induction v generalizing cur with
  | nil =>
      rw [List.nil_append, List.nil_append, fgetsFrom]
      rfl
  | cons c v ih =>
      rw [List.mem_cons, not_or] at hv
      rw [List.length_cons] at hlen
      have hcut : (decide (c = '\n') || decide ((cur ++ [c]).length = max)) = false := by
        rw [Bool.or_eq_false_iff, decide_eq_false_iff_not, decide_eq_false_iff_not,
          List.length_append, List.length_singleton]
        use Ne.symm hv.1
        omega
      rw [List.cons_append, fgetsFrom]
      rw [hcut, if_neg Bool.false_ne_true, ih hv.2, List.append_assoc, List.singleton_append,
        List.cons_append]
      rw [List.length_append, List.length_singleton]
      omega

/-- A file of lines with room for each is read line by line. -/
theorem fgets_lines {n : ℕ} {lines : List CStr}
    (h : ∀ v ∈ lines, '\n' ∉ v ∧ v.length + 1 < n) :
  fgets n (lines.flatMap (· ++ ['\n'])) = lines.map (· ++ ['\n'])
  := by
  rw [fgets]
  induction lines with
  | nil => rfl
  | cons v lines ih =>
      obtain ⟨hv, hlen⟩ := h v List.mem_cons_self
      rw [List.flatMap_cons, List.append_assoc, List.singleton_append, fgetsFrom_line hv,
        ih (fun w hw => h w (List.mem_cons_of_mem _ hw)), List.nil_append, List.map_cons]
      rw [List.length_nil]
      omega

end CText
