import PppManager.Manager.Utils

/-!
# Substring search

What `find_strstr` finds.  Its scan never goes back: where a match breaks off, the scan goes on after
the byte that broke it.  So an occurrence of `substr` is found exactly when the bytes before it are
a sequence of broken beginnings of `substr` (`findStrstr_iff`).
-/

namespace PppManager

/-- The bytes of `substr` stand in `basestr` from the offset `k` on. -/
def OccursAt (substr basestr : List Char) (k : ℕ) : Prop :=
  k + substr.length ≤ basestr.length ∧ ∀ t < substr.length, basestr[k + t]? = substr[t]?

/-- The bytes are a sequence of broken beginnings of `substr`: each is a proper prefix of it, which
may be empty, and a byte that is not the next one of `substr`. -/
inductive BrokenStarts (substr : List Char) : List Char → Prop
  | nil : BrokenStarts substr []
  | cons (j : ℕ) (c : Char) {v : List Char} (hj : j < substr.length) (hc : substr[j]? ≠ some c)
      (h : BrokenStarts substr v) : BrokenStarts substr (substr.take j ++ c :: v)

section

variable {substr basestr v w : List Char} {b c : Char} {i j k : ℕ}

theorem occursAt_iff :
  OccursAt substr basestr k ↔ ∃ v w, v.length = k ∧ basestr = v ++ (substr ++ w)
  := by
  constructor
  · rintro ⟨hle, hbytes⟩
    have htake : (basestr.drop k).take substr.length = substr := by
      apply List.ext_getElem?
      intro t
      by_cases ht : t < substr.length
      · rw [List.getElem?_take_of_lt ht, List.getElem?_drop, hbytes t ht]
      · rw [List.getElem?_eq_none (Nat.not_lt.mp ht), List.getElem?_eq_none]
        rw [List.length_take]
        omega
    use basestr.take k, (basestr.drop k).drop substr.length
    constructor
    · rw [List.length_take]
      omega
    · have hsplit := List.take_append_drop substr.length (basestr.drop k)
      rw [htake] at hsplit
      rw [hsplit, List.take_append_drop]
  · rintro ⟨v, w, rfl, rfl⟩
    constructor
    · rw [List.length_append, List.length_append]
      omega
    · intro t ht
      rw [List.getElem?_append_right (Nat.le_add_right _ _), Nat.add_sub_cancel_left,
        List.getElem?_append_left ht]

/-- The bytes of a prefix. -/
theorem getElem?_take_append (hij : i < j) (hj : j < substr.length) :
  (substr.take j ++ v)[i]? = substr[i]?
  := by
  rw [List.getElem?_append_left, List.getElem?_take_of_lt hij]
  rw [List.length_take]
  omega

/-- The byte after a prefix. -/
theorem getElem?_take_append_self (hj : j < substr.length) :
  (substr.take j ++ c :: v)[j]? = some c
  := by
  have hlen : (substr.take j).length = j := by
    rw [List.length_take]
    omega
  rw [List.getElem?_append_right (Nat.le_of_eq hlen), hlen, Nat.sub_self]
  rfl

/-- A text has only one broken beginning in front. -/
theorem broken_inj (hi : i < substr.length) (hj : j < substr.length) (hb : substr[i]? ≠ some b)
    (hc : substr[j]? ≠ some c) (h : substr.take i ++ b :: v = substr.take j ++ c :: w) :
  v = w
  := by
  have hlt : ∀ {i j b c v w}, i < j → j < substr.length → substr[i]? ≠ some b →
      substr.take i ++ b :: v = substr.take j ++ c :: w → False := by
    intro i j b c v w hij hj hb h
    apply hb
    rw [← getElem?_take_append (v := c :: w) hij hj, ← h]
    apply getElem?_take_append_self (Nat.lt_trans hij hj)
  rcases Nat.lt_trichotomy i j with hij | rfl | hji
  · cases hlt hij hj hb h
  · apply (List.cons.inj (List.append_cancel_left h)).2
  · cases hlt hji hi hc h.symm

/-- The scan from the position `j` of `substr` on, after a match of the bytes before it. -/
theorem findStrstrFrom_iff (hj : j < substr.length) :
  findStrstrFrom substr basestr j = true ↔
    ∃ v w, BrokenStarts substr v ∧ substr.take j ++ basestr = v ++ (substr ++ w)
  := by
  induction basestr generalizing j with
  | nil =>
      rw [findStrstrFrom]
      apply iff_of_false Bool.false_ne_true
      rintro ⟨v, w, -, h⟩
      have hlen := congrArg List.length h
      simp only [List.length_append, List.length_take, List.length_nil] at hlen
      omega
  | cons b bs ih =>
      rw [findStrstrFrom]
      split_ifs with hb hlast
      · apply iff_of_true rfl
        use [], bs, .nil
        have htake : substr.take (j + 1) = substr.take j ++ [b] := by
          rw [List.take_add_one, hb, Option.toList_some]
        rw [List.nil_append, List.append_cons, ← htake, hlast, List.take_length]
      · rw [ih (by omega), List.take_add_one, hb, Option.toList_some, List.append_assoc,
          List.singleton_append]
      · rw [ih (Nat.zero_lt_of_lt hj), List.take_zero, List.nil_append]
        constructor
        · rintro ⟨v, w, hv, rfl⟩
          use substr.take j ++ b :: v, w, .cons j b hj hb hv
          rw [List.append_assoc, List.cons_append]
        · rintro ⟨v, w, hv, h⟩
          cases hv with
          | nil =>
              have hnext : (substr ++ w)[j]? = some b := by
                rw [← List.nil_append (substr ++ w), ← h]
                apply getElem?_take_append_self hj
              rw [List.getElem?_append_left hj] at hnext
              cases hb hnext
          | @cons i c v hi hc hv =>
              rw [List.append_assoc, List.cons_append] at h
              use v, w, hv
              apply broken_inj hj hi hb hc h

/-- `find_strstr` finds a string exactly when the text is longer and has an occurrence of it with
nothing but broken beginnings before it. -/
theorem findStrstr_iff (h : 0 < substr.length) :
  findStrstr basestr substr = true ↔ substr.length < basestr.length ∧
    ∃ k, OccursAt substr basestr k ∧ BrokenStarts substr (basestr.take k)
  := by
  have hoccurs : (∃ v w, BrokenStarts substr v ∧ basestr = v ++ (substr ++ w)) ↔
      ∃ k, OccursAt substr basestr k ∧ BrokenStarts substr (basestr.take k) := by
    constructor
    · rintro ⟨v, w, hv, rfl⟩
      use v.length, occursAt_iff.mpr ⟨v, w, rfl, rfl⟩
      rw [List.take_left]
      apply hv
    · rintro ⟨k, hk, hv⟩
      obtain ⟨v, w, rfl, rfl⟩ := occursAt_iff.mp hk
      rw [List.take_left] at hv
      use v, w, hv
  have hscan : findStrstrFrom substr basestr 0 = true ↔
      ∃ k, OccursAt substr basestr k ∧ BrokenStarts substr (basestr.take k) := by
    rw [findStrstrFrom_iff h, List.take_zero, List.nil_append, hoccurs]
  rw [findStrstr]
  split_ifs with hle
  · apply iff_of_false not_false
    rintro ⟨hlt, -⟩
    apply Nat.not_lt.mpr hle hlt
  · rw [hscan]
    apply (and_iff_right (Nat.not_le.mp hle)).symm

/-- `find_strstr` decides whether a string occurs exactly where the string does not occur, or the
text is longer and some occurrence has nothing but broken beginnings before it. -/
theorem findStrstr_decides_iff (h : 0 < substr.length) :
  (findStrstr basestr substr = true ↔ ∃ k, OccursAt substr basestr k) ↔
    ((∃ k, OccursAt substr basestr k) → substr.length < basestr.length ∧
      ∃ k, OccursAt substr basestr k ∧ BrokenStarts substr (basestr.take k))
  := by
  rw [findStrstr_iff h]
  constructor
  · intro hiff hoccurs
    apply hiff.mpr hoccurs
  · intro himp
    constructor
    · rintro ⟨-, k, hk, -⟩
      use k
    · apply himp

end

/-- An argument that stands alone before the end of the command line is found. -/
theorem findStrstr_decides_ppp0 :
  findStrstr "pppd\x00ppp0\x00".toList "ppp0".toList = true ↔
    ∃ k, OccursAt "ppp0".toList "pppd\x00ppp0\x00".toList k
  := by
  apply (findStrstr_decides_iff (by decide)).mpr
  intro _
  use by decide, 5
  constructor
  · unfold OccursAt
    decide
  · apply BrokenStarts.cons 3 'd' (by decide) (by decide)
    apply BrokenStarts.cons 0 '\x00' (by decide) (by decide)
    apply BrokenStarts.nil

/-- A string that occurs after a partial match of itself is missed. -/
theorem findStrstr_misses :
  ¬ ∀ basestr substr : List Char, 1 ≤ substr.length → substr.length ≤ basestr.length →
    (findStrstr basestr substr = true ↔ ∃ k, OccursAt substr basestr k)
  := by
  intro h
  have hab := h "aab".toList "ab".toList (by decide) (by decide)
  have hfalse : findStrstr "aab".toList "ab".toList = false := by
    decide
  rw [hfalse] at hab
  apply Bool.false_ne_true
  apply hab.mpr
  use 1
  unfold OccursAt
  decide

end PppManager
