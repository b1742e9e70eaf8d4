import Mathlib.Data.List.Basic

/-!
# Leftmost longest matches

The matches of a language in a text, one after the other: each starts as far to the left as one can
and is the longest there.
-/

namespace CText

variable {α : Type} {L : List α → Prop} {s t w w' rest rest' : List α} {c : α}

/-- A word of the language in front of a text. -/
def Front (L : List α → Prop) (s w rest : List α) : Prop :=
  s = w ++ rest ∧ L w

/-- The longest word of the language in front of a text, and what follows it. -/
structure LongestFront (L : List α → Prop) (s w rest : List α) : Prop where
  front : Front L s w rest
  longest : ∀ w' rest', Front L s w' rest' → w'.length ≤ w.length

/-- No word of the language occurs in a text. -/
def Matchless (L : List α → Prop) (s : List α) : Prop :=
  ∀ before t w rest, s = before ++ t → ¬ Front L t w rest

/-- The leftmost longest match in a text, and what follows it. -/
def LeftmostLongest (L : List α → Prop) (s w rest : List α) : Prop :=
  ∃ before t, s = before ++ t ∧ LongestFront L t w rest ∧
    ∀ before' t' w' rest', s = before' ++ t' → Front L t' w' rest' →
      before.length ≤ before'.length

/-- The first `k` leftmost longest matches in a text that do not overlap, or all if there are fewer. -/
inductive FirstMatches (L : List α → Prop) : ℕ → List α → List (List α) → Prop
  | enough {s : List α} : FirstMatches L 0 s []
  | finished {k : ℕ} {s : List α} (hnone : Matchless L s) : FirstMatches L (k + 1) s []
  | next {k : ℕ} {s w rest : List α} {ws : List (List α)} (h : LeftmostLongest L s w rest)
      (hrest : FirstMatches L k rest ws) : FirstMatches L (k + 1) s (w :: ws)

/-- The longest word in front of a text is unique. -/
theorem LongestFront.unique (h : LongestFront L s w rest) (h' : LongestFront L s w' rest') :
  w = w' ∧ rest = rest'
  := by
  have hle := h'.longest w rest h.front
  have hge := h.longest w' rest' h'.front
  apply List.append_inj (h.front.1.symm.trans h'.front.1) (Nat.le_antisymm hle hge)

theorem LeftmostLongest.not_matchless (h : LeftmostLongest L s w rest) :
  ¬ Matchless L s
  := by
  obtain ⟨before, t, hs, hlongest, -⟩ := h
  intro hnone
  apply hnone before t w rest hs hlongest.front

/-- The leftmost longest match is unique. -/
theorem LeftmostLongest.unique (h : LeftmostLongest L s w rest) (h' : LeftmostLongest L s w' rest') :
  w = w' ∧ rest = rest'
  := by
  obtain ⟨before, t, hs, hlongest, hleft⟩ := h
  obtain ⟨before', t', hs', hlongest', hleft'⟩ := h'
  have hle := hleft before' t' w' rest' hs' hlongest'.front
  have hge := hleft' before t w rest hs hlongest.front
  obtain ⟨-, rfl⟩ := List.append_inj (hs.symm.trans hs') (Nat.le_antisymm hle hge)
  apply hlongest.unique hlongest'

/-- A match at the start of a text is the leftmost. -/
theorem LongestFront.leftmostLongest (h : LongestFront L s w rest) :
  LeftmostLongest L s w rest
  := by
  use [], s, rfl, h
  intro before' t' w' rest' _ _
  apply Nat.zero_le

/-- A match stays the leftmost if none starts at a character in front of it. -/
theorem LeftmostLongest.cons (hnone : ∀ w rest, ¬ Front L (c :: s) w rest)
    (h : LeftmostLongest L s w rest) :
  LeftmostLongest L (c :: s) w rest
  := by
  obtain ⟨before, t, rfl, hlongest, hleft⟩ := h
  use c :: before, t, rfl, hlongest
  intro before' t' w' rest' hs hfront
  cases before' with
  | nil =>
      obtain rfl : c :: (before ++ t) = t' := hs
      apply absurd hfront (hnone w' rest')
  | cons d before' =>
      obtain ⟨-, hs⟩ := List.cons.inj hs
      apply Nat.succ_le_succ (hleft before' t' w' rest' hs hfront)

/-- A text without matches stays without if none starts at a character in front of it. -/
theorem Matchless.cons (hnone : ∀ w rest, ¬ Front L (c :: s) w rest) (h : Matchless L s) :
  Matchless L (c :: s)
  := by
  intro before t w rest hs hfront
  cases before with
  | nil =>
      obtain rfl : c :: s = t := hs
      apply hnone w rest hfront
  | cons d before =>
      obtain ⟨-, hs⟩ := List.cons.inj hs
      apply h before t w rest hs hfront

end CText
