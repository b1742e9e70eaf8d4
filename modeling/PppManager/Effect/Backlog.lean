import Mathlib.Algebra.BigOperators.Intervals

/-!
# The backlog of a queue

In each round `k` at most `d k` items enter a queue, and then one leaves it if there is any.  The
backlog before round `n` is the number of items in the queue where in every round `d k` items enter.

A queue of capacity `c` has room for the items of round `n` if and only if in every stretch of
rounds that ends with round `n` the items that enter are at most `c`, and one more for each round
before the last (`backlog_add_le_iff`).
-/

namespace Effect

open Finset

/-- The number of items in the queue before a round. -/
def backlog (d : ℕ → ℕ) : ℕ → ℕ
  | 0 => 0
  | n + 1 => backlog d n + d n - 1

variable (d : ℕ → ℕ)

theorem backlog_succ_add_le_iff (c n : ℕ) :
  backlog d (n + 1) + d (n + 1) ≤ c ↔ d (n + 1) ≤ c ∧ backlog d n + d n ≤ c + 1 - d (n + 1)
  := by
  rw [backlog]
  omega

/-- The queue has room for the items of round `n` if and only if no stretch of rounds that ends with
it brings too many. -/
theorem backlog_add_le_iff (c n : ℕ) :
  backlog d n + d n ≤ c ↔ ∀ m ≤ n, ∑ k ∈ Icc m n, d k ≤ c + (n - m)
  := by
  induction n generalizing c with
  | zero =>
      constructor
      · intro h m hm
        obtain rfl := Nat.le_zero.mp hm
        rw [Icc_self, sum_singleton]
        apply Nat.le_trans (Nat.le_add_left _ _) h
      · intro h
        have h0 := h 0 (Nat.le_refl 0)
        rw [Icc_self, sum_singleton] at h0
        rw [backlog, Nat.zero_add]
        apply h0
  | succ n ih =>
      rw [backlog_succ_add_le_iff, ih]
      constructor
      · rintro ⟨hlast, hbefore⟩ m hm
        rcases Nat.le_or_eq_of_le_succ hm with hle | rfl
        · have h := hbefore m hle
          rw [sum_Icc_succ_top hm]
          omega
        · rw [Icc_self, sum_singleton]
          apply Nat.le_trans hlast (Nat.le_add_right _ _)
      · intro h
        have hlast := h (n + 1) (Nat.le_refl _)
        rw [Icc_self, sum_singleton, Nat.sub_self] at hlast
        use hlast
        intro m hm
        have h := h m (Nat.le_succ_of_le hm)
        rw [sum_Icc_succ_top (Nat.le_succ_of_le hm)] at h
        omega

end Effect
