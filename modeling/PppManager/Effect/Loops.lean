import PppManager.Effect.Machine

/-!
# Loops

A loop goes through indices with an accumulator; its body continues the loop with a new accumulator,
or leaves it with a value.  `Machine.loopSteps` counts how often a run enters the body.
-/

namespace Effect

variable {E : Signature} {σ ε α β γ : Type}

namespace Program

/-- The loop through `k` indices from `i` on. -/
def forLoop (body : ℕ → β → Program E (β ⊕ α)) : ℕ → ℕ → β → Program E (β ⊕ α)
  | _, 0, x => pure (.inl x)
  | i, k + 1, x => do
      match ← body i x with
      | .inl x' => forLoop body (i + 1) k x'
      | .inr a => pure (.inr a)

end Program

namespace Machine

open Program

variable (M : Machine E σ ε) (ω : M.Oracle)

/-- How often the run of a loop enters its body. -/
def loopSteps (body : ℕ → β → Program E (β ⊕ α)) : ℕ → ℕ → β → ℕ → σ → ℕ
  | _, 0, _, _, _ => 0
  | i, k + 1, x, t, s =>
      match M.exec ω (body i x) t s with
      | .ok (.inl x', s', t') => loopSteps body (i + 1) k x' t' s' + 1
      | _ => 1

/-- The number of steps after the run of a program, if it ends. -/
def stepsAfter (p : Program E γ) (steps : γ → ℕ → σ → ℕ) (t : ℕ) (s : σ) : ℕ :=
  match M.exec ω p t s with
  | .ok (c, s', t') => steps c t' s'
  | .error _ => 0

variable {M ω} {body : ℕ → β → Program E (β ⊕ α)} {i k t : ℕ} {x : β} {s : σ}

/-- A loop through `k` indices enters its body at most `k` times. -/
theorem loopSteps_le :
  M.loopSteps ω body i k x t s ≤ k
  := by
  induction k generalizing i x t s with
  | zero => apply Nat.le_refl
  | succ k ih =>
      rw [loopSteps]
      split
      · apply Nat.succ_le_succ ih
      · apply Nat.succ_le_succ (Nat.zero_le k)

theorem stepsAfter_le {p : Program E γ} {steps : γ → ℕ → σ → ℕ} {n : ℕ}
    (h : ∀ c t s, steps c t s ≤ n) :
  M.stepsAfter ω p steps t s ≤ n
  := by
  rw [stepsAfter]
  split
  · apply h
  · apply Nat.zero_le

/-- A loop whose body passes every index before `m`, and performs an operation at the index `m`,
performs it. -/
theorem performs_forLoop {B : E.Op → σ → Prop} {I : ℕ → ℕ → σ → Prop} {m : ℕ}
    (hpass : ∀ j x t s, i ≤ j → j < m → I j t s →
      ∃ x' s' t', M.exec ω (body j x) t s = .ok (.inl x', s', t') ∧ I (j + 1) t' s')
    (hend : ∀ x t s, I m t s → M.Performs ω B (body m x) t s) (hi : i ≤ m) (hk : m < i + k)
    (h : I i t s) :
  M.Performs ω B (forLoop body i k x) t s
  := by
  induction k generalizing i x t s with
  | zero => omega
  | succ k ih =>
      rw [forLoop, performs_bind]
      rcases Nat.eq_or_lt_of_le hi with rfl | hlt
      · left
        apply hend x t s h
      · right
        obtain ⟨x', s', t', hexec, h'⟩ := hpass i x t s (Nat.le_refl i) hlt h
        refine ⟨.inl x', s', t', hexec, ?_⟩
        apply ih _ hlt _ h'
        · intro j x t s hij
          apply hpass j x t s (Nat.le_of_succ_le hij)
        · omega

end Machine

/-- A loop whose body keeps a property of the states keeps it. -/
theorem Contract.wp_forLoop {M : Machine E σ ε} {C : Contract M} {I : σ → Prop}
    {body : ℕ → β → Program E (β ⊕ α)} {i k : ℕ} {x : β} {s : σ}
    (hbody : ∀ j x s, i ≤ j → j < i + k → I s → C.wp (body j x) (fun _ s' => I s') s) (hs : I s) :
  C.wp (Program.forLoop body i k x) (fun _ s' => I s') s
  := by
  induction k generalizing i x s with
  | zero => apply hs
  | succ k ih =>
      rw [Program.forLoop, Contract.wp_bind]
      apply Contract.wp_mono _ (hbody i x s (Nat.le_refl i) (by omega) hs)
      rintro (x' | a) s' hs'
      · apply ih _ hs'
        intro j x s hij hj
        apply hbody j x s <;> omega
      · apply hs'

end Effect
