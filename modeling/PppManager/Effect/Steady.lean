import PppManager.Effect.Machine

/-!
# Steady outsides

An outside is steady if it answers an operation alike at every moment.  A program that only asks, so
that what it gets depends on the answers alone, gives the same on a steady outside from every state
and at every moment (`Machine.exec_steady`).
-/

namespace Effect

variable {E : Signature} {σ ε α : Type}

namespace Machine

variable (M : Machine E σ ε)

/-- The oracle that answers an operation alike at every moment. -/
@[reducible] def steady (x : (o : E.Op) → M.Ans o) : M.Oracle :=
  fun _ => x

/-- What a run gives: its value, or the error it stops with. -/
def gives (ω : M.Oracle) (p : Program E α) (t : ℕ) (s : σ) : Except ε α :=
  (M.exec ω p t s).map Prod.fst

/-- The operation leaves every state as it is, and what it gives depends on the answer alone. -/
def Asks (o : E.Op) : Prop :=
  ∀ x, ∃ r : Except ε (E.Res o), ∀ s, M.step o x s = r.map fun v => (v, s)

variable {M} {x : (o : E.Op) → M.Ans o}

/-- A program that only asks gives the same from every state. -/
theorem exec_steady {p : Program E α} (hp : p.Only M.Asks) (t t₀ : ℕ) (s s₀ : σ) :
  ∃ t', M.exec (M.steady x) p t s = (M.gives (M.steady x) p t₀ s₀).map fun a => (a, s, t')
  := by
  induction p generalizing t t₀ with
  | ret a => exact ⟨t, rfl⟩
  | call o k ih =>
      obtain ⟨r, hr⟩ := hp.1 (x o)
      cases r with
      | error e =>
          use t
          rw [gives, exec, exec, hr, hr]
          rfl
      | ok r =>
          obtain ⟨t', hexec⟩ := ih r (hp.2 r) (t + 1) (t₀ + 1)
          use t'
          rw [gives, exec, exec, hr, hr]
          apply hexec

end Machine

end Effect
