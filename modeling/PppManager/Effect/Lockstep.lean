import PppManager.Effect.Machine

/-!
# Programs in lockstep

Two runs of a machine from related states, which get the same answers, stay related as long as they
perform the same operations, each of which keeps the states related.  `Lockstep M R B V p p'` states
that `p` and `p'` do so whatever the answers, up to the first operation of `p` that is in `B`, and
that their values are related by `V` if they end (`Lockstep.exec`).
-/

namespace Effect

variable {E : Signature} {σ ε α β γ δ : Type}

/-- Two outcomes: related values, or the same error. -/
inductive Together (T : α → β → Prop) : Except ε α → Except ε β → Prop
  | ok {a : α} {b : β} (h : T a b) : Together T (.ok a) (.ok b)
  | error (e : ε) : Together T (.error e) (.error e)

/-- In related states, an operation that gets the same answer ends with results that `T` relates in
related states, or stops with the same error. -/
def Machine.Keeps (M : Machine E σ ε) (R : σ → σ → Prop) (o : E.Op)
    (T : E.Res o → E.Res o → Prop) : Prop :=
  ∀ x s s', R s s' → Together (fun r r' => T r.1 r'.1 ∧ R r.2 r'.2) (M.step o x s) (M.step o x s')

/-- The programs perform the same operations and have values that `V` relates, as long as the first
performs none in `B`. -/
inductive Lockstep (M : Machine E σ ε) (R : σ → σ → Prop) (B : E.Op → Prop) (V : α → β → Prop) :
    Program E α → Program E β → Prop
  | ret {a : α} {b : β} (h : V a b) : Lockstep M R B V (.ret a) (.ret b)
  | stop {o : E.Op} {k : E.Res o → Program E α} {p : Program E β} (ho : B o) :
      Lockstep M R B V (.call o k) p
  | call {o : E.Op} {k : E.Res o → Program E α} {k' : E.Res o → Program E β}
      (T : E.Res o → E.Res o → Prop) (ho : M.Keeps R o T)
      (h : ∀ r r', T r r' → Lockstep M R B V (k r) (k' r')) :
      Lockstep M R B V (.call o k) (.call o k')

namespace Lockstep

variable {M : Machine E σ ε} {R : σ → σ → Prop} {B : E.Op → Prop} {V : α → β → Prop}
  {p : Program E α} {p' : Program E β}

theorem pure {a : α} {b : β} (h : V a b) :
  Lockstep M R B V (Pure.pure a) (Pure.pure b)
  := .ret h

/-- An operation both programs perform. -/
theorem perform {o : E.Op} {T : E.Res o → E.Res o → Prop} (ho : M.Keeps R o T) :
  Lockstep M R B T (Program.perform o) (Program.perform o)
  := .call T ho (fun _ _ h => .ret h)

theorem bind {W : γ → δ → Prop} {f : α → Program E γ} {f' : β → Program E δ}
    (h : Lockstep M R B V p p') (hf : ∀ a b, V a b → Lockstep M R B W (f a) (f' b)) :
  Lockstep M R B W (p >>= f) (p' >>= f')
  := by
  induction h with
  | ret h => apply hf _ _ h
  | stop ho => apply Lockstep.stop ho
  | call T ho _ ih =>
      apply Lockstep.call T ho
      intro r r' hr
      apply ih r r' hr

/-- A program whose operations give the same results in related states goes in lockstep with
itself. -/
theorem of_only {P : E.Op → Prop} (hP : ∀ o, P o → M.Keeps R o Eq) {p : Program E α}
    (hp : p.Only P) :
  Lockstep M R B Eq p p
  := by
  induction p with
  | ret a => apply Lockstep.ret rfl
  | call o k ih =>
      apply Lockstep.call Eq (hP o hp.1)
      rintro r _ rfl
      apply ih r (hp.2 r)

/-- Runs of programs in lockstep, from related states and with the same answers, end alike. -/
theorem exec (h : Lockstep M R B V p p') {ω : M.Oracle} {t : ℕ} {s s' : σ} (hs : R s s')
    (hB : ¬ M.Performs ω (fun o _ => B o) p t s) :
  Together (fun r r' => V r.1 r'.1 ∧ R r.2.1 r'.2.1 ∧ r.2.2 = r'.2.2) (M.exec ω p t s)
    (M.exec ω p' t s')
  := by
  induction h generalizing t s s' with
  | ret h => apply Together.ok ⟨h, hs, rfl⟩
  | stop ho =>
      rw [Machine.Performs, not_or] at hB
      apply absurd ho hB.1
  | @call o k k' T ho _ ih =>
      rw [Machine.Performs, not_or] at hB
      rw [Machine.exec, Machine.exec]
      have hstep := ho (ω t o) s s' hs
      generalize M.step o (ω t o) s' = q' at hstep ⊢
      cases hq : M.step o (ω t o) s with
      | error e =>
          rw [hq] at hstep
          cases hstep
          apply Together.error
      | ok r =>
          rw [hq] at hstep hB
          cases hstep with
          | ok h => apply ih _ _ h.1 h.2 hB.2

end Lockstep

end Effect
