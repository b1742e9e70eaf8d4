import PppManager.Effect.Program

/-!
# Machines

A machine gives the operations of a signature a meaning on states in `σ`: what an operation does
depends on the state and on an answer of the outside, and it ends with a result and a new state, or
stops with an error in `ε`.  An oracle is a choice of an answer for every operation at every moment;
`Machine.exec` runs a program from a state with an oracle.

A contract says which answers the outside may give, in which states an operation may be performed,
and which errors are admitted.  `Contract.wp C p Q s` states that every run of `p` from `s` whose
answers the contract allows performs its operations in states they may be performed in
(`Contract.wp_performs`), and ends in a value and a state that satisfy `Q`, or with an admitted error
(`Contract.wp_exec`).
-/

namespace Effect

/-- A machine with states in `σ` and errors in `ε`. -/
structure Machine (E : Signature) (σ ε : Type) where
  Ans : E.Op → Type
  step : (o : E.Op) → Ans o → σ → Except ε (E.Res o × σ)

variable {E : Signature} {σ ε α β : Type}

namespace Machine

/-- An oracle answers every operation at every moment. -/
@[reducible] def Oracle (M : Machine E σ ε) : Type :=
  ℕ → (o : E.Op) → M.Ans o

/-- The run of a program from a moment and a state: the value, the state and the moment it ends
in, or the error it stops with. -/
def exec (M : Machine E σ ε) (ω : M.Oracle) : Program E α → ℕ → σ → Except ε (α × σ × ℕ)
  | .ret a, t, s => .ok (a, s, t)
  | .call o k, t, s =>
      match M.step o (ω t o) s with
      | .ok (r, s') => M.exec ω (k r) (t + 1) s'
      | .error e => .error e

/-- The run of a program from a moment and a state performs an operation in a state that satisfies
`B` with it. -/
def Performs (M : Machine E σ ε) (ω : M.Oracle) (B : E.Op → σ → Prop) :
    Program E α → ℕ → σ → Prop
  | .ret _, _, _ => False
  | .call o k, t, s =>
      B o s ∨
        match M.step o (ω t o) s with
        | .ok (r, s') => M.Performs ω B (k r) (t + 1) s'
        | .error _ => False

/-- The run of a program from a moment and a state gets the answer `x` to the operation `o`. -/
def Gets (M : Machine E σ ε) (ω : M.Oracle) : Program E α → ℕ → σ → (o : E.Op) → M.Ans o → Prop
  | .ret _, _, _, _, _ => False
  | .call o' k, t, s, o, x =>
      (⟨o', ω t o'⟩ : Σ o, M.Ans o) = ⟨o, x⟩ ∨
        match M.step o' (ω t o') s with
        | .ok (r, s') => M.Gets ω (k r) (t + 1) s' o x
        | .error _ => False

variable (M : Machine E σ ε) (ω : M.Oracle)

instance decidablePerforms {B : E.Op → σ → Prop} [∀ o s, Decidable (B o s)] :
    (p : Program E α) → (t : ℕ) → (s : σ) → Decidable (M.Performs ω B p t s)
  | .ret _, _, _ => .isFalse not_false
  | .call o k, t, s =>
      match h : M.step o (ω t o) s with
      | .ok (r, s') =>
          have := decidablePerforms (B := B) (k r) (t + 1) s'
          decidable_of_iff (B o s ∨ M.Performs ω B (k r) (t + 1) s') (by rw [Performs, h])
      | .error _ => decidable_of_iff (B o s) (by rw [Performs, h, or_false])

variable {M ω} in
theorem Performs.mono {B B' : E.Op → σ → Prop} (hB : ∀ o s, B o s → B' o s) {p : Program E α}
    {t : ℕ} {s : σ} (h : M.Performs ω B p t s) :
  M.Performs ω B' p t s
  := by
  induction p generalizing t s with
  | ret a => apply h
  | call o k ih =>
      rw [Performs] at h ⊢
      apply h.imp (hB o s)
      intro hrest
      cases hstep : M.step o (ω t o) s with
      | ok r =>
          rw [hstep] at hrest
          apply ih _ hrest
      | error e =>
          rw [hstep] at hrest
          apply hrest

variable {M ω} in
theorem Performs.exists {B : E.Op → σ → Prop} {p : Program E α} {t : ℕ} {s : σ}
    (h : M.Performs ω B p t s) :
  ∃ o s', B o s'
  := by
  induction p generalizing t s with
  | ret a => apply h.elim
  | call o k ih =>
      rw [Performs] at h
      rcases h with hB | hrest
      · use o, s
      · cases hstep : M.step o (ω t o) s with
        | ok r =>
            rw [hstep] at hrest
            apply ih _ hrest
        | error e =>
            rw [hstep] at hrest
            apply hrest.elim

@[simp]
theorem exec_pure (a : α) (t : ℕ) (s : σ) :
  M.exec ω (pure a) t s = .ok (a, s, t)
  := rfl

/-- A program followed by a program runs the second from where the first ends. -/
theorem exec_bind (p : Program E α) (f : α → Program E β) (t : ℕ) (s : σ) :
  M.exec ω (p >>= f) t s = (M.exec ω p t s).bind (fun r => M.exec ω (f r.1) r.2.2 r.2.1)
  := by
  induction p generalizing t s with
  | ret a => rfl
  | call o k ih =>
      show M.exec ω (.call o (fun r => k r >>= f)) t s = _
      rw [exec, exec]
      cases M.step o (ω t o) s with
      | ok r => apply ih
      | error e => rfl

variable {M ω} {B : E.Op → σ → Prop}

/-- A run of a program followed by a program that ends is a run of the first and one of the second. -/
theorem exec_bind_ok {p : Program E α} {f : α → Program E β} {t t' : ℕ} {s s' : σ} {c : β}
    (hexec : M.exec ω (p >>= f) t s = .ok (c, s', t')) :
  ∃ a s₁ t₁, M.exec ω p t s = .ok (a, s₁, t₁) ∧ M.exec ω (f a) t₁ s₁ = .ok (c, s', t')
  := by
  rw [exec_bind] at hexec
  cases hp : M.exec ω p t s with
  | ok r =>
      rw [hp] at hexec
      exact ⟨r.1, r.2.1, r.2.2, rfl, hexec⟩
  | error e =>
      rw [hp] at hexec
      cases hexec

/-- A program followed by a program performs what the first performs, and what the second performs
from where the first ends. -/
theorem performs_bind {p : Program E α} {f : α → Program E β} {t : ℕ} {s : σ} :
  M.Performs ω B (p >>= f) t s ↔ M.Performs ω B p t s ∨
    ∃ a s' t', M.exec ω p t s = .ok (a, s', t') ∧ M.Performs ω B (f a) t' s'
  := by
  induction p generalizing t s with
  | ret a =>
      constructor
      · intro h
        exact .inr ⟨a, s, t, rfl, h⟩
      · rintro (h | ⟨a', s', t', hexec, h⟩)
        · apply h.elim
        · cases hexec
          apply h
  | call o k ih =>
      show M.Performs ω B (.call o (fun r => k r >>= f)) t s ↔ _
      rw [Performs, Performs, exec]
      cases M.step o (ω t o) s with
      | ok r =>
          dsimp only
          rw [ih, or_assoc]
      | error e =>
          dsimp only
          constructor
          · intro h
            exact .inl h
          · rintro (h | ⟨a, s', t', hexec, -⟩)
            · apply h
            · cases hexec

theorem exec_perform {o : E.Op} {t : ℕ} {s s' : σ} {r : E.Res o}
    (h : M.step o (ω t o) s = .ok (r, s')) :
  M.exec ω (Program.perform o) t s = .ok (r, s', t + 1)
  := by
  rw [Program.perform, exec, h]
  rfl

theorem performs_perform {o : E.Op} {t : ℕ} {s : σ} (h : B o s) :
  M.Performs ω B (Program.perform o) t s
  := by
  rw [Program.perform, Performs]
  apply Or.inl h

theorem performs_map {p : Program E α} {f : α → β} {t : ℕ} {s : σ} :
  M.Performs ω B (f <$> p) t s ↔ M.Performs ω B p t s
  := by
  rw [map_eq_pure_bind, performs_bind]
  constructor
  · rintro (h | ⟨a, s', t', -, h⟩)
    · apply h
    · apply h.elim
  · apply Or.inl

/-- An answer a run gets is one of the oracle, at a moment of the run. -/
theorem Gets.exists {p : Program E α} {t : ℕ} {s : σ} {o : E.Op} {x : M.Ans o}
    (h : M.Gets ω p t s o x) :
  ∃ t' ≥ t, x = ω t' o
  := by
  induction p generalizing t s with
  | ret a => apply h.elim
  | call o' k ih =>
      rw [Gets] at h
      rcases h with hx | hrest
      · cases hx
        exact ⟨t, Nat.le_refl t, rfl⟩
      · cases hstep : M.step o' (ω t o') s with
        | ok r =>
            rw [hstep] at hrest
            obtain ⟨t', ht', hx⟩ := ih _ hrest
            exact ⟨t', Nat.le_of_succ_le ht', hx⟩
        | error e =>
            rw [hstep] at hrest
            apply hrest.elim

/-- A program whose operations do not stop in a state and leave it as it is ends in that state. -/
theorem exec_of_only {P : E.Op → Prop} {s : σ}
    (hstep : ∀ o x, P o → ∃ r, M.step o x s = .ok (r, s)) {p : Program E α} (hp : p.Only P)
    (t : ℕ) :
  ∃ a t', M.exec ω p t s = .ok (a, s, t')
  := by
  induction p generalizing t with
  | ret a => exact ⟨a, t, rfl⟩
  | call o k ih =>
      obtain ⟨r, hr⟩ := hstep o (ω t o) hp.1
      rw [exec, hr]
      apply ih r (hp.2 r)

/-- A program of operations that two machines perform alike runs alike on them. -/
theorem exec_alike {N : Machine E σ ε} {ω' : N.Oracle} {P : E.Op → Prop}
    (hstep : ∀ o t s, P o → M.step o (ω t o) s = N.step o (ω' t o) s) {p : Program E α}
    (hp : p.Only P) (t : ℕ) (s : σ) :
  M.exec ω p t s = N.exec ω' p t s
  := by
  induction p generalizing t s with
  | ret a => rfl
  | call o k ih =>
      rw [exec, exec, hstep o t s hp.1]
      cases N.step o (ω' t o) s with
      | ok r => apply ih r.1 (hp.2 r.1)
      | error e => rfl

theorem performs_alike {N : Machine E σ ε} {ω' : N.Oracle} {P : E.Op → Prop}
    (hstep : ∀ o t s, P o → M.step o (ω t o) s = N.step o (ω' t o) s) {p : Program E α}
    (hp : p.Only P) (t : ℕ) (s : σ) :
  M.Performs ω B p t s ↔ N.Performs ω' B p t s
  := by
  induction p generalizing t s with
  | ret a => rfl
  | call o k ih =>
      rw [Performs, Performs, hstep o t s hp.1]
      apply or_congr_right
      cases N.step o (ω' t o) s with
      | ok r => apply ih r.1 (hp.2 r.1)
      | error e => rfl

/-- A program none of whose operations stops with an error does not stop with it. -/
theorem exec_ne_error_of_only {P : E.Op → Prop} {e : ε}
    (hstep : ∀ o x s, P o → M.step o x s ≠ .error e) {p : Program E α} (hp : p.Only P) (t : ℕ)
    (s : σ) :
  M.exec ω p t s ≠ .error e
  := by
  induction p generalizing t s with
  | ret a => nofun
  | call o k ih =>
      have h := hstep o (ω t o) s hp.1
      rw [exec]
      cases hres : M.step o (ω t o) s with
      | ok r => apply ih r.1 (hp.2 r.1)
      | error e' =>
          rw [hres] at h
          rintro ⟨⟩
          apply h rfl

end Machine

/-! ### Contracts -/

/-- The answers the outside may give, the states an operation may be performed in, and the errors a
run may stop with. -/
structure Contract (M : Machine E σ ε) where
  Allows : (o : E.Op) → M.Ans o → Prop
  Safe : E.Op → σ → Prop
  Admits : ε → Prop

namespace Contract

variable {M : Machine E σ ε} (C : Contract M)

/-- An oracle respects a contract when it only gives answers the contract allows. -/
def Respects (ω : M.Oracle) : Prop :=
  ∀ t o, C.Allows o (ω t o)

/-- What must hold before a program for `Q` to hold after it. -/
def wp : Program E α → (α → σ → Prop) → σ → Prop
  | .ret a, Q, s => Q a s
  | .call o k, Q, s =>
      C.Safe o s ∧
        ∀ x, C.Allows o x →
          match M.step o x s with
          | .ok (r, s') => wp (k r) Q s'
          | .error e => C.Admits e

variable {C}

@[simp]
theorem wp_pure (a : α) (Q : α → σ → Prop) (s : σ) :
  C.wp (pure a) Q s ↔ Q a s
  := Iff.rfl

theorem wp_perform (o : E.Op) (Q : E.Res o → σ → Prop) (s : σ) :
  C.wp (Program.perform o) Q s ↔
    C.Safe o s ∧
      ∀ x, C.Allows o x →
        match M.step o x s with
        | .ok (r, s') => Q r s'
        | .error e => C.Admits e
  := Iff.rfl

@[simp]
theorem wp_bind (p : Program E α) (f : α → Program E β) (Q : β → σ → Prop) (s : σ) :
  C.wp (p >>= f) Q s ↔ C.wp p (fun a => C.wp (f a) Q) s
  := by
  induction p generalizing s with
  | ret a => rfl
  | call o k ih =>
      apply and_congr_right
      intro _
      apply forall_congr'
      intro x
      apply imp_congr_right
      intro _
      cases M.step o x s with
      | ok r => apply ih
      | error e => rfl

@[simp]
theorem wp_map (f : α → β) (p : Program E α) (Q : β → σ → Prop) (s : σ) :
  C.wp (f <$> p) Q s ↔ C.wp p (fun a => Q (f a)) s
  := wp_bind p (fun a => pure (f a)) Q s

theorem wp_mono {p : Program E α} {Q Q' : α → σ → Prop} {s : σ} (hQ : ∀ a s, Q a s → Q' a s)
    (h : C.wp p Q s) :
  C.wp p Q' s
  := by
  induction p generalizing s with
  | ret a => apply hQ _ _ h
  | call o k ih =>
      use h.1
      intro x hx
      have h' := h.2 x hx
      cases hstep : M.step o x s with
      | ok r =>
          rw [hstep] at h'
          apply ih _ h'
      | error e =>
          rw [hstep] at h'
          apply h'

/-- What a contract says of the end of a program holds also under a contract of another machine, if the
machines perform the operations of the program alike. -/
theorem wp_and_alike {N : Machine E σ ε} {D : Contract N} {P : E.Op → Prop}
    (halike : ∀ o x, P o → D.Allows o x → ∃ y, C.Allows o y ∧ ∀ s, N.step o x s = M.step o y s)
    {p : Program E α} (hp : p.Only P) {Q Q' : α → σ → Prop} {s : σ} (h : C.wp p Q s)
    (h' : D.wp p Q' s) :
  D.wp p (fun a s' => Q a s' ∧ Q' a s') s
  := by
  induction p generalizing s with
  | ret a => exact ⟨h, h'⟩
  | call o k ih =>
      use h'.1
      intro x hx
      obtain ⟨y, hy, hstep⟩ := halike o x hp.1 hx
      have hrest := h.2 y hy
      have hrest' := h'.2 x hx
      rw [hstep] at hrest' ⊢
      cases hres : M.step o y s with
      | ok r =>
          rw [hres] at hrest hrest'
          apply ih r.1 (hp.2 r.1) hrest hrest'
      | error e =>
          rw [hres] at hrest'
          apply hrest'

/-- What a contract says of the end of a program holds also under a contract that allows fewer
answers. -/
theorem wp_and {D : Contract M} (hallows : ∀ o x, D.Allows o x → C.Allows o x) {p : Program E α}
    {Q Q' : α → σ → Prop} {s : σ} (h : C.wp p Q s) (h' : D.wp p Q' s) :
  D.wp p (fun a s' => Q a s' ∧ Q' a s') s
  := by
  apply wp_and_alike (P := fun _ => True) _ (Program.only_of_forall (fun _ => trivial) p) h h'
  intro o x _ hx
  exact ⟨x, hallows o x hx, fun _ => rfl⟩

/-- What a contract says of the end of a program on one machine holds of its end on another, if the
states are related and the operations of the program keep them so. -/
theorem wp_through {τ δ : Type} {N : Machine E τ δ} {D : Contract N} {P : E.Op → Prop}
    {R : σ → τ → Prop} (hsafe : ∀ o s u, P o → R s u → D.Safe o u)
    (hstep : ∀ o x s u, P o → R s u → D.Allows o x →
      match N.step o x u with
      | .ok (r, u') => ∃ y s', C.Allows o y ∧ M.step o y s = .ok (r, s') ∧ R s' u'
      | .error e => D.Admits e)
    {p : Program E α} (hp : p.Only P) {Q : α → σ → Prop} {s : σ} {u : τ} (hs : R s u)
    (h : C.wp p Q s) :
  D.wp p (fun a u' => ∃ s', R s' u' ∧ Q a s') u
  := by
  induction p generalizing s u with
  | ret a => exact ⟨s, hs, h⟩
  | call o k ih =>
      use hsafe o s u hp.1 hs
      intro x hx
      have h' := hstep o x s u hp.1 hs hx
      cases hres : N.step o x u with
      | ok r =>
          rw [hres] at h'
          obtain ⟨y, s', hy, hM, hs'⟩ := h'
          have hrest := h.2 y hy
          rw [hM] at hrest
          apply ih r.1 (hp.2 r.1) hs' hrest
      | error e =>
          rw [hres] at h'
          apply h'

/-- A run whose answers a contract allows performs its operations in states they may be performed
in. -/
theorem wp_performs {ω : M.Oracle} (hω : C.Respects ω) {B : E.Op → σ → Prop}
    (hB : ∀ o s, C.Safe o s → ¬ B o s) {p : Program E α} {Q : α → σ → Prop} {t : ℕ} {s : σ}
    (h : C.wp p Q s) :
  ¬ M.Performs ω B p t s
  := by
  induction p generalizing t s with
  | ret a => apply not_false
  | call o k ih =>
      have h' := h.2 (ω t o) (hω t o)
      rw [Machine.Performs]
      rintro (hsafe | hrest)
      · apply hB o s h.1 hsafe
      · cases hstep : M.step o (ω t o) s with
        | ok r =>
            rw [hstep] at h' hrest
            apply ih _ h' hrest
        | error e =>
            rw [hstep] at hrest
            apply hrest

/-- A run whose answers a contract allows ends as the contract's `wp` says. -/
theorem wp_exec {ω : M.Oracle} (hω : C.Respects ω) {p : Program E α} {Q : α → σ → Prop} {t : ℕ}
    {s : σ} (h : C.wp p Q s) :
  match M.exec ω p t s with
  | .ok (a, s', _) => Q a s'
  | .error e => C.Admits e
  := by
  induction p generalizing t s with
  | ret a => apply h
  | call o k ih =>
      have h' := h.2 (ω t o) (hω t o)
      rw [Machine.exec]
      cases hstep : M.step o (ω t o) s with
      | ok r =>
          rw [hstep] at h'
          apply ih _ h'
      | error e =>
          rw [hstep] at h'
          apply h'

theorem wp_exec_ok {ω : M.Oracle} (hω : C.Respects ω) {p : Program E α} {Q : α → σ → Prop}
    {t t' : ℕ} {s s' : σ} {a : α} (h : C.wp p Q s) (hrun : M.exec ω p t s = .ok (a, s', t')) :
  Q a s'
  := by
  have h' := wp_exec (t := t) hω h
  rw [hrun] at h'
  apply h'

/-- A run that gets no answer but such as a contract allows ends as the contract's `wp` says. -/
theorem wp_exec_gets {ω : M.Oracle} {p : Program E α} {Q : α → σ → Prop} {t t' : ℕ} {s s' : σ}
    {a : α} (hgets : ∀ o x, M.Gets ω p t s o x → C.Allows o x) (h : C.wp p Q s)
    (hrun : M.exec ω p t s = .ok (a, s', t')) :
  Q a s'
  := by
  induction p generalizing t s with
  | ret b =>
      cases hrun
      apply h
  | call o k ih =>
      have hfirst : M.Gets ω (.call o k) t s o (ω t o) := by
        rw [Machine.Gets]
        apply Or.inl rfl
      have h' := h.2 (ω t o) (hgets o _ hfirst)
      rw [Machine.exec] at hrun
      cases hstep : M.step o (ω t o) s with
      | ok r =>
          rw [hstep] at h' hrun
          apply ih _ _ h' hrun
          intro o' x hx
          apply hgets o' x
          rw [Machine.Gets, hstep]
          apply Or.inr hx
      | error e =>
          rw [hstep] at hrun
          cases hrun

/-- A program that only performs operations that keep `I` keeps `I`. -/
theorem wp_of_only {P : E.Op → Prop} {I : σ → Prop}
    (hsafe : ∀ o s, P o → I s → C.Safe o s)
    (hstep : ∀ o x s, P o → C.Allows o x → I s →
      match M.step o x s with
      | .ok (_, s') => I s'
      | .error e => C.Admits e)
    {p : Program E α} (hp : p.Only P) {s : σ} (hs : I s) :
  C.wp p (fun _ s' => I s') s
  := by
  induction p generalizing s with
  | ret a => apply hs
  | call o k ih =>
      use hsafe o s hp.1 hs
      intro x hx
      have h' := hstep o x s hp.1 hx hs
      cases hres : M.step o x s with
      | ok r =>
          rw [hres] at h'
          apply ih _ (hp.2 _) h'
      | error e =>
          rw [hres] at h'
          apply h'

end Contract

end Effect
