import PppManager.Effect.Machine

/-!
# Checked operations

`Program.Checks P F V p` states that `p` checks the results of its operations: after a result in `F`
it only returns values in `V`.  A run that returns a value outside `V` has then seen no result in `F`
(`Machine.not_gets_of_checks`).

Two oracles whose answers only differ where the first gives an answer in `B` lead a run that gets no
such answer to the same end (`Machine.exec_follows`).
-/

namespace Effect

variable {E : Signature} {σ ε α β : Type}

namespace Program

/-- Every value the program may return satisfies `V`. -/
def Ends (V : α → Prop) : Program E α → Prop
  | .ret a => V a
  | .call _ k => ∀ r, (k r).Ends V

/-- Every operation of the program satisfies `P`, and after a result in `F` the program only returns
values that satisfy `V`. -/
def Checks (P : E.Op → Prop) (F : (o : E.Op) → E.Res o → Prop) (V : α → Prop) : Program E α → Prop
  | .ret _ => True
  | .call o k => P o ∧ ∀ r, (F o r → (k r).Ends V) ∧ (k r).Checks P F V

variable {P : E.Op → Prop} {F : (o : E.Op) → E.Res o → Prop} {V : α → Prop} {W : β → Prop}
  {p : Program E α} {f : α → Program E β}

theorem ends_pure {a : α} (h : V a) :
  Ends V (pure a : Program E α)
  := h

theorem ends_bind (hf : ∀ a, Ends W (f a)) :
  Ends W (p >>= f)
  := by
  induction p with
  | ret a => apply hf
  | call o k ih =>
      intro r
      apply ih r

theorem Ends.bind (hp : Ends V p) (hf : ∀ a, V a → Ends W (f a)) :
  Ends W (p >>= f)
  := by
  induction p with
  | ret a => apply hf a hp
  | call o k ih =>
      intro r
      apply ih r (hp r)

/-- A program followed by a program performs what the two perform, where the second knows of the values
the first may return. -/
theorem only_bind_ends (hp : Only P p) (hV : Ends V p) (hf : ∀ a, V a → Only P (f a)) :
  Only P (p >>= f)
  := by
  induction p with
  | ret a => apply hf a hV
  | call o k ih =>
      use hp.1
      intro r
      apply ih r (hp.2 r) (hV r)

theorem checks_pure (a : α) :
  Checks P F V (pure a : Program E α)
  := trivial

/-- A program that sees no result in `F`. -/
theorem checks_of_only {Q : E.Op → Prop} (hP : ∀ o, Q o → P o) (hF : ∀ o r, Q o → ¬ F o r)
    (hp : Only Q p) :
  Checks P F V p
  := by
  induction p with
  | ret a => trivial
  | call o k ih =>
      use hP o hp.1
      intro r
      constructor
      · intro hr
        apply absurd hr (hF o r hp.1)
      · apply ih r (hp.2 r)

theorem Ends.mono {V' : α → Prop} (hV : ∀ a, V a → V' a) (hp : Ends V p) :
  Ends V' p
  := by
  induction p with
  | ret a => apply hV a hp
  | call o k ih =>
      intro r
      apply ih r (hp r)

theorem Checks.mono {V' : α → Prop} (hV : ∀ a, V a → V' a) (hp : Checks P F V p) :
  Checks P F V' p
  := by
  induction p with
  | ret a => trivial
  | call o k ih =>
      use hp.1
      intro r
      constructor
      · intro hr
        apply ((hp.2 r).1 hr).mono hV
      · apply ih r (hp.2 r).2

/-- A program followed by a program checks its results, where the second knows of the first. -/
theorem Checks.bind (hp : Checks P F V p) (hV : ∀ a, V a → Ends W (f a))
    (hf : ∀ a, Checks P F W (f a)) :
  Checks P F W (p >>= f)
  := by
  induction p with
  | ret a => apply hf
  | call o k ih =>
      use hp.1
      intro r
      constructor
      · intro hr
        apply ((hp.2 r).1 hr).bind hV
      · apply ih r (hp.2 r).2

theorem checks_bind_of_only {Q : E.Op → Prop} (hP : ∀ o, Q o → P o) (hF : ∀ o r, Q o → ¬ F o r)
    (hp : Only Q p) (hf : ∀ a, Checks P F W (f a)) :
  Checks P F W (p >>= f)
  := by
  apply (checks_of_only (V := fun _ => False) hP hF hp).bind
  · intro a ha
    apply ha.elim
  · apply hf

theorem checks_ite {c : Prop} [Decidable c] {q : Program E α} (hp : c → Checks P F V p)
    (hq : ¬ c → Checks P F V q) :
  Checks P F V (if c then p else q)
  := by
  split_ifs with h
  · apply hp h
  · apply hq h

theorem Checks.only (hp : Checks P F V p) :
  Only P p
  := by
  induction p with
  | ret a => trivial
  | call o k ih =>
      use hp.1
      intro r
      apply ih r (hp.2 r).2

end Program

namespace Machine

open Program

variable {M : Machine E σ ε} {ω ω' : M.Oracle} {B : (o : E.Op) → M.Ans o → Prop} {t t' : ℕ}
  {s s' : σ} {a : α} {p : Program E α}

/-- A run ends with a value the program may return. -/
theorem exec_ends {V : α → Prop} (hp : Ends V p) (hexec : M.exec ω p t s = .ok (a, s', t')) :
  V a
  := by
  induction p generalizing t s with
  | ret b =>
      cases hexec
      apply hp
  | call o k ih =>
      rw [exec] at hexec
      cases hstep : M.step o (ω t o) s with
      | ok r =>
          rw [hstep] at hexec
          apply ih _ (hp r.1) hexec
      | error e =>
          rw [hstep] at hexec
          cases hexec

/-- A run of a program that checks its results, with a value outside `V`, gets no answer that gives a
result in `F`. -/
theorem not_gets_of_checks {P : E.Op → Prop} {F : (o : E.Op) → E.Res o → Prop} {V : α → Prop}
    (hB : ∀ o x s r s', B o x → M.step o x s = .ok (r, s') → F o r) (hp : Checks P F V p)
    (hexec : M.exec ω p t s = .ok (a, s', t')) (ha : ¬ V a) {o : E.Op} {x : M.Ans o} (hx : B o x) :
  ¬ M.Gets ω p t s o x
  := by
  induction p generalizing t s with
  | ret b => apply not_false
  | call o' k ih =>
      rw [exec] at hexec
      rw [Gets]
      cases hstep : M.step o' (ω t o') s with
      | ok r =>
          rw [hstep] at hexec
          rintro (hfirst | hrest)
          · cases hfirst
            apply ha (exec_ends ((hp.2 r.1).1 (hB _ _ _ _ _ hx hstep)) hexec)
          · apply ih r.1 (hp.2 r.1).2 hexec hrest
      | error e =>
          rw [hstep] at hexec
          cases hexec

/-- A program that does not perform an operation gets no answer to it. -/
theorem not_gets_of_only {P : E.Op → Prop} (hp : Only P p) {o : E.Op} (ho : ¬ P o) {x : M.Ans o} :
  ¬ M.Gets ω p t s o x
  := by
  induction p generalizing t s with
  | ret b => apply not_false
  | call o' k ih =>
      rw [Gets]
      rintro (hfirst | hrest)
      · cases hfirst
        apply ho hp.1
      · cases hstep : M.step o' (ω t o') s with
        | ok r =>
            rw [hstep] at hrest
            apply ih r.1 (hp.2 r.1) hrest
        | error e =>
            rw [hstep] at hrest
            apply hrest

/-- A program followed by a program gets the answers the first gets, and those the second gets from
where the first ends. -/
theorem gets_bind {f : α → Program E β} {o : E.Op} {x : M.Ans o} :
  M.Gets ω (p >>= f) t s o x ↔ M.Gets ω p t s o x ∨
    ∃ a s' t', M.exec ω p t s = .ok (a, s', t') ∧ M.Gets ω (f a) t' s' o x
  := by
  induction p generalizing t s with
  | ret a =>
      constructor
      · intro h
        exact .inr ⟨a, s, t, rfl, h⟩
      · rintro (h | ⟨a', s', t', hexec, h⟩)
        · apply h.elim
        · cases hexec
          apply h
  | call o' k ih =>
      show M.Gets ω (.call o' (fun r => k r >>= f)) t s o x ↔ _
      rw [Gets, Gets, exec]
      cases M.step o' (ω t o') s with
      | ok r =>
          dsimp only
          rw [ih, or_assoc]
      | error e =>
          dsimp only
          constructor
          · intro h
            exact .inl h
          · rintro (h | ⟨a, s', t', hexec, -⟩)
            · apply h
            · cases hexec

/-- An answer a run gets is one the oracle gives. -/
theorem answer_of_gets {o : E.Op} {x : M.Ans o} (h : M.Gets ω p t s o x) :
  ∃ t', ω t' o = x
  := by
  induction p generalizing t s with
  | ret a => apply h.elim
  | call o' k ih =>
      rw [Gets] at h
      rcases h with heq | hrest
      · cases heq
        use t
      · cases hstep : M.step o' (ω t o') s with
        | ok r =>
            rw [hstep] at hrest
            apply ih r.1 hrest
        | error e =>
            rw [hstep] at hrest
            apply hrest.elim

/-- A program that performs one operation gets the answer to it. -/
theorem gets_perform {o o' : E.Op} {x : M.Ans o'} :
  M.Gets ω (perform o) t s o' x ↔ (⟨o, ω t o⟩ : Σ o, M.Ans o) = ⟨o', x⟩
  := by
  rw [perform, Gets]
  apply or_iff_left
  cases M.step o (ω t o) s with
  | ok r => apply not_false
  | error e => apply not_false

/-- A program whose value is only changed gets the same answers. -/
theorem gets_bind_pure {f : α → β} {o : E.Op} {x : M.Ans o} :
  M.Gets ω (p >>= fun a => pure (f a)) t s o x ↔ M.Gets ω p t s o x
  := by
  rw [gets_bind]
  apply or_iff_left
  rintro ⟨a, s', t', -, h⟩
  apply h.elim

/-- A run that gets no answer in `B` ends alike with an oracle that only differs where the first
gives an answer in `B`, from a state in a relation the operations keep. -/
theorem exec_follows {P : E.Op → Prop} {R : σ → σ → Prop}
    (hω : ∀ k o, B o (ω k o) ∨ ω' k o = ω k o)
    (hR : ∀ o x s₁ s₂ r s₁', P o → R s₁ s₂ → M.step o x s₁ = .ok (r, s₁') →
      ∃ s₂', M.step o x s₂ = .ok (r, s₂') ∧ R s₁' s₂')
    (hp : Only P p) {s₂ : σ} (hs : R s s₂) (hB : ∀ o x, B o x → ¬ M.Gets ω p t s o x)
    (hexec : M.exec ω p t s = .ok (a, s', t')) :
  ∃ s₂', M.exec ω' p t s₂ = .ok (a, s₂', t') ∧ R s' s₂'
  := by
  induction p generalizing t s s₂ with
  | ret b =>
      cases hexec
      use s₂, rfl
  | call o k ih =>
      have hsame : ω' t o = ω t o := by
        apply (hω t o).resolve_left
        intro h
        apply hB o _ h
        rw [Gets]
        apply Or.inl rfl
      rw [exec] at hexec
      cases hstep : M.step o (ω t o) s with
      | ok r =>
          rw [hstep] at hexec
          obtain ⟨s₂', hstep₂, hs'⟩ := hR o _ s s₂ r.1 r.2 hp.1 hs hstep
          rw [exec, hsame, hstep₂]
          apply ih r.1 (hp.2 r.1) hs' _ hexec
          intro o' x hx hgets
          apply hB o' x hx
          rw [Gets, hstep]
          apply Or.inr hgets
      | error e =>
          rw [hstep] at hexec
          cases hexec

/-- A run of `p` goes on as a run of `q`, and gets no answer in `B` before. -/
structure Continues (M : Machine E σ ε) (ω : M.Oracle) (B : (o : E.Op) → M.Ans o → Prop)
    (p : Program E α) (t : ℕ) (s : σ) (q : Program E α) (t' : ℕ) (s' : σ) : Prop where
  exec : M.exec ω p t s = M.exec ω q t' s'
  gets : ∀ o x, B o x → (M.Gets ω p t s o x ↔ M.Gets ω q t' s' o x)

theorem Continues.refl :
  Continues M ω B p t s p t s
  := ⟨rfl, fun _ _ _ => Iff.rfl⟩

theorem Continues.trans {q r : Program E α} {t₂ t₃ : ℕ} {s₂ s₃ : σ}
    (h : Continues M ω B p t s q t₂ s₂) (h' : Continues M ω B q t₂ s₂ r t₃ s₃) :
  Continues M ω B p t s r t₃ s₃
  := ⟨h.exec.trans h'.exec, fun o x hx => (h.gets o x hx).trans (h'.gets o x hx)⟩

/-- A run goes on after a program that gets no answer in `B`. -/
theorem continues_bind {P : E.Op → Prop} {f : α → Program E β} (hp : Only P p)
    (hP : ∀ o x, P o → ¬ B o x) (hexec : M.exec ω p t s = .ok (a, s', t')) :
  Continues M ω B (p >>= f) t s (f a) t' s'
  where
    exec := by
      rw [exec_bind, hexec]
      rfl
    gets := by
      intro o x hx
      rw [gets_bind, hexec]
      constructor
      · rintro (hfirst | ⟨_, _, _, ⟨⟩, hrest⟩)
        · apply absurd hfirst (not_gets_of_only hp fun ho => hP o x ho hx)
        · apply hrest
      · intro hrest
        exact .inr ⟨_, _, _, rfl, hrest⟩

end Machine

/-- A program ends in what its contract says, with a value it may return. -/
theorem Contract.wp_of_ends {M : Machine E σ ε} {C : Contract M} {p : Program E α} {V : α → Prop}
    {Q : α → σ → Prop} {s : σ} (hp : Program.Ends V p) (h : C.wp p Q s) :
  C.wp p (fun a s' => Q a s' ∧ V a) s
  := by
  induction p generalizing s with
  | ret a => exact ⟨h, hp⟩
  | call o k ih =>
      use h.1
      intro x hx
      have hrest := h.2 x hx
      cases hstep : M.step o x s with
      | ok r =>
          rw [hstep] at hrest
          apply ih _ (hp _) hrest
      | error e =>
          rw [hstep] at hrest
          apply hrest

end Effect
