import Mathlib.Tactic.Common

/-!
# Runs

A step function gives, for a label and a state, the next state where the label can be taken.
`run step ls s` is the state a sequence of labels leads to, and `Throughout step G ls s` states that
every label of the run satisfies `G` in the state it is taken in.  What every such step keeps, the
run keeps (`run_invariant`).
-/

namespace Effect

variable {σ L : Type} (step : L → σ → Option σ)

/-- The state a sequence of labels leads to, where all of them can be taken. -/
def run : List L → σ → Option σ
  | [], s => some s
  | l :: ls, s => (step l s).bind (run ls)

/-- Every label of the run satisfies `G` in the state it is taken in. -/
def Throughout (G : L → σ → Prop) : List L → σ → Prop
  | [], _ => True
  | l :: ls, s => G l s ∧ ∀ s', step l s = some s' → Throughout G ls s'

/-- Some label of the run satisfies `G` in the state it is taken in. -/
def Sometime (G : L → σ → Prop) : List L → σ → Prop
  | [], _ => False
  | l :: ls, s => G l s ∨ ∃ s', step l s = some s' ∧ Sometime G ls s'

/-- Every label of the run passes the test `g` in the state it is taken in. -/
def check (g : L → σ → Bool) : List L → σ → Bool
  | [], _ => true
  | l :: ls, s =>
      g l s &&
        match step l s with
        | some s' => check g ls s'
        | none => true

variable {step}

theorem run_append (ls ls' : List L) (s : σ) :
  run step (ls ++ ls') s = (run step ls s).bind (run step ls')
  := by
  induction ls generalizing s with
  | nil => rfl
  | cons l ls ih =>
      rw [List.cons_append, run, run, Option.bind_assoc]
      congr 1
      funext s'
      apply ih

/-- What every step that satisfies `G` keeps, a run of such steps keeps. -/
theorem run_invariant {I : σ → Prop} {G : L → σ → Prop}
    (hstep : ∀ l s s', I s → G l s → step l s = some s' → I s') {ls : List L} {s s' : σ}
    (hs : I s) (hG : Throughout step G ls s) (hrun : run step ls s = some s') :
  I s'
  := by
  induction ls generalizing s with
  | nil =>
      obtain rfl := Option.some.inj hrun
      apply hs
  | cons l ls ih =>
      obtain ⟨s₁, h₁, hrest⟩ := Option.bind_eq_some_iff.mp hrun
      apply ih (hstep l s s₁ hs hG.1 h₁) (hG.2 s₁ h₁) hrest

/-- What a step that satisfies `G` brings about, and every step that satisfies `H` keeps, holds at the
end of a run of steps that satisfy `H`, where one satisfies `G`. -/
theorem run_of_sometime {I P : σ → Prop} {G H : L → σ → Prop}
    (hI : ∀ l s s', I s → step l s = some s' → I s')
    (hG : ∀ l s s', I s → H l s → G l s → step l s = some s' → P s')
    (hP : ∀ l s s', I s → P s → H l s → step l s = some s' → P s') {ls : List L} {s s' : σ}
    (hs : I s) (hH : Throughout step H ls s) (hsome : Sometime step G ls s)
    (hrun : run step ls s = some s') :
  P s'
  := by
  induction ls generalizing s with
  | nil => apply hsome.elim
  | cons l ls ih =>
      obtain ⟨s₁, h₁, hrest⟩ := Option.bind_eq_some_iff.mp hrun
      have hI₁ := hI l s s₁ hs h₁
      rcases hsome with hl | ⟨s₂, h₂, hsome⟩
      · have hend : I s' ∧ P s' := by
          apply run_invariant (I := fun s => I s ∧ P s) _ ⟨hI₁, hG l s s₁ hs hH.1 hl h₁⟩ (hH.2 s₁ h₁)
            hrest
          rintro l s s' ⟨hIs, hPs⟩ hl h
          exact ⟨hI l s s' hIs h, hP l s s' hIs hPs hl h⟩
        apply hend.2
      · obtain rfl := Option.some.inj (h₁.symm.trans h₂)
        apply ih hI₁ (hH.2 _ h₁) hsome hrest

/-- The rest of a run satisfies what the run satisfies. -/
theorem Throughout.of_append {G : L → σ → Prop} {ls ls' : List L} {s s' : σ}
    (h : Throughout step G (ls ++ ls') s) (hrun : run step ls s = some s') :
  Throughout step G ls' s'
  := by
  induction ls generalizing s with
  | nil =>
      obtain rfl := Option.some.inj hrun
      apply h
  | cons l ls ih =>
      obtain ⟨s₁, h₁, hrest⟩ := Option.bind_eq_some_iff.mp hrun
      apply ih (h.2 s₁ h₁) hrest

theorem throughout_and {G G' : L → σ → Prop} {ls : List L} {s : σ}
    (h : Throughout step G ls s) (h' : Throughout step G' ls s) :
  Throughout step (fun l s => G l s ∧ G' l s) ls s
  := by
  induction ls generalizing s with
  | nil => trivial
  | cons l ls ih =>
      use ⟨h.1, h'.1⟩
      intro s₁ h₁
      apply ih (h.2 s₁ h₁) (h'.2 s₁ h₁)

/-- Labels that satisfy `G'` where they satisfy `G` and an invariant of the steps holds. -/
theorem throughout_of_invariant {I : σ → Prop} {G G' : L → σ → Prop}
    (hstep : ∀ l s s', I s → step l s = some s' → I s') (hG : ∀ l s, I s → G l s → G' l s)
    {ls : List L} {s : σ} (hs : I s) (h : Throughout step G ls s) :
  Throughout step G' ls s
  := by
  induction ls generalizing s with
  | nil => trivial
  | cons l ls ih =>
      use hG l s hs h.1
      intro s₁ h₁
      apply ih (hstep l s s₁ hs h₁) (h.2 s₁ h₁)

/-- Two conditions that say the same of a step where an invariant holds, which a step that satisfies
the first keeps, say the same of a run. -/
theorem throughout_iff {I : σ → Prop} {G G' : L → σ → Prop}
    (hstep : ∀ l s s', I s → G l s → step l s = some s' → I s')
    (hG : ∀ l s, I s → (G l s ↔ G' l s)) {ls : List L} {s : σ} (hs : I s) :
  Throughout step G ls s ↔ Throughout step G' ls s
  := by
  induction ls generalizing s with
  | nil => apply Iff.rfl
  | cons l ls ih =>
      constructor
      · rintro ⟨hl, hrest⟩
        use (hG l s hs).mp hl
        intro s₁ h₁
        apply (ih (hstep l s s₁ hs hl h₁)).mp (hrest s₁ h₁)
      · rintro ⟨hl, hrest⟩
        have hl := (hG l s hs).mpr hl
        use hl
        intro s₁ h₁
        apply (ih (hstep l s s₁ hs hl h₁)).mpr (hrest s₁ h₁)

/-- A run of labels that satisfy `G` in every state. -/
theorem throughout_of_forall {G : L → σ → Prop} {ls : List L} {s : σ}
    (h : ∀ l ∈ ls, ∀ s, G l s) :
  Throughout step G ls s
  := by
  induction ls generalizing s with
  | nil => trivial
  | cons l ls ih =>
      use h l List.mem_cons_self s
      intro s₁ _
      apply ih (fun l hl => h l (List.mem_cons_of_mem _ hl))

/-- A run whose labels pass a test for `G` satisfies `G` throughout. -/
theorem throughout_of_check {G : L → σ → Prop} {g : L → σ → Bool} {ls : List L} {s : σ}
    (hg : ∀ l ∈ ls, ∀ s, g l s = true → G l s) (h : check step g ls s = true) :
  Throughout step G ls s
  := by
  induction ls generalizing s with
  | nil => trivial
  | cons l ls ih =>
      obtain ⟨hl, hrest⟩ := Bool.and_eq_true_iff.mp h
      use hg l List.mem_cons_self s hl
      intro s₁ h₁
      rw [h₁] at hrest
      apply ih (fun l hl => hg l (List.mem_cons_of_mem _ hl)) hrest

end Effect
