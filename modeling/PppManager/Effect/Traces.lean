import PppManager.Effect.Runs
import Mathlib.Data.List.Basic

/-!
# Traces

A `Transducer` moves from state to state by labels, and puts something out at every move.  It is the
abstract side of a simulation: a system implements it if every step of the system is a sequence of
moves of the transducer, with the same outputs (`Transducer.Implements`).  A run of the system then
has the outputs of the moves of all its steps (`Transducer.Implements.run`), so what every move of the
transducer keeps (`Transducer.after_induction`) is known of the system.
-/

namespace Effect

variable {X L O σ K : Type}

/-- A machine that moves by the labels in `L`, with outputs in `O` at every move. -/
structure Transducer (X L O : Type) where
  next : L → X → X
  output : L → X → List O

namespace Transducer

variable (T : Transducer X L O)

/-- The state after some moves. -/
def after : List L → X → X
  | [], x => x
  | l :: ls, x => after ls (T.next l x)

/-- The outputs of some moves. -/
def outputs : List L → X → List O
  | [], _ => []
  | l :: ls, x => T.output l x ++ outputs ls (T.next l x)

variable {T}

theorem after_append (ls ls' : List L) (x : X) :
  T.after (ls ++ ls') x = T.after ls' (T.after ls x)
  := by
  induction ls generalizing x with
  | nil => rfl
  | cons l ls ih => apply ih

theorem outputs_append (ls ls' : List L) (x : X) :
  T.outputs (ls ++ ls') x = T.outputs ls x ++ T.outputs ls' (T.after ls x)
  := by
  induction ls generalizing x with
  | nil => rfl
  | cons l ls ih =>
      rw [List.cons_append, outputs, ih, outputs, List.append_assoc]
      rfl

/-- The transducer whose outputs are seen as `f` says, if at all. -/
def seenBy {O' : Type} (f : O → Option O') (T : Transducer X L O) : Transducer X L O' where
  next := T.next
  output := fun l x => (T.output l x).filterMap f

theorem after_seenBy {O' : Type} (f : O → Option O') (ls : List L) (x : X) :
  (T.seenBy f).after ls x = T.after ls x
  := by
  induction ls generalizing x with
  | nil => rfl
  | cons l ls ih => apply ih

theorem outputs_seenBy {O' : Type} (f : O → Option O') (ls : List L) (x : X) :
  (T.seenBy f).outputs ls x = (T.outputs ls x).filterMap f
  := by
  induction ls generalizing x with
  | nil => rfl
  | cons l ls ih =>
      rw [outputs, outputs, List.filterMap_append, ih]
      rfl

/-- What every move keeps of the outputs up to then and the state, some moves keep. -/
theorem after_induction {I : List O → X → Prop} {ls : List L}
    (hmove : ∀ l ∈ ls, ∀ out x, I out x → I (out ++ T.output l x) (T.next l x)) {out : List O} {x : X}
    (h : I out x) :
  I (out ++ T.outputs ls x) (T.after ls x)
  := by
  induction ls generalizing out x with
  | nil =>
      rw [outputs, List.append_nil]
      apply h
  | cons l ls ih =>
      rw [outputs, ← List.append_assoc]
      apply ih
      · intro l' hl'
        apply hmove l' (List.mem_cons_of_mem _ hl')
      · apply hmove l List.mem_cons_self out x h

/-- The moves in `lss` are allotted to the steps of a run, to each such that `From` allows for its label
in the state where it is taken. -/
def Allotted (step : K → σ → Option σ) (From : K → σ → L → Prop) : List K → List (List L) → σ → Prop
  | [], [], _ => True
  | k :: ks, ls :: lss, s =>
      (∀ l ∈ ls, From k s l) ∧ ∀ s', step k s = some s' → Allotted step From ks lss s'
  | _, _, _ => False

/-- A move of a run is from a step of it. -/
theorem Allotted.from_mem {step : K → σ → Option σ} {From : K → σ → L → Prop} {ks : List K}
    {lss : List (List L)} {s s' : σ} (h : Allotted step From ks lss s)
    (hrun : Effect.run step ks s = some s') {l : L} (hl : l ∈ lss.flatten) :
  ∃ k ∈ ks, ∃ s₁, From k s₁ l
  := by
  induction ks generalizing lss s with
  | nil =>
      cases lss with
      | nil => cases hl
      | cons ls lss => apply h.elim
  | cons k ks ih =>
      obtain ⟨s₁, hstep, hrest⟩ := Option.bind_eq_some_iff.mp hrun
      cases lss with
      | nil => apply h.elim
      | cons ls lss =>
          rcases List.mem_append.mp hl with hl | hl
          · exact ⟨k, List.mem_cons_self, s, h.1 l hl⟩
          · obtain ⟨k', hk', hfrom⟩ := ih (h.2 s₁ hstep) hrest hl
            exact ⟨k', List.mem_cons_of_mem _ hk', hfrom⟩

/-- Every step of the system, from a state related by `R` and with a label that satisfies `G`, is a
sequence of moves that `From` allows for its label; `told` gives what the system has put out. -/
structure Implements (T : Transducer X L O) (step : K → σ → Option σ) (G : K → σ → Prop)
    (R : X → σ → Prop) (told : σ → List O) (From : K → σ → L → Prop) : Prop where
  moves : ∀ {k s s' x}, R x s → G k s → step k s = some s' →
    ∃ ls, (∀ l ∈ ls, From k s l) ∧ R (T.after ls x) s' ∧ told s' = told s ++ T.outputs ls x

/-- A run of the system is a sequence of moves with the same outputs. -/
theorem Implements.run {step : K → σ → Option σ} {G : K → σ → Prop} {R : X → σ → Prop}
    {told : σ → List O} {From : K → σ → L → Prop} (h : T.Implements step G R told From) {ks : List K}
    {s s' : σ} {x : X} (hx : R x s) (hks : Throughout step G ks s)
    (hrun : Effect.run step ks s = some s') :
  ∃ lss, Allotted step From ks lss s ∧ R (T.after lss.flatten x) s' ∧
    told s' = told s ++ T.outputs lss.flatten x
  := by
  induction ks generalizing s x with
  | nil =>
      obtain rfl := Option.some.inj hrun
      refine ⟨[], trivial, hx, ?_⟩
      symm
      apply List.append_nil
  | cons k ks ih =>
      obtain ⟨s₁, hstep, hrest⟩ := Option.bind_eq_some_iff.mp hrun
      obtain ⟨ls, hls, hx₁, htold₁⟩ := h.moves hx hks.1 hstep
      obtain ⟨lss, hlss, hx', htold'⟩ := ih hx₁ (hks.2 s₁ hstep) hrest
      refine ⟨ls :: lss, ⟨hls, ?_⟩, ?_, ?_⟩
      · intro s₂ hstep₂
        obtain rfl := Option.some.inj (hstep.symm.trans hstep₂)
        apply hlss
      · rw [List.flatten_cons, after_append]
        apply hx'
      · rw [List.flatten_cons, outputs_append, htold', htold₁, List.append_assoc]

end Transducer

end Effect
