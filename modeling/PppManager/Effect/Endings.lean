import PppManager.Effect.Pool
import Mathlib.Data.DFinsupp.WellFounded
import Mathlib.Logic.Relation

/-!
# Operations come to an end

A program is a tree, and an operation of a thread leads to a subtree of its program.  So finitely many
threads that begin no further jobs perform finitely many operations, in whatever order they take their
turns and whatever the outside answers (`Pool.wellFounded_operates`).

Where steps come to an end, taking them as long as one can be taken leads to where none can
(`exists_stuck`).
-/

namespace Effect

open Function

variable {E : Signature} {σ ε T κ α : Type}

/-! ### Sequences of steps -/

section

variable {r : α → α → Prop} {x x' : α}

/-- A sequence of steps that stays where it is only when no step can be taken comes to such a place, if
steps come to an end. -/
theorem exists_stuck (hr : WellFounded fun y x => r x y) {f : ℕ → α}
    (hsteps : ∀ n, r (f n) (f (n + 1)) ∨ f (n + 1) = f n ∧ ∀ y, ¬ r (f n) y) :
  ∃ n, ∀ y, ¬ r (f n) y
  := by
  by_contra hnever
  have hforever : ∀ n, r (f n) (f (n + 1)) := by
    intro n
    apply (hsteps n).resolve_right
    rintro ⟨-, hstuck⟩
    exact hnever ⟨n, hstuck⟩
  obtain ⟨n, hn⟩ := WellFounded.not_rel_apply_succ (h := ⟨hr⟩) f
  apply hn (hforever n)

/-- Steps to where none can be taken are the beginning of such a sequence. -/
theorem exists_sequence (h : Relation.ReflTransGen r x x') (hend : ∀ y, ¬ r x' y) :
  ∃ f : ℕ → α, f 0 = x ∧ ∀ n, r (f n) (f (n + 1)) ∨ f (n + 1) = f n ∧ ∀ y, ¬ r (f n) y
  := by
  induction h using Relation.ReflTransGen.head_induction_on with
  | refl => exact ⟨fun _ => x', rfl, fun _ => .inr ⟨rfl, hend⟩⟩
  | @head x y hstep _ ih =>
      obtain ⟨f, hf, hsteps⟩ := ih
      refine ⟨fun n => n.casesOn x f, rfl, ?_⟩
      rintro (_ | n)
      · left
        show r x (f 0)
        rw [hf]
        apply hstep
      · apply hsteps

end

/-! ### Operations -/

/-- `p'` is what is left of `p` after its first operation. -/
def Program.Rest (p' p : Program E α) : Prop :=
  ∃ o k r, p = .call o k ∧ p' = k r

theorem Program.wellFounded_rest :
  WellFounded (Program.Rest (E := E) (α := α))
  := by
  constructor
  intro p
  induction p with
  | ret a =>
      constructor
      rintro p' ⟨o, k, r, hp, -⟩
      cases hp
  | call o k ih =>
      constructor
      rintro p' ⟨o', k', r, hp, rfl⟩
      cases hp
      apply ih r

namespace Pool

variable [DecidableEq T] {M : T → Machine E σ ε} (begins : T → κ → σ → Option (Program E Unit × σ))

/-- A thread leads the pool from `w` to `w'` by an operation. -/
def Operates (w w' : Pool E σ T) : Prop :=
  ∃ t x, next (M := M) begins (.perform t x) w = some w'

/-- There is no end to operations only if there is no end to the jobs that are begun. -/
theorem wellFounded_operates [Finite T] :
  WellFounded (fun w' w => Operates (M := M) begins w w')
  := by
  -- the program of one thread is shorter, those of the threads before it are the same
  have hlex : WellFounded (Pi.Lex (WellOrderingRel (α := T))
      (fun {_} => Program.Rest (E := E) (α := Unit))) :=
    Pi.Lex.wellFounded _ fun _ => Program.wellFounded_rest
  apply Subrelation.wf _ (InvImage.wf Pool.code hlex)
  rintro w' w ⟨t, x, hnext⟩
  obtain ⟨o, k, r, s', hcode, -, rfl⟩ := next_perform hnext
  use t
  constructor
  · intro u hu
    apply update_of_ne
    rintro rfl
    apply irrefl u hu
  · refine ⟨o, k, r, hcode, ?_⟩
    apply update_self

end Pool

end Effect
