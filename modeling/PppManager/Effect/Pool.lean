import PppManager.Effect.Machine
import Mathlib.Logic.Function.Basic

/-!
# Threads on a shared state

A pool has a program for each thread and a state they share.  In a move, a thread that has nothing
left to run begins a job, or a thread performs the next operation of its program with an answer of the
outside; a thread whose next operation stops with an error waits.  `Pool.next` gives the pool after a
move.
-/

namespace Effect

variable {E : Signature} {σ ε T κ : Type}

/-- The programs the threads have left to run, and the state. -/
structure Pool (E : Signature) (σ T : Type) where
  code : T → Program E Unit
  state : σ

/-- The program has ended. -/
def Program.isDone {α : Type} : Program E α → Bool
  | .ret _ => true
  | .call _ _ => false

/-- A move of a thread: it begins a job, or performs its next operation with the answers `x`. -/
inductive Move (M : T → Machine E σ ε) (κ : Type) where
  | enter (t : T) (job : κ)
  | perform (t : T) (x : (o : E.Op) → (M t).Ans o)

namespace Pool

/-- The pool in which no thread has anything to run. -/
def idle (s : σ) : Pool E σ T :=
  ⟨fun _ => .ret (), s⟩

variable [DecidableEq T] {M : T → Machine E σ ε}

/-- The pool after a move, where the move can be made.  `begins` gives what a thread runs for a job,
and the state it begins in. -/
def next (begins : T → κ → σ → Option (Program E Unit × σ)) (l : Move M κ) (w : Pool E σ T) :
    Option (Pool E σ T) :=
  match l with
  | .enter t job =>
    if (w.code t).isDone then
      (begins t job w.state).map fun r => ⟨Function.update w.code t r.1, r.2⟩
    else
      none
  | .perform t x =>
    match w.code t with
    | .ret _ => none
    | .call o k =>
      match (M t).step o (x o) w.state with
      | .ok (r, s') => some ⟨Function.update w.code t (k r), s'⟩
      | .error _ => none

variable {begins : T → κ → σ → Option (Program E Unit × σ)} {w w' : Pool E σ T} {t : T}

/-- A thread begins a job. -/
theorem next_enter {job : κ} (h : next (M := M) begins (.enter t job) w = some w') :
  (w.code t).isDone = true ∧
    ∃ p s', begins t job w.state = some (p, s') ∧ w' = ⟨Function.update w.code t p, s'⟩
  := by
  rw [next] at h
  split_ifs at h with hdone
  obtain ⟨r, hr, rfl⟩ := Option.map_eq_some_iff.mp h
  exact ⟨hdone, r.1, r.2, hr, rfl⟩

/-- A thread performs an operation. -/
theorem next_perform {x : (o : E.Op) → (M t).Ans o}
    (h : next begins (.perform t x) w = some w') :
  ∃ o k r s', w.code t = .call o k ∧ (M t).step o (x o) w.state = .ok (r, s') ∧
    w' = ⟨Function.update w.code t (k r), s'⟩
  := by
  rw [next] at h
  cases hcode : w.code t with
  | ret a =>
      rw [hcode] at h
      cases h
  | call o k =>
      rw [hcode] at h
      dsimp only at h
      cases hstep : (M t).step o (x o) w.state with
      | ok r =>
          rw [hstep] at h
          exact ⟨o, k, r.1, r.2, rfl, hstep, (Option.some.inj h).symm⟩
      | error e =>
          rw [hstep] at h
          cases h

end Pool

end Effect
