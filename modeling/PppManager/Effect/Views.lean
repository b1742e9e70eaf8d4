import PppManager.Effect.Pool
import PppManager.Effect.Runs
import Mathlib.Logic.Relation

/-!
# Threads by what each of them knows

A thread of a pool knows part of the shared state: what it has taken for itself.  `Views` gives each
thread a machine on what it knows, in which the outside also answers for what the other threads may
have done, and a contract of that machine; and it relates what the threads know, and a ghost value
that evolves beside the run, to the shared state.

What the contract says of the jobs, each by itself, then holds of every interleaving of them: the
threads keep to the contract (`Views.Good.next`), so the operation a thread is about to perform is
safe (`Views.Good.safe`), and the ghost value has evolved step by step (`Views.run_good`).
-/

namespace Effect

open Function

variable {E : Signature} {σ ε T κ : Type} [DecidableEq T]

/-- What the threads of a pool know, in `τ`, beside a ghost value in `γ`. -/
structure Views (M : T → Machine E σ ε) (τ δ γ : Type) where
  /-- The machine on what a thread knows. -/
  view : Machine E τ δ
  contract : T → Contract view
  /-- What the threads know fits the ghost value and the state. -/
  Fits : γ → (T → τ) → σ → Prop
  /-- What the outside may answer. -/
  Answers : (t : T) → (o : E.Op) → (M t).Ans o → Prop
  /-- A thread with nothing to run may know this. -/
  Rests : τ → Prop
  /-- A step of the ghost value. -/
  Evolves : γ → γ → Prop
  /-- A safe operation of a thread is one on what it knows, and keeps the rest. -/
  step : ∀ {g v s t o} {x : (M t).Ans o} {r s'}, Fits g v s → (contract t).Safe o (v t) →
    Answers t o x → (M t).step o x s = .ok (r, s') →
    ∃ g' y k, (contract t).Allows o y ∧ view.step o y (v t) = .ok (r, k) ∧
      (g' = g ∨ Evolves g g') ∧ Fits g' (update v t k) s'

namespace Views

variable {M : T → Machine E σ ε} {τ δ γ : Type} (V : Views M τ δ γ)

/-- What the threads have left to run keeps to the contract, on what they know. -/
def Good (g : γ) (w : Pool E σ T) : Prop :=
  ∃ v, V.Fits g v w.state ∧ ∀ t, (V.contract t).wp (w.code t) (fun _ => V.Rests) (v t)

variable {V} {begins : T → κ → σ → Option (Program E Unit × σ)} {g : γ} {w w' : Pool E σ T}

/-- A thread that has nothing left to run rests. -/
theorem rests_of_isDone {t : T} {p : Program E Unit} {k : τ} (hdone : p.isDone = true)
    (h : (V.contract t).wp p (fun _ => V.Rests) k) :
  V.Rests k
  := by
  cases p with
  | ret a => apply h
  | call o f => cases hdone

/-- The programs of the threads, where one of them goes on. -/
theorem wp_update {v : T → τ} {t : T} {p : Program E Unit} {k : τ}
    (hcode : ∀ u, (V.contract u).wp (w.code u) (fun _ => V.Rests) (v u))
    (hp : (V.contract t).wp p (fun _ => V.Rests) k) (u : T) :
  (V.contract u).wp (update w.code t p u) (fun _ => V.Rests) (update v t k u)
  := by
  by_cases hu : u = t
  · obtain rfl := hu
    rw [update_self, update_self]
    apply hp
  · rw [update_of_ne hu, update_of_ne hu]
    apply hcode u

/-- The operation a thread is about to perform is safe for what it knows. -/
theorem Good.safe (h : V.Good g w) :
  ∃ v, V.Fits g v w.state ∧ (∀ t, (w.code t).isDone = true → V.Rests (v t)) ∧
    ∀ t o k, w.code t = .call o k → (V.contract t).Safe o (v t)
  := by
  obtain ⟨v, hfits, hcode⟩ := h
  refine ⟨v, hfits, ?_, ?_⟩
  · intro t hdone
    apply rests_of_isDone hdone (hcode t)
  · intro t o k ht
    have hsafe := hcode t
    rw [ht] at hsafe
    apply hsafe.1

/-- A job that the move begins leaves the state as it is, and keeps to the contract of its thread, and
what is answered may be answered. -/
structure Admits (V : Views M τ δ γ) (begins : T → κ → σ → Option (Program E Unit × σ))
    (l : Move M κ) (w : Pool E σ T) : Prop where
  job : ∀ t job p s', l = .enter t job → begins t job w.state = some (p, s') →
    s' = w.state ∧ ∀ k, V.Rests k → (V.contract t).wp p (fun _ => V.Rests) k
  answers : ∀ t x, l = .perform t x → ∀ o, V.Answers t o (x o)

/-- A move keeps to the contracts, if a job it begins does. -/
theorem Good.next {l : Move M κ} (h : V.Good g w) (hl : V.Admits begins l w)
    (hnext : Pool.next begins l w = some w') :
  ∃ g', (g' = g ∨ V.Evolves g g') ∧ V.Good g' w'
  := by
  obtain ⟨v, hfits, hcode⟩ := h
  cases l with
  | enter t job =>
      obtain ⟨hdone, p, s', hp, rfl⟩ := Pool.next_enter hnext
      obtain ⟨rfl, hwp⟩ := hl.job t job p s' rfl hp
      have hrests := rests_of_isDone hdone (hcode t)
      refine ⟨g, .inl rfl, v, hfits, ?_⟩
      intro u
      have h := wp_update hcode (hwp (v t) hrests) u
      rw [update_eq_self] at h
      apply h
  | perform t x =>
      obtain ⟨o, f, r, s', ht, hstep, rfl⟩ := Pool.next_perform hnext
      have hwp := hcode t
      rw [ht] at hwp
      obtain ⟨g', y, k, hy, hview, hg, hfits'⟩ := V.step hfits hwp.1 (hl.answers t x rfl o) hstep
      have hrest := hwp.2 y hy
      rw [hview] at hrest
      exact ⟨g', hg, update v t k, hfits', wp_update hcode hrest⟩

/-- In a pool with nothing to run, the threads keep to the contracts. -/
theorem good_idle {s : σ} {v : T → τ} (hfits : V.Fits g v s) (hrests : ∀ t, V.Rests (v t)) :
  V.Good g (Pool.idle s)
  := ⟨v, hfits, hrests⟩

/-- A run keeps to the contracts, if the jobs it begins do, and the ghost value evolves step by
step. -/
theorem run_good {ls : List (Move M κ)} (h : V.Good g w)
    (hls : Throughout (Pool.next begins) (V.Admits begins) ls w)
    (hrun : run (Pool.next begins) ls w = some w') :
  ∃ g', Relation.ReflTransGen V.Evolves g g' ∧ V.Good g' w'
  := by
  apply run_invariant (I := fun w => ∃ g', Relation.ReflTransGen V.Evolves g g' ∧ V.Good g' w) _
    ⟨g, .refl, h⟩ hls hrun
  rintro l w w' ⟨g₁, hsteps, h₁⟩ hl hnext
  obtain ⟨g₂, rfl | hstep, h₂⟩ := h₁.next hl hnext
  · exact ⟨_, hsteps, h₂⟩
  · exact ⟨g₂, hsteps.tail hstep, h₂⟩

end Views

end Effect
