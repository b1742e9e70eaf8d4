import PppManager.Effect.Runs
import Mathlib.Data.List.Basic

/-!
# Timers

Timers run in the background of a program, beside a clock.  Each timer is of the generation it was
started in; a timer of an earlier generation is stale, but goes off nevertheless, for nothing stops
a timer.  `Fresh T` states that at most one timer runs, and that it is of the present generation.  A
change of the generation keeps the timers fresh only where none runs (`fresh_start_renew_iff`).
-/

namespace Effect

/-- A timer: the generation it was started in, and when it goes off at the earliest. -/
structure Timer (γ : Type) where
  generation : γ
  due : ℕ

/-- The time, the present generation, and the timers that run. -/
structure Timers (γ : Type) where
  now : ℕ
  generation : γ
  running : List (Timer γ)

namespace Timers

variable {γ : Type} {g : γ} {T T' : Timers γ}

/-- No timer runs. -/
def idle (g : γ) : Timers γ where
  now := 0
  generation := g
  running := []

/-- Time passes. -/
def wait (d : ℕ) (T : Timers γ) : Timers γ :=
  { T with now := T.now + d }

/-- The generation changes. -/
def renew (g : γ) (T : Timers γ) : Timers γ :=
  { T with generation := g }

/-- Timers with the delays are started. -/
def start (delays : List ℕ) (T : Timers γ) : Timers γ :=
  { T with running := T.running ++ delays.map (fun d => ⟨T.generation, T.now + d⟩) }

/-- The timer at the position `k` goes off, if its time has come. -/
def fire (k : ℕ) (T : Timers γ) : Option (Timers γ) :=
  match T.running[k]? with
  | some x => if x.due ≤ T.now then some { T with running := T.running.eraseIdx k } else none
  | none => none

/-- At most one timer runs, and it is of the present generation. -/
structure Fresh (T : Timers γ) : Prop where
  single : T.running.length ≤ 1
  current : ∀ x ∈ T.running, x.generation = T.generation

theorem fresh_idle :
  (idle g).Fresh
  := ⟨Nat.zero_le 1, nofun⟩

theorem Fresh.wait (h : T.Fresh) (d : ℕ) :
  (T.wait d).Fresh
  := ⟨h.single, h.current⟩

theorem Fresh.fire (h : T.Fresh) {k : ℕ} (hfire : T.fire k = some T') :
  T'.Fresh
  := by
  rw [Timers.fire] at hfire
  split at hfire
  · split_ifs at hfire
    obtain rfl := Option.some.inj hfire
    constructor
    · apply Nat.le_trans (List.length_eraseIdx_le _ _) h.single
    · intro x hx
      apply h.current x (List.mem_of_mem_eraseIdx hx)
  · cases hfire

/-- Timers of which none is started in the present generation stay as they are. -/
theorem start_renew_self :
  (T.renew T.generation).start [] = T
  := by
  rw [start, List.map_nil, List.append_nil]
  rfl

/-- Timers that are started in a new generation are fresh exactly if no timer ran before, and no more
than one is started. -/
theorem fresh_start_renew_iff (h : T.Fresh) (hg : g ≠ T.generation) {delays : List ℕ} :
  ((T.renew g).start delays).Fresh ↔ T.running = [] ∧ delays.length ≤ 1
  := by
  constructor
  · intro hfresh
    have hnone : T.running = [] := by
      apply List.eq_nil_iff_forall_not_mem.mpr
      intro x hx
      apply hg
      rw [← h.current x hx]
      apply (hfresh.current x (List.mem_append_left _ hx)).symm
    use hnone
    have hsingle := hfresh.single
    rw [start, renew, hnone, List.nil_append, List.length_map] at hsingle
    apply hsingle
  · rintro ⟨hnone, hdelays⟩
    constructor
    · rw [start, renew, hnone, List.nil_append, List.length_map]
      apply hdelays
    · intro x hx
      rw [start, renew, hnone, List.nil_append] at hx
      obtain ⟨d, -, rfl⟩ := List.mem_map.mp hx
      rfl

end Timers

end Effect
