import PppManager.Effect.Endings
import PppManager.Manager.Interleavings

/-!
# Threads that wait

In every interleaving a mutex is held by one thread, a thread holds one mutex at a time, and gives
back and writes only what it holds (`disciplined`).  So a thread that waits for a mutex holds none, and
the two threads never wait for each other's mutexes: as long as the queue has room, one of them can go
on (`one_goes_on`).  As every program ends, the threads have done their work after finitely many
operations, unless the queue becomes full (`settles`).
-/

namespace PppManager

open Effect Effect.Program Function CText

/-- The thread holds the mutex of the entry `i`, and no other thread does. -/
def Sys.OwnedBy (t : Thread) (i : ℕ) (s : Sys) : Prop :=
  ∃ n, s.locks i = List.replicate (n + 1) t

/-- What holds of the mutexes, of what the threads are about to do, and of what has been posted, where
there are `c` interfaces. -/
structure Disciplined (c : ℕ) (w : Threads) : Prop where
  /-- A mutex is free, or one thread holds it. -/
  owned : ∀ i, w.state.locks i = [] ∨ ∃ t, w.state.OwnedBy t i
  /-- A thread holds one mutex at a time. -/
  single : ∀ t i j, w.state.OwnedBy t i → w.state.OwnedBy t j → i = j
  /-- A thread that has nothing to run holds no mutex. -/
  rests : ∀ t i, (w.code t).isDone = true → ¬ w.state.OwnedBy t i
  /-- A thread that is about to take a mutex holds no other. -/
  locks : ∀ t i k, w.code t = .call (Op.lock i) k → ∀ j, w.state.OwnedBy t j → j = i
  /-- A thread gives back only what it holds. -/
  unlocks : ∀ t i k, w.code t = .call (Op.unlock i) k → w.state.OwnedBy t i
  /-- A thread writes only to an entry whose mutex it holds. -/
  stores : ∀ t i f k, w.code t = .call (Op.store i f) k → w.state.OwnedBy t i
  /-- Every event that has been posted is for one of the interfaces, with its texts. -/
  posts : ∀ ev, Act.post ev ∈ w.state.acts → ev.WellFormed c

/-- The thread can perform its next operation, whatever the outside answers. -/
def Threads.CanGoOn (b : Build) (t : Thread) (w : Threads) : Prop :=
  (w.code t).isDone = false ∧ ∀ x, (w.go b (.perform t x)).isSome

/-- The next thing the program does is undefined. -/
def isUndefined : Code Unit → Bool
  | .call (Op.undefined _) _ => true
  | _ => false

section

variable {b : Build} {A : Prop} {r : Option CStr} {g : ℕ → DmlPppIfFull}
  {v : Thread → Option Section} {s : Sys}
  {ls : List PointMove} {w : Threads} {t : Thread} {i : ℕ}

/-- A thread holds a mutex exactly if it is in a section of the entry. -/
theorem SectionsFit.ownedBy (h : SectionsFit b A r g v s) :
  s.OwnedBy t i ↔ ∃ x, v t = some x ∧ x.index = i
  := by
  constructor
  · rintro ⟨n, hlocks⟩
    by_cases hheld : ∃ u x, v u = some x ∧ x.index = i
    · obtain ⟨u, x, hx, rfl⟩ := hheld
      have ht : t ∈ s.locks x.index := by
        rw [hlocks, List.replicate_succ]
        apply List.mem_cons_self
      obtain rfl := (h.owner hx).mp ht
      exact ⟨x, hx, rfl⟩
    · have hfree := (h.free i fun u x hx hi => hheld ⟨u, x, hx, hi⟩).locks
      rw [hlocks] at hfree
      cases hfree
  · rintro ⟨x, hx, rfl⟩
    exact ⟨x.again, (h.held t x hx).locks⟩

/-- In every state that is reached, the mutexes, what the threads are about to do and what has been
posted are as they should be. -/
theorem disciplined_of_good (h : (sectionViews b r A).Good g w) :
  Disciplined (pppIfCountOf r).toNat w
  := by
  obtain ⟨v, hfits, hrests, hsafe⟩ := h.safe
  have howned : ∀ {t i}, w.state.OwnedBy t i ↔ ∃ x, v t = some x ∧ x.index = i :=
    SectionsFit.ownedBy hfits
  constructor
  · intro i
    by_cases hheld : ∃ u x, v u = some x ∧ x.index = i
    · obtain ⟨u, hx⟩ := hheld
      exact .inr ⟨u, howned.mpr hx⟩
    · exact .inl (hfits.free i fun u x hx hi => hheld ⟨u, x, hx, hi⟩).locks
  · intro t i j hi hj
    obtain ⟨x, hx, rfl⟩ := howned.mp hi
    obtain ⟨y, hy, rfl⟩ := howned.mp hj
    obtain rfl := Option.some.inj (hx.symm.trans hy)
    rfl
  · intro t i hdone hi
    obtain ⟨x, hx, -⟩ := howned.mp hi
    have hnone : v t = none := hrests t hdone
    rw [hnone] at hx
    cases hx
  · intro t i k hcode j hj
    obtain ⟨x, hx, rfl⟩ := howned.mp hj
    apply (hsafe t _ k hcode).2 x hx
  · intro t i k hcode
    obtain ⟨x, hx, hi, -⟩ := hsafe t _ k hcode
    exact howned.mpr ⟨x, hx, hi⟩
  · intro t i f k hcode
    obtain ⟨x, hx, hi⟩ := hsafe t _ k hcode
    exact howned.mpr ⟨x, hx, hi⟩
  · apply hfits.posts

/-- However the operations of the two threads interleave, a mutex is held by one thread, a thread holds
one mutex at a time and gives back and writes only what it holds, and every event that is posted is for
one of the interfaces. -/
theorem disciplined (hs : Initial s) (hls : ∀ l ∈ ls, HandledBelow s.pppIfCount.toNat l)
    (hrun : run (Threads.go b) ls (Pool.idle s) = some w) :
  Disciplined s.pppIfCount.toNat w
  := by
  obtain ⟨g, -, hgood⟩ := run_sections False hs hls False.elim hrun
  rw [Sys.pppIfCount_eq]
  apply disciplined_of_good hgood

/-! ### Waiting -/

/-- An operation that stops a thread, in a section or in none, while the queue has room: it is undefined,
or takes a mutex that the other thread holds. -/
theorem SectionsFit.stops (h : SectionsFit b A r g v s) (hc : (pppIfCountOf r).toNat ≤ pppTableLength)
    (hroom : s.queue.length < maxQueueLength) {o : Op} {a : o.Ans}
    (hsafe : o.SafeIn b (pppIfCountOf r).toNat A (v t)) {e : Stop}
    (hstep : PppManager.step t o a s = .error e) :
  (∃ u, o = .undefined u) ∨ v t = none ∧ ∃ u, u ≠ t ∧ ∃ x, v u = some x
  := by
  have hbound : ∀ {i}, i < (pppIfCountOf r).toNat → ¬ pppTableLength ≤ i :=
    fun hi => Nat.not_le.mpr (Nat.lt_of_lt_of_le hi hc)
  cases o with
  | undefined u => exact .inl ⟨u, rfl⟩
  | lock i =>
      obtain ⟨hi, hindex⟩ := hsafe
      rw [PppManager.step, if_neg (hbound hi)] at hstep
      split_ifs at hstep with hfree
      right
      by_cases hheld : ∃ u x, v u = some x ∧ x.index = i
      · obtain ⟨u, x, hx, rfl⟩ := hheld
        have hu : u ≠ t := by
          rintro rfl
          apply hfree
          intro t' ht'
          apply (h.owner hx).mp ht'
        constructor
        · cases hv : v t with
          | none => rfl
          | some y => apply absurd (hindex y hv) (h.index_ne hx hv (Ne.symm hu))
        · exact ⟨u, hu, x, hx⟩
      · exfalso
        apply hfree
        apply owned_of_free
        apply (h.free i fun u x hx hi => hheld ⟨u, x, hx, hi⟩).locks
  | unlock i =>
      obtain ⟨x, hx, rfl, -⟩ := hsafe
      rw [PppManager.step, (h.held t x hx).locks, List.replicate_succ] at hstep
      dsimp only at hstep
      rw [if_pos rfl] at hstep
      cases hstep
  | load i =>
      rw [PppManager.step, if_neg (hbound hsafe)] at hstep
      cases hstep
  | store i f =>
      obtain ⟨x, hx, rfl⟩ := hsafe
      rw [PppManager.step, if_neg (hbound (h.below t x hx))] at hstep
      cases hstep
  | mqSend ev =>
      rw [PppManager.step, if_pos hroom] at hstep
      split_ifs at hstep
  | mqReceive =>
      rw [PppManager.step] at hstep
      split at hstep <;> cases hstep
  | _ => cases hstep

/-- A thread that cannot go on waits for the other one, and holds no mutex. -/
theorem waits_of_stopped (hfits : SectionsFit b A r g v w.state)
    (hc : (pppIfCountOf r).toNat ≤ pppTableLength) (hroom : w.state.queue.length < maxQueueLength)
    (hdefined : ∀ t, isUndefined (w.code t) = false)
    (hsafe : ∀ t o k, w.code t = .call o k → o.SafeIn b (pppIfCountOf r).toNat A (v t))
    (hwork : (w.code t).isDone = false) (hstopped : ¬ w.CanGoOn b t) :
  v t = none ∧ ∃ u, u ≠ t ∧ ∃ x, v u = some x
  := by
  cases hcode : w.code t with
  | ret a =>
      rw [hcode] at hwork
      cases hwork
  | call o k =>
      by_contra hwaits
      apply hstopped
      use hwork
      intro x
      rw [Threads.go, Pool.next, hcode]
      dsimp only
      cases hstep : step t o (x o) w.state with
      | ok q => rfl
      | error e =>
          rcases hfits.stops hc hroom (hsafe t o k hcode) hstep with ⟨u, rfl⟩ | h
          · have hdef := hdefined t
            rw [hcode] at hdef
            cases hdef
          · apply absurd h hwaits

/-- Where the threads keep to their contracts, one of them can go on. -/
theorem goes_on_of_good (hgood : (sectionViews b r A).Good g w)
    (hc : (pppIfCountOf r).toNat ≤ pppTableLength) (hroom : w.state.queue.length < maxQueueLength)
    (hdefined : ∀ t, isUndefined (w.code t) = false) (hwork : ∃ t, (w.code t).isDone = false) :
  ∃ t, w.CanGoOn b t
  := by
  obtain ⟨v, hfits, hrests, hsafe⟩ := hgood.safe
  obtain ⟨t, ht⟩ := hwork
  by_contra hstuck
  have hstopped : ∀ t, ¬ w.CanGoOn b t := fun t h => hstuck ⟨t, h⟩
  -- the thread waits for the other one, which is in a section, and so waits for nothing
  obtain ⟨-, u, -, x, hx⟩ := waits_of_stopped hfits hc hroom hdefined hsafe ht (hstopped t)
  have hu : (w.code u).isDone = false := by
    apply Bool.eq_false_of_not_eq_true
    intro hdone
    have hnone : v u = none := hrests u hdone
    rw [hnone] at hx
    cases hx
  obtain ⟨hnone, -⟩ := waits_of_stopped hfits hc hroom hdefined hsafe hu (hstopped u)
  rw [hnone] at hx
  cases hx

/-- However the operations of the two threads interleave, as long as the queue has room, and neither
is about to do something undefined, one of the threads that have work left can go on. -/
theorem one_goes_on (hs : Initial s) (hls : ∀ l ∈ ls, HandledBelow s.pppIfCount.toNat l)
    (hrun : run (Threads.go b) ls (Pool.idle s) = some w)
    (hroom : w.state.queue.length < maxQueueLength) (hdefined : ∀ t, isUndefined (w.code t) = false)
    (hwork : ∃ t, (w.code t).isDone = false) :
  ∃ t, w.CanGoOn b t
  := by
  obtain ⟨g, -, hgood⟩ := run_sections False hs hls False.elim hrun
  have hc := hs.count_le
  rw [Sys.pppIfCount_eq] at hc
  apply goes_on_of_good hgood hc hroom hdefined hwork

/-! ### The end of the work -/

instance : Finite Thread := by
  apply Finite.of_surjective (fun v : Bool => if v then Thread.event else Thread.dataModel)
  rintro (_ | _)
  · use false
    rfl
  · use true
    rfl

/-- A thread performs an operation, and the outside answers in some way. -/
abbrev Threads.Operates (b : Build) (w w' : Threads) : Prop :=
  Pool.Operates (M := machine) (enters b) w w'

/-- A thread performs an operation; if no thread can, nothing happens. -/
def Threads.GoesOn (b : Build) (w w' : Threads) : Prop :=
  w.Operates b w' ∨ w' = w ∧ ∀ w', ¬ w.Operates b w'

/-- The threads have done their work, or the queue is full, or one of them does something undefined
next. -/
def Threads.Settled (w : Threads) : Prop :=
  (∀ t, (w.code t).isDone = true) ∨ maxQueueLength ≤ w.state.queue.length ∨
    ∃ t, isUndefined (w.code t) = true

theorem good_of_operates {w' : Threads} (hgood : (sectionViews b r False).Good g w)
    (h : w.Operates b w') :
  ∃ g', (sectionViews b r False).Good g' w'
  := by
  obtain ⟨t, x, hnext⟩ := h
  have hadmits : (sectionViews b r False).Admits (enters b) (.perform t x) w := by
    constructor
    · rintro t' job p s' ⟨⟩
    · rintro t' x' - o ⟨⟩
  obtain ⟨g', -, hgood'⟩ := hgood.next hadmits hnext
  exact ⟨g', hgood'⟩

/-- A run of operations. -/
theorem reflTransGen_operates {w' : Threads} (hls : ∀ l ∈ ls, ∃ t x, l = .perform t x)
    (hrun : run (Threads.go b) ls w = some w') :
  Relation.ReflTransGen (Threads.Operates b) w w'
  := by
  induction ls generalizing w with
  | nil =>
      obtain rfl := Option.some.inj hrun
      apply Relation.ReflTransGen.refl
  | cons l ls ih =>
      obtain ⟨w₁, hnext, hrest⟩ := Option.bind_eq_some_iff.mp hrun
      obtain ⟨t, x, rfl⟩ := hls l List.mem_cons_self
      apply Relation.ReflTransGen.head ⟨t, x, hnext⟩
      apply ih (fun l hl => hls l (List.mem_cons_of_mem _ hl)) hrest

/-- Where the work is done, no operation can be performed. -/
theorem not_operates {w' : Threads} (hdone : ∀ t, (w.code t).isDone = true) :
  ¬ w.Operates b w'
  := by
  rintro ⟨t, x, hnext⟩
  obtain ⟨o, k, r, s', hcode, -⟩ := Pool.next_perform hnext
  have ht := hdone t
  rw [hcode] at ht
  cases ht

/-- However the operations of the two threads interleave, and in whatever order the threads take their
turns from there on, without further calls, they have done their work after finitely many operations,
unless the queue has become full or one of them is about to do something undefined. -/
theorem settles (hs : Initial s) (hls : ∀ l ∈ ls, HandledBelow s.pppIfCount.toNat l)
    (hrun : run (Threads.go b) ls (Pool.idle s) = some w) {f : ℕ → Threads} (hf : f 0 = w)
    (hsteps : ∀ n, (f n).GoesOn b (f (n + 1))) :
  ∃ n, (f n).Settled
  := by
  obtain ⟨g, -, hgood⟩ := run_sections False hs hls False.elim hrun
  have hc := hs.count_le
  rw [Sys.pppIfCount_eq] at hc
  have hgoods : ∀ n, ∃ g, (sectionViews b (s.psm psmPppManagerPppIfCount) False).Good g (f n) := by
    intro n
    induction n with
    | zero =>
        rw [hf]
        exact ⟨g, hgood⟩
    | succ n ih =>
        obtain ⟨g', hgood'⟩ := ih
        rcases hsteps n with hoperates | ⟨hkept, -⟩
        · apply good_of_operates hgood' hoperates
        · rw [hkept]
          exact ⟨g', hgood'⟩
  obtain ⟨n, hstuck⟩ :=
    exists_stuck (Pool.wellFounded_operates (M := machine) (enters b)) hsteps
  use n
  by_contra hunsettled
  -- one of them can go on
  obtain ⟨g', hgood'⟩ := hgoods n
  obtain ⟨hwork, hroom, hdefined⟩ := And.imp_right not_or.mp (not_or.mp hunsettled)
  obtain ⟨t, ht⟩ := not_forall.mp hwork
  obtain ⟨t, -, hgo⟩ := goes_on_of_good hgood' hc (Nat.not_le.mp hroom)
    (fun t => Bool.eq_false_of_not_eq_true fun h => hdefined ⟨t, h⟩)
    ⟨t, Bool.eq_false_of_not_eq_true ht⟩
  obtain ⟨w', hw'⟩ := Option.isSome_iff_exists.mp (hgo ((workingOutside 1 none []).answers 0))
  exact hstuck w' ⟨t, _, hw'⟩

end

/-! ### A thread that waits -/

/-- The event thread waits for the mutex that the request holds. -/
def waitingMoves : List PointMove :=
  [.enter .dataModel (.setter (.interfaceBool 0 "Enable".toList true)), goOn .dataModel,
    .enter .event (.message (stateMessage 0 .interfaceUp)), goOn .event, goOn .event]

theorem handledBelow_waitingMoves :
  ∀ l ∈ waitingMoves, HandledBelow 1 l
  := by
  intro l hl
  apply handledBelow_overlappingMoves 0 l
  apply List.mem_append_left
  apply List.mem_append_left
  apply hl

/-- What is to be seen of the threads after the moves: the owners of the mutex, what is in the queue,
whether the data-model thread has work left, and whether a thread does something undefined next. -/
def waitingEnd : Option (List Thread × ℕ × Bool × Bool × Bool) :=
  (run (Threads.go (plainBuild false)) waitingMoves (Pool.idle (freshState 1))).map fun w =>
    (w.state.locks 0, w.state.queue.length, (w.code .dataModel).isDone,
      isUndefined (w.code .dataModel), isUndefined (w.code .event))

theorem pppIfCount_freshState_one :
  (freshState 1).pppIfCount.toNat = 1
  := by
  decide +kernel

theorem waitingEnd_eq :
  waitingEnd = some ([.dataModel], 0, false, false, false)
  := by
  decide +kernel

theorem disciplined_waiting :
  ∃ w, run (Threads.go (plainBuild false)) waitingMoves (Pool.idle (freshState 1)) = some w ∧
    w.state.OwnedBy .dataModel 0 ∧ Disciplined 1 w
  := by
  obtain ⟨w, hrun, hw⟩ := Option.map_eq_some_iff.mp waitingEnd_eq
  refine ⟨w, hrun, ⟨0, (Prod.mk.inj hw).1⟩, ?_⟩
  rw [← pppIfCount_freshState_one]
  apply disciplined (initial_freshState (by rw [pppIfCount_freshState_one]; decide)) _ hrun
  rw [pppIfCount_freshState_one]
  apply handledBelow_waitingMoves

theorem one_goes_on_waiting :
  ∃ w, run (Threads.go (plainBuild false)) waitingMoves (Pool.idle (freshState 1)) = some w ∧
    ∃ t, w.CanGoOn (plainBuild false) t
  := by
  obtain ⟨w, hrun, hw⟩ := Option.map_eq_some_iff.mp waitingEnd_eq
  obtain ⟨-, hw⟩ := Prod.mk.inj hw
  obtain ⟨hqueue, hw⟩ := Prod.mk.inj hw
  obtain ⟨hdone, hw⟩ := Prod.mk.inj hw
  obtain ⟨hdata, hevent⟩ := Prod.mk.inj hw
  use w, hrun
  apply one_goes_on (initial_freshState (by rw [pppIfCount_freshState_one]; decide)) _ hrun
  · rw [hqueue]
    decide
  · intro t
    cases t with
    | dataModel => apply hdata
    | event => apply hevent
  · use .dataModel, hdone
  · rw [pppIfCount_freshState_one]
    apply handledBelow_waitingMoves

/-- The request gives the mutex back, and the report is handled. -/
def finishingMoves : List PointMove :=
  List.replicate 9 (goOn .dataModel) ++ List.replicate 19 (goOn .event)

theorem settles_waiting :
  ∃ (w : Threads) (f : ℕ → Threads),
    run (Threads.go (plainBuild false)) waitingMoves (Pool.idle (freshState 1)) = some w ∧ f 0 = w ∧
    (∀ n, (f n).GoesOn (plainBuild false) (f (n + 1))) ∧ ∃ n, (f n).Settled
  := by
  have hend : (run (Threads.go (plainBuild false)) waitingMoves (Pool.idle (freshState 1))).bind
      (fun w => (run (Threads.go (plainBuild false)) finishingMoves w).map fun w' =>
        ((w'.code .dataModel).isDone, (w'.code .event).isDone)) = some (true, true) := by
    decide +kernel
  obtain ⟨w, hrun, hrest⟩ := Option.bind_eq_some_iff.mp hend
  obtain ⟨w', hrun', hw'⟩ := Option.map_eq_some_iff.mp hrest
  obtain ⟨hdata, hevent⟩ := Prod.mk.inj hw'
  have hperform : ∀ l ∈ finishingMoves, ∃ t x, l = .perform t x := by
    intro l hl
    rcases List.mem_append.mp hl with h | h <;> exact ⟨_, _, List.eq_of_mem_replicate h⟩
  have hdone : ∀ t, (w'.code t).isDone = true := by
    rintro (_ | _)
    · apply hdata
    · apply hevent
  obtain ⟨f, hf, hsteps⟩ :=
    exists_sequence (reflTransGen_operates hperform hrun') fun _ => not_operates hdone
  refine ⟨w, f, hrun, hf, hsteps, ?_⟩
  apply settles (initial_freshState (by rw [pppIfCount_freshState_one]; decide)) _ hrun hf hsteps
  rw [pppIfCount_freshState_one]
  apply handledBelow_waitingMoves

end PppManager
