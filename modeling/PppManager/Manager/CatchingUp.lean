import PppManager.Manager.Deliveries
import Mathlib.Order.WellFounded
import Mathlib.Data.Sum.Order

/-!
# Catching up

When no more requests and messages arrive, the threads finish what they are at, and the event thread
takes what is in the queue.  In whatever order they take their turns, nothing is left to do after
finitely many steps, unless the queue becomes full or something undefined is next; and then the status
that was written last for an event of an interface agrees with that of the interface (`catches_up`).

An operation of the data-model thread shortens its program.  The event thread may have an event to
send; once it has none, an operation may only shorten the queue or its program (`eventRank`).
-/

namespace PppManager

open Effect Effect.Program Function CText

/-- A step without further requests and messages: a thread performs an operation, where sends succeed,
or the event thread turns to an event in the queue. -/
def Threads.Advances (b : Build) (w w' : Threads) : Prop :=
  (∃ t x, (∀ o, SendsSucceed o (x o)) ∧ w.go b (.perform t x) = some w') ∨
    w.state.queue ≠ [] ∧ w.go b (.enter .event .takeEvent) = some w'

/-- The threads advance; if they cannot, nothing happens. -/
def Threads.Continues (b : Build) (w w' : Threads) : Prop :=
  w.Advances b w' ∨ w' = w ∧ ∀ w', ¬ w.Advances b w'

/-- Nothing is left to do, and the status that was written last for an event of an interface agrees with
that of the interface. -/
structure Threads.CaughtUp (b : Build) (w : Threads) : Prop where
  done : ∀ t, (w.code t).isDone = true
  queue : w.state.queue = []
  written : ∀ i : ℕ, Agree (w.state.table i).statuses
    (lastLcpWritten b (i + 1 : ℕ) (busSets (events w.state.acts)) (busWrites w.state.acts))

/-! ### What is left to do -/

open Classical in
/-- The event thread turns to an event, rests, or is at work. -/
noncomputable def phase (b : Build) (w : Threads) : ℕ :=
  if (w.code .event).isDone then 1
  else if w.code .event = EntryPoint.takeEvent.code b ∧ w.state.queue ≠ [] then 0
  else 2

open Classical in
/-- What the event thread has left to do: its program while it may send an event, and then the events
in the queue. -/
noncomputable def eventRank (b : Build) (w : Threads) : ℕ ⊕ Code Unit :=
  if Only Op.IsSilent (w.code .event) then .inl (3 * w.state.queue.length + phase b w)
  else .inr (w.code .event)

/-- What the threads have left to do. -/
noncomputable def rank (b : Build) (w : Threads) : Code Unit × (ℕ ⊕ Code Unit) × Code Unit :=
  (w.code .dataModel, eventRank b w, w.code .event)

/-- Less is left to do. -/
def RankLt : (x y : Code Unit × (ℕ ⊕ Code Unit) × Code Unit) → Prop :=
  Prod.Lex Program.Rest (Prod.Lex (Sum.Lex (· < ·) Program.Rest) Program.Rest)

theorem wellFounded_rankLt :
  WellFounded RankLt
  := by
  have hrest := Program.wellFounded_rest (E := sig) (α := Unit)
  apply WellFounded.prod_lex hrest
  apply WellFounded.prod_lex (Sum.lex_wf wellFounded_lt hrest) hrest

section

variable {b : Build} {w w' : Threads} {s : Sys}

/-- The handling of the queue begins with taking an event, and sends none. -/
theorem takeEvent_code :
  ∃ k, EntryPoint.takeEvent.code b = .call Op.mqReceive k
  := ⟨_, rfl⟩

theorem silent_takeEvent :
  Only Op.IsSilent (EntryPoint.takeEvent.code b)
  := by
  apply only_bind (reads_op (P := Op.IsSilent) (o := .mqReceive) not_false)
  rintro (_ | ev)
  · apply only_pure
  · apply only_bind (silent_processPppEvent ev)
    intro _
    apply only_pure

theorem phase_le (b : Build) (w : Threads) :
  phase b w ≤ 2
  := by
  rw [phase]
  split_ifs <;> decide

theorem eventRank_silent (h : Only Op.IsSilent (w.code .event)) :
  eventRank b w = .inl (3 * w.state.queue.length + phase b w)
  := if_pos h

theorem eventRank_sending (h : ¬ Only Op.IsSilent (w.code .event)) :
  eventRank b w = .inr (w.code .event)
  := if_neg h

/-- The event thread has less left to do, and the data-model thread as much as before. -/
theorem rankLt_of_event {p : Code Unit} (hcode : w'.code = update w.code .event p)
    (h : Sum.Lex (· < ·) Program.Rest (eventRank b w') (eventRank b w) ∨
      eventRank b w' = eventRank b w ∧ Program.Rest (w'.code .event) (w.code .event)) :
  RankLt (rank b w') (rank b w)
  := by
  rw [RankLt, Prod.lex_def]
  right
  constructor
  · rw [rank, rank, hcode, update_of_ne (by decide)]
  · rw [Prod.lex_def]
    apply h

/-- An operation of an event thread that has no event to send leaves no more to do. -/
theorem silent_le {o : Op} {k : o.Res → Code Unit} {x : o.Ans} {q : o.Res}
    (hcode : w.code .event = .call o k) (ho : o.IsSilent)
    (hstep : step .event o x w.state = .ok (q, w'.state)) :
  3 * w'.state.queue.length + phase b w' ≤ 3 * w.state.queue.length + phase b w
  := by
  have hle := phase_le b w'
  have hkept : w'.state.queue.length ≤ w.state.queue.length :=
    (queue_length_step hstep).resolve_right fun h => by
      obtain ⟨⟨ev, rfl⟩, -⟩ := h
      apply ho trivial
  by_cases hturns : w.code .event = EntryPoint.takeEvent.code b ∧ w.state.queue ≠ []
  · -- the event is taken, so the queue is shorter
    obtain ⟨htake, hqueue⟩ := hturns
    obtain ⟨k', hk'⟩ := takeEvent_code (b := b)
    rw [htake, hk'] at hcode
    cases hcode
    obtain ⟨ev, evs, hevs⟩ := List.exists_cons_of_ne_nil hqueue
    rw [step, hevs] at hstep
    have hshorter : w'.state.queue = evs := by
      rw [← (Prod.mk.inj (Except.ok.inj hstep)).2]
    rw [hshorter, hevs, List.length_cons]
    omega
  · have hphase : phase b w = 2 := by
      have hwork : ¬ (w.code .event).isDone = true := by
        rw [hcode]
        rintro ⟨⟩
      rw [phase, if_neg hwork, if_neg hturns]
    rw [hphase]
    omega

/-- An operation of the event thread leaves less to do. -/
theorem rankLt_event {o : Op} {k : o.Res → Code Unit} {x : o.Ans} {q : o.Res}
    (hcode : w.code .event = .call o k) (hstep : step .event o x w.state = .ok (q, w'.state))
    (hcode' : w'.code = update w.code .event (k q)) :
  RankLt (rank b w') (rank b w)
  := by
  have hevent : w'.code .event = k q := by
    rw [hcode', update_self]
  have hrest : Program.Rest (w'.code .event) (w.code .event) := ⟨o, k, q, hcode, hevent⟩
  apply rankLt_of_event hcode'
  by_cases hsilent : Only Op.IsSilent (w.code .event)
  · have hcall := hsilent
    rw [hcode] at hcall
    have hsilent' : Only Op.IsSilent (w'.code .event) := by
      rw [hevent]
      apply hcall.2
    rw [eventRank_silent hsilent, eventRank_silent hsilent']
    rcases Nat.lt_or_eq_of_le (silent_le (b := b) hcode hcall.1 hstep) with hlt | heq
    · exact .inl (Sum.Lex.inl hlt)
    · exact .inr ⟨congrArg Sum.inl heq, hrest⟩
  · left
    rw [eventRank_sending hsilent]
    by_cases hsilent' : Only Op.IsSilent (w'.code .event)
    · rw [eventRank_silent hsilent']
      apply Sum.Lex.sep
    · rw [eventRank_sending hsilent']
      apply Sum.Lex.inr hrest

/-- The event thread turns to an event, and has less left to do. -/
theorem rankLt_turn (hdone : (w.code .event).isDone = true) (hqueue : w.state.queue ≠ [])
    (hcode' : w'.code = update w.code .event (EntryPoint.takeEvent.code b))
    (hstate : w'.state = w.state) :
  RankLt (rank b w') (rank b w)
  := by
  have hevent : w'.code .event = EntryPoint.takeEvent.code b := by
    rw [hcode', update_self]
  have hrests : Only Op.IsSilent (w.code .event) := by
    cases hcode : w.code .event with
    | ret a => trivial
    | call o k =>
        rw [hcode] at hdone
        cases hdone
  have hturns : Only Op.IsSilent (w'.code .event) := by
    rw [hevent]
    apply silent_takeEvent
  have hwork : ¬ (w'.code .event).isDone = true := by
    rw [hevent]
    rintro ⟨⟩
  have hphase : phase b w' = 0 := by
    rw [phase, if_neg hwork, if_pos ⟨hevent, by rw [hstate]; apply hqueue⟩]
  apply rankLt_of_event hcode'
  left
  rw [eventRank_silent hrests, eventRank_silent hturns, hphase, hstate, phase, if_pos hdone]
  apply Sum.Lex.inl
  apply Nat.lt_succ_self

/-- The threads have less left to do after a step. -/
theorem rankLt_of_advances (h : w.Advances b w') :
  RankLt (rank b w') (rank b w)
  := by
  rcases h with ⟨t, x, -, hnext⟩ | ⟨hqueue, hnext⟩
  · obtain ⟨o, k, q, s', hcode, hstep, hw'⟩ := Pool.next_perform hnext
    have hcode' : w'.code = update w.code t (k q) := congrArg Pool.code hw'
    have hstate : w'.state = s' := congrArg Pool.state hw'
    cases t with
    | dataModel =>
        rw [RankLt, Prod.lex_def]
        left
        refine ⟨o, k, q, hcode, ?_⟩
        rw [rank, hcode', update_self]
    | event =>
        rw [← hstate] at hstep
        apply rankLt_event hcode hstep hcode'
  · obtain ⟨hdone, p, s', hp, hw'⟩ := Pool.next_enter hnext
    obtain ⟨rfl, rfl⟩ := Prod.mk.inj (Option.some.inj hp)
    apply rankLt_turn hdone hqueue (congrArg Pool.code hw')
    rw [hw']

/-! ### The contracts -/

/-- A step is a move that keeps to the contracts. -/
theorem Threads.Advances.move (h : w.Advances b w') (c : ℕ) :
  ∃ l, (HandledBelow c l ∧ TakesEvents l ∧ TellsInSections l) ∧ w.go b l = some w'
  := by
  rcases h with ⟨t, x, hx, hnext⟩ | ⟨-, hnext⟩
  · exact ⟨.perform t x, ⟨trivial, trivial, hx⟩, hnext⟩
  · exact ⟨.enter .event .takeEvent, ⟨trivial, trivial, rfl⟩, hnext⟩

/-- The threads keep to their contracts. -/
def Threads.Keeps (b : Build) (r : Option CStr) (w : Threads) : Prop :=
  (∃ g, (sectionViews b r True).Good g w) ∧ logViews.Good () w

variable {r : Option CStr}

theorem Threads.Keeps.continues (h : w.Keeps b r) (hc : (pppIfCountOf r).toNat ≤ pppTableLength)
    (hstep : w.Continues b w') :
  w'.Keeps b r
  := by
  rcases hstep with hadvances | ⟨rfl, -⟩
  · obtain ⟨⟨g, hgood⟩, hlogged⟩ := h
    obtain ⟨l, ⟨hbelow, htakes, htells⟩, hnext⟩ := hadvances.move (pppIfCountOf r).toNat
    obtain ⟨g', -, hgood'⟩ :=
      hgood.next (admits_of_handledBelow hc hbelow (fun _ => htells) w) hnext
    obtain ⟨⟨⟩, -, hlogged'⟩ := hlogged.next (admits_of_takesEvents htakes w) hnext
    exact ⟨⟨g', hgood'⟩, hlogged'⟩
  · apply h

/-- Where something is left to do, a step can be made. -/
theorem Threads.Keeps.advances (h : w.Keeps b r) (hc : (pppIfCountOf r).toNat ≤ pppTableLength)
    (hroom : w.state.queue.length < maxQueueLength) (hdefined : ∀ t, isUndefined (w.code t) = false)
    (hopen : (∃ t, (w.code t).isDone = false) ∨ w.state.queue ≠ []) :
  ∃ w', w.Advances b w'
  := by
  obtain ⟨⟨g, hgood⟩, -⟩ := h
  by_cases hwork : ∃ t, (w.code t).isDone = false
  · obtain ⟨t, -, hgo⟩ := goes_on_of_good hgood hc hroom hdefined hwork
    obtain ⟨w', hw'⟩ := Option.isSome_iff_exists.mp (hgo ((workingOutside 1 none []).answers 0))
    exact ⟨w', .inl ⟨t, _, tellsInSections_goOn t, hw'⟩⟩
  · have hdone : (w.code .event).isDone = true := by
      apply Bool.eq_true_of_not_eq_false
      intro h
      apply hwork ⟨.event, h⟩
    refine ⟨⟨update w.code .event (EntryPoint.takeEvent.code b), w.state⟩, .inr ⟨?_, ?_⟩⟩
    · apply hopen.resolve_left hwork
    · rw [Threads.go, Pool.next, if_pos hdone]
      rfl

/-- Where nothing is left to do, the statuses have been written. -/
theorem Threads.Keeps.caughtUp (h : w.Keeps b r) (hdone : ∀ t, (w.code t).isDone = true)
    (hqueue : w.state.queue = []) :
  w.CaughtUp b
  where
    done := hdone
    queue := hqueue
    written := by
      obtain ⟨⟨g, hgood⟩, hlogged⟩ := h
      intro i
      have hdisciplined := disciplined_of_good hgood
      have hfree : w.state.locks i = [] := by
        apply (hdisciplined.owned i).resolve_right
        rintro ⟨t, ht⟩
        apply hdisciplined.rests t i (hdone t) ht
      apply written_of_good hgood hlogged (hdone .event) hfree
      rw [hqueue]
      rintro ev ⟨⟩

/-! ### The end -/

/-- However the operations of the two threads interleave, where the sends succeed and a stop is
requested in the setters only, and in whatever order the threads go on from there without further
requests and messages, after finitely many steps nothing is left to do, and the status that was written
last for an event of an interface agrees with that of the interface; unless the queue has become full,
or a thread is about to do something undefined. -/
theorem catches_up {ls : List PointMove} (hs : Initial s)
    (hls : ∀ l ∈ ls, HandledBelow s.pppIfCount.toNat l ∧ TakesEvents l ∧ TellsInSections l)
    (hrun : run (Threads.go b) ls (Pool.idle s) = some w) {f : ℕ → Threads} (hf : f 0 = w)
    (hsteps : ∀ n, (f n).Continues b (f (n + 1))) :
  ∃ n, (f n).CaughtUp b ∨ maxQueueLength ≤ (f n).state.queue.length ∨
    ∃ t, isUndefined ((f n).code t) = true
  := by
  have hc := hs.count_le
  rw [Sys.pppIfCount_eq] at hc
  have hkeeps : ∀ n, (f n).Keeps b (s.psm psmPppManagerPppIfCount) := by
    intro n
    induction n with
    | zero =>
        obtain ⟨g, -, hgood⟩ := run_sections True hs (fun l hl => (hls l hl).1)
          (fun _ l hl => (hls l hl).2.2) hrun
        rw [hf]
        exact ⟨⟨g, hgood⟩, run_logged hs (fun l hl => (hls l hl).2.1) hrun⟩
    | succ n ih => apply ih.continues hc (hsteps n)
  obtain ⟨n, hstuck⟩ := exists_stuck
    (Subrelation.wf rankLt_of_advances (InvImage.wf (rank b) wellFounded_rankLt)) hsteps
  use n
  by_contra hopen
  -- something is left to do, and a step can be made
  obtain ⟨hbehind, hroom, hdefined⟩ := And.imp_right not_or.mp (not_or.mp hopen)
  have hleft : (∃ t, ((f n).code t).isDone = false) ∨ (f n).state.queue ≠ [] := by
    by_contra hclosed
    obtain ⟨hdone, hqueue⟩ := not_or.mp hclosed
    apply hbehind
    apply (hkeeps n).caughtUp _ (not_not.mp hqueue)
    intro t
    apply Bool.eq_true_of_not_eq_false
    intro h
    apply hdone ⟨t, h⟩
  obtain ⟨w', hw'⟩ := (hkeeps n).advances hc (Nat.not_le.mp hroom)
    (fun t => Bool.eq_false_of_not_eq_true fun h => hdefined ⟨t, h⟩) hleft
  exact hstuck w' hw'

/-! ### Events of a stop that are left -/

/-- Where the threads are done and the queue is empty, no step can be made. -/
theorem not_advances (hdone : ∀ t, (w.code t).isDone = true) (hqueue : w.state.queue = []) :
  ¬ w.Advances b w'
  := by
  rintro (⟨t, x, -, hnext⟩ | ⟨hopen, -⟩)
  · apply not_operates hdone ⟨t, x, hnext⟩
  · apply hopen hqueue

/-- The event thread turns to an event, and performs `k` operations. -/
def handlingMoves (k : ℕ) : List PointMove :=
  .enter .event .takeEvent :: List.replicate k (goOn .event)

theorem advances_handlingMoves {k : ℕ} (hqueue : w.state.queue ≠ [])
    (hrun : run (Threads.go b) (handlingMoves k) w = some w') :
  Relation.ReflTransGen (Threads.Advances b) w w'
  := by
  obtain ⟨w₁, hfirst, hrest⟩ := Option.bind_eq_some_iff.mp hrun
  apply Relation.ReflTransGen.head (.inr ⟨hqueue, hfirst⟩)
  clear hfirst hrun
  induction k generalizing w₁ with
  | zero =>
      obtain rfl := Option.some.inj hrest
      apply Relation.ReflTransGen.refl
  | succ k ih =>
      obtain ⟨w₂, hnext, hrest⟩ := Option.bind_eq_some_iff.mp hrest
      apply Relation.ReflTransGen.head (.inl ⟨.event, _, tellsInSections_goOn .event, hnext⟩)
      apply ih w₂ hrest

end

/-- Two events of the stop are left in the queue, and the event thread takes them. -/
theorem catches_up_stopping :
  ∃ (w : Threads) (f : ℕ → Threads),
    run (Threads.go (plainBuild false)) stoppingMoves (Pool.idle (freshState 1)) = some w ∧
    w.state.queue.length = 2 ∧ f 0 = w ∧ (∀ n, (f n).Continues (plainBuild false) (f (n + 1))) ∧
    ∃ n, (f n).CaughtUp (plainBuild false) ∨ maxQueueLength ≤ (f n).state.queue.length ∨
      ∃ t, isUndefined ((f n).code t) = true
  := by
  have hend : (run (Threads.go (plainBuild false)) stoppingMoves (Pool.idle (freshState 1))).bind
      (fun w => (run (Threads.go (plainBuild false)) (handlingMoves 6) w).bind fun w₁ =>
        (run (Threads.go (plainBuild false)) (handlingMoves 6) w₁).map fun w₂ =>
          (w.state.queue.length, w₁.state.queue.length, w₂.state.queue.length,
            (w₂.code .dataModel).isDone, (w₂.code .event).isDone)) =
        some (2, 1, 0, true, true) := by
    decide +kernel
  obtain ⟨w, hrun, hrest⟩ := Option.bind_eq_some_iff.mp hend
  obtain ⟨w₁, hrun₁, hrest⟩ := Option.bind_eq_some_iff.mp hrest
  obtain ⟨w₂, hrun₂, hw⟩ := Option.map_eq_some_iff.mp hrest
  obtain ⟨hqueue, hw⟩ := Prod.mk.inj hw
  obtain ⟨hqueue₁, hw⟩ := Prod.mk.inj hw
  obtain ⟨hqueue₂, hw⟩ := Prod.mk.inj hw
  obtain ⟨hdata, hevent⟩ := Prod.mk.inj hw
  have hdone : ∀ t, (w₂.code t).isDone = true := by
    rintro (_ | _)
    · apply hdata
    · apply hevent
  have hfirst := advances_handlingMoves (List.ne_nil_of_length_pos (by omega)) hrun₁
  have hsecond := advances_handlingMoves (List.ne_nil_of_length_pos (by omega)) hrun₂
  obtain ⟨f, hf, hsteps⟩ := exists_sequence (hfirst.trans hsecond) fun w'' =>
    not_advances hdone (List.eq_nil_of_length_eq_zero hqueue₂)
  refine ⟨w, f, hrun, hqueue, hf, hsteps, ?_⟩
  apply catches_up (initial_freshState (by rw [pppIfCount_freshState_one]; decide)) _ hrun hf hsteps
  intro l hl
  rw [pppIfCount_freshState_one]
  obtain ⟨hbelow, htakes⟩ := handled_stoppingMoves l hl
  exact ⟨hbelow, htakes, tellsInSections_stoppingMoves l hl⟩

end PppManager
