import PppManager.Manager.Outside

/-!
# Requests and running clients

A request to enable an interface is an event that is handled later, and a request to disable it
stops the client at once.  A `World` follows, beside the state of the manager, which clients run and
what was last asked for each interface.

As long as no interface is disabled while a start of it is pending, its client runs exactly if that
was asked for last, whenever no start of it is pending (`running_eq_wanted`).
-/

namespace PppManager

open Effect CText

/-- What an act does to the client of the interface it is about. -/
def clientAfter : Act → Option Bool
  | .system command =>
      if startsClient command then some true
      else if command = pppoeStop then some false
      else none
  | .kill _ => some false
  | _ => none

/-- What a list of acts leaves of the client of the interface they are about. -/
def clientAfterAll (acts : List Act) (running : Bool) : Bool :=
  acts.foldl (fun running a => (clientAfter a).getD running) running

/-- The state of the manager, the interfaces whose clients run, and those that were enabled by the
last request about them. -/
structure World where
  sys : Sys
  running : ℕ → Bool
  wanted : ℕ → Bool

namespace World

/-- The world in which no client runs and nothing was asked for. -/
def start (s : Sys) : World where
  sys := s
  running := fun _ => false
  wanted := fun _ => false

/-- The instance a call is about. -/
def subject (s : Sys) : Call → ℕ
  | .enable i _ => i + 1
  | .event => (s.queue.head?.map (fun ev => ev.pppIfInstance.toNat)).getD 0
  | _ => 0

/-- What was last asked for each interface after a call that returned `r`. -/
def wantedAfter (wanted : ℕ → Bool) (r : Bool) : Call → ℕ → Bool
  | .enable i bValue => if r then Function.update wanted (i + 1) bValue else wanted
  | _ => wanted

/-- The world after a call that returned `r` and left the state `s`. -/
def after (w : World) (call : Call) (r : Bool) (s : Sys) : World where
  sys := s
  running :=
    Function.update w.running (subject w.sys call)
      (clientAfterAll (s.acts.drop w.sys.acts.length) (w.running (subject w.sys call)))
  wanted := wantedAfter w.wanted r call

theorem after_running_subject (w : World) (call : Call) (r : Bool) (s : Sys) :
  (w.after call r s).running (subject w.sys call) =
    clientAfterAll (s.acts.drop w.sys.acts.length) (w.running (subject w.sys call))
  := Function.update_self _ _ _

/-- A turn of the manager in a world. -/
def step (b : Build) (l : Turn) (w : World) : Option World :=
  (l.take b w.sys).map (fun p => w.after l.call p.1 p.2)

end World

/-- An event that starts the client of the instance `n` is in the queue. -/
def Pending (n : ℕ) (s : Sys) : Prop :=
  ∃ ev ∈ s.queue, ev.action = .execPppClient ∧ ev.pppIfInstance = n

/-- Where the turn handles an event that starts a client, the client runs after it: the turn starts
it, unless it runs already. -/
def StartSucceeds (b : Build) (l : Turn) (w : World) : Prop :=
  ∀ w', World.step b l w = some w' → ∀ ev ∈ w.sys.queue.head?, ev.action = .execPppClient →
    w'.running ev.pppIfInstance.toNat = true

/-- A turn of the run: `Enable` of an interface is set, or an event is taken from the queue; every
send succeeds, and a client that is to be started starts unless it runs. -/
def RequestTurn (b : Build) (l : Turn) (w : World) : Prop :=
  ((∃ i v, l.call = .enable i v) ∨ l.call = .event) ∧ l.call.Handles w.sys ∧
    l.Allowed SendsSucceed ∧ (l.call = .event → StartSucceeds b l w)

/-- The turn does not disable the instance `n` while a start of it is pending. -/
def NoLateDisable (n : ℕ) (l : Turn) (w : World) : Prop :=
  ∀ i, l.call = .enable i false → n = i + 1 → ¬ Pending n w.sys

/-- A start that is pending was asked for last, and without one the client runs exactly if that was
asked for. -/
structure Settling (n : ℕ) (w : World) : Prop where
  numbered : Numbered w.sys
  pending : Pending n w.sys → w.wanted n = true
  settled : ¬ Pending n w.sys → w.running n = w.wanted n

/-! ### What a turn does to a world -/

@[simp]
theorem clientAfterAll_nil (running : Bool) :
  clientAfterAll [] running = running
  := rfl

/-- What is sent to the queue does nothing to a client. -/
@[simp]
theorem clientAfter_post (ev : PppEventQData) :
  clientAfter (.post ev) = none
  := rfl

theorem clientAfter_stopAct (b : Build) (e : DmlPppIfFull) :
  clientAfter (stopAct b e) = some false
  := by
  rw [stopAct]
  split_ifs
  · rfl
  · decide

theorem pending_post {n : ℕ} {s : Sys} {ev : PppEventQData} :
  Pending n (s.post ev) ↔ Pending n s ∨ ev.action = .execPppClient ∧ ev.pppIfInstance = n
  := by
  simp only [Pending, Sys.post_queue, List.mem_append, List.mem_singleton, or_and_right, exists_or,
    exists_eq_left]

/-- An event that sets a parameter starts nothing. -/
theorem pending_post_busSet {n : ℕ} {s : Sys} {k : ℤ} {keyPath val : CStr} :
  Pending n (s.post (busSetEvent k keyPath val)) ↔ Pending n s
  := by
  rw [pending_post]
  apply or_iff_left
  rintro ⟨h, -⟩
  cases h

section

variable {b : Build} {s s' : Sys} {n i : ℕ}

/-- What a stop leaves of the client. -/
theorem clientAfterAll_stoppedState (running : Bool) :
  clientAfterAll ((stoppedState b i n true true true s).acts.drop s.acts.length) running = false
  := by
  simp [stoppedState, clientAfterAll, clientAfter_stopAct]

/-- A stop sends no start. -/
theorem pending_stoppedState {m : ℕ} :
  Pending m (stoppedState b i n true true true s) ↔ Pending m s
  := by
  rw [stoppedState, Sys.sent, if_pos rfl, pending_post_busSet, Sys.sent, if_pos rfl,
    pending_post_busSet, Sys.sent, if_pos rfl, pending_post_busSet]
  apply Iff.rfl

/-! ### Runs -/

variable {A : (o : Op) → o.Ans → Prop} {w : World}

/-- A call that changes nothing about the instance. -/
theorem Settling.congr (hw : Settling n w) {w' : World} (hnumbered : Numbered w'.sys)
    (hpending : Pending n w'.sys ↔ Pending n w.sys) (hrunning : w'.running n = w.running n)
    (hwanted : w'.wanted n = w.wanted n) :
  Settling n w'
  := by
  constructor
  · apply hnumbered
  · intro h
    rw [hwanted]
    apply hw.pending (hpending.mp h)
  · intro h
    rw [hrunning, hwanted]
    apply hw.settled (fun h' => h (hpending.mpr h'))

/-- A call that leaves the state as it is, and succeeds at nothing. -/
theorem Settling.after_self (hw : Settling n w) (call : Call) :
  Settling n (w.after call false w.sys)
  := by
  apply hw.congr
  · apply hw.numbered
  · apply Iff.rfl
  · simp [World.after]
  · cases call <;> rfl

/-- The setter of `Enable`. -/
theorem Settling.after_enable (hw : Settling n w) {v r : Bool} (hi : i < w.sys.pppIfCount.toNat)
    (hlate : v = false → n = i + 1 → ¬ Pending n w.sys)
    (h : CallEnds SendsSucceed b w.sys (.enable i v) r s') :
  Settling n (w.after (.enable i v) r s')
  := by
  have hhandles : Call.Handles w.sys (.enable i v) := hi
  have hnumbered := h.numbered hw.numbered hhandles
  have hsubject : World.subject w.sys (.enable i v) = i + 1 := rfl
  cases h with
  | enable h =>
  rw [hw.numbered.instanceNumber i hi] at h
  cases h with
  | start h =>
      cases h with
      | noEntry => apply hw.after_self
      | refused j hn hfail => apply absurd hfail (not_canFail _)
      | posted j hn hj =>
          obtain rfl := Nat.succ_inj.mp hn
          have hevent : execEvent (toInt (w.sys.table i).cfg.instanceNumber) =
              execEvent (i + 1 : ℕ) := by
            rw [hw.numbered.toInt_instanceNumber hi]
          rw [hevent] at hnumbered ⊢
          by_cases hni : n = i + 1
          · obtain rfl := hni
            constructor
            · apply hnumbered
            · intro _
              simp [World.after, World.wantedAfter]
            · intro hnone
              apply absurd (pending_post.mpr (.inr ⟨rfl, rfl⟩)) hnone
          · apply hw.congr
            · apply hnumbered
            · apply pending_post.trans
              apply or_iff_left
              rintro ⟨-, h⟩
              apply hni (Int.ofNat_inj.mp h).symm
            · simp [World.after, hsubject, hni]
            · simp [World.after, World.wantedAfter, hni]
  | stop h =>
      cases h with
      | noEntry => apply hw.after_self
      | stopped j r₁ r₂ r₃ hn hj h₁ h₂ h₃ =>
          obtain rfl := Nat.succ_inj.mp hn
          obtain rfl := eq_true_of_sends h₁
          obtain rfl := eq_true_of_sends h₂
          obtain rfl := eq_true_of_sends h₃
          by_cases hni : n = i + 1
          · obtain rfl := hni
            constructor
            · apply hnumbered
            · intro hpending
              apply absurd (pending_stoppedState.mp hpending) (hlate rfl rfl)
            · intro _
              simp [World.after, World.wantedAfter, hsubject, clientAfterAll_stoppedState]
          · apply hw.congr
            · apply hnumbered
            · apply pending_stoppedState
            · simp [World.after, hsubject, hni]
            · simp [World.after, World.wantedAfter, hni]

/-- The head of the queue is taken. -/
theorem pending_cons {ev : PppEventQData} {evs : List PppEventQData}
    (hqueue : s.queue = ev :: evs) (hs : s'.queue = evs) :
  Pending n s ↔ ev.action = .execPppClient ∧ ev.pppIfInstance = n ∨ Pending n s'
  := by
  simp only [Pending, hqueue, hs, List.mem_cons, or_and_right, exists_or, exists_eq_left]

/-- Taking an event from the queue. -/
theorem Settling.after_event (hw : Settling n w) {r : Bool}
    (hstart : ∀ ev ∈ w.sys.queue.head?, ev.action = .execPppClient →
      (w.after .event r s').running ev.pppIfInstance.toNat = true)
    (h : CallEnds A b w.sys .event r s') :
  Settling n (w.after .event r s')
  := by
  have hhandles : Call.Handles w.sys .event := trivial
  have hnumbered := h.numbered hw.numbered hhandles
  cases h with
  | queueEmpty hqueue =>
      apply hw.congr
      · apply hnumbered
      · apply Iff.rfl
      · simp [World.after]
      · rfl
  | @queueEvent ev evs q s' hqueue h =>
      have hsubject : World.subject w.sys .event = ev.pppIfInstance.toNat := by
        rw [World.subject, hqueue]
        rfl
      have hpending := pending_cons (n := n) hqueue h.queue
      by_cases hev : ev.action = .execPppClient ∧ ev.pppIfInstance = n
      · -- the client runs now, as was asked for by the event
        have hwanted := hw.pending (hpending.mpr (.inl hev))
        have hrunning := hstart ev (by rw [hqueue]; rfl) hev.1
        rw [hev.2, Int.toNat_natCast] at hrunning
        constructor
        · apply hnumbered
        · intro _
          apply hwanted
        · intro _
          apply hrunning.trans hwanted.symm
      · apply hw.congr
        · apply hnumbered
        · apply (hpending.trans (or_iff_right hev)).symm
        · by_cases hn : n = World.subject w.sys .event
          · rw [hn, World.after_running_subject]
            cases h with
            | invalid => simp
            | busSet => simp [clientAfterAll, clientAfter]
            | exec q s' hpos haction h =>
                apply absurd _ hev
                use haction
                rw [hn, hsubject]
                apply (Int.toNat_of_nonneg (Int.le_of_lt hpos)).symm
          · simp [World.after, hn]
        · rfl

/-- A turn of the run. -/
theorem Settling.step {l : Turn} {w' : World} (hw : Settling n w)
    (hl : RequestTurn b l w ∧ NoLateDisable n l w) (hstep : World.step b l w = some w') :
  Settling n w'
  := by
  obtain ⟨⟨hcall, hhandles, hsends, hstart⟩, hlate⟩ := hl
  obtain ⟨⟨r, s⟩, htake, rfl⟩ := Option.map_eq_some_iff.mp hstep
  have hends := Turn.ends hsends htake
  obtain ⟨i, v, hcall⟩ | hcall := hcall
  · rw [hcall] at hhandles hends ⊢
    apply hw.after_enable hhandles _ hends
    rintro rfl
    apply hlate i hcall
  · rw [hcall] at hends ⊢
    apply hw.after_event _ hends
    have hafter := hstart hcall _ (Option.map_eq_some_iff.mpr ⟨(r, s), htake, rfl⟩)
    rw [hcall] at hafter
    apply hafter

/-- When no start of it is pending, the client of an interface runs exactly if that was asked for
last, in every run that disables the interface only while no start of it is pending. -/
theorem running_iff_wanted {s : Sys} {n : ℕ} {ls : List Turn} {w' : World} (hs : Initial s)
    (hturns : Throughout (World.step b) (RequestTurn b) ls (World.start s))
    (hlate : Throughout (World.step b) (NoLateDisable n) ls (World.start s))
    (hrun : run (World.step b) ls (World.start s) = some w') (hnone : ¬ Pending n w'.sys) :
  w'.running n = true ↔ w'.wanted n = true
  := by
  have hstart : Settling n (World.start s) := by
    constructor
    · apply hs.toNumbered
    · rintro ⟨ev, hev, -⟩
      rw [World.start, hs.queue] at hev
      cases hev
    · intro _
      rfl
  have hsettling := run_invariant (fun _ _ _ hw hl => hw.step hl) hstart
    (throughout_and hturns hlate) hrun
  rw [hsettling.settled hnone]

/-! ### An interface that is disabled too late -/

/-- What has to be tested of a turn of a run. -/
def requestTest (b : Build) (l : Turn) (w : World) : Bool :=
  (match l.call with
    | .enable i _ => decide (i < w.sys.pppIfCount.toNat)
    | .event =>
      match World.step b l w with
      | none => true
      | some w' => w.sys.queue.head?.all (fun ev =>
          decide (ev.action ≠ .execPppClient) || w'.running ev.pppIfInstance.toNat)
    | _ => false)

theorem requestTurn_of_test {x : Outside} (hx : x.queue = true) {call : Call} {w : World}
    (h : requestTest b ⟨call, x.answers⟩ w = true) :
  RequestTurn b ⟨call, x.answers⟩ w
  := by
  have hsends := Outside.allowed_sends hx call
  cases call with
  | enable i v =>
      have hi : i < w.sys.pppIfCount.toNat := of_decide_eq_true h
      refine ⟨.inl ⟨i, v, rfl⟩, hi, hsends, ?_⟩
      rintro ⟨⟩
  | event =>
      refine ⟨.inr rfl, trivial, hsends, ?_⟩
      intro _ w' hw' ev hev haction
      rw [requestTest] at h
      dsimp only at h
      rw [hw', hev] at h
      simpa [haction] using h
  | _ => cases h

/-- The calls of a run that enables the interface 1, disables it before the start is handled, and
then handles the start. -/
def lateDisable : List Turn :=
  [.enable 0 true, .enable 0 false, .event].map
    (fun call => ⟨call, (workingOutside 1 none []).answers⟩)

/-- A start that was pending when the interface was disabled starts its client. -/
theorem late_disable_starts_client :
  ¬ ∀ (b : Build) (s : Sys) (n : ℕ) (ls : List Turn) (w' : World), Initial s →
    Throughout (World.step b) (RequestTurn b) ls (World.start s) →
    run (World.step b) ls (World.start s) = some w' → ¬ Pending n w'.sys →
    (w'.running n = true ↔ w'.wanted n = true)
  := by
  intro h
  have hcheck : check (World.step (plainBuild true)) (requestTest (plainBuild true)) lateDisable
      (World.start (freshState 1)) = true := by
    decide +kernel
  have hturns : Throughout (World.step (plainBuild true)) (RequestTurn (plainBuild true))
      lateDisable (World.start (freshState 1)) := by
    apply throughout_of_check _ hcheck
    intro l hl w htest
    obtain ⟨call, -, rfl⟩ := List.mem_map.mp hl
    apply requestTurn_of_test rfl htest
  have hend : (run (World.step (plainBuild true)) lateDisable (World.start (freshState 1))).map
      (fun w => (w.running 1, w.wanted 1, w.sys.queue.all (·.action = .busSet))) =
        some (true, false, true) := by
    decide +kernel
  obtain ⟨w', hrun, hw'⟩ := Option.map_eq_some_iff.mp hend
  obtain ⟨hrunning, hw'⟩ := Prod.mk.inj hw'
  obtain ⟨hwanted, hqueue⟩ := Prod.mk.inj hw'
  have hnone : ¬ Pending 1 w'.sys := by
    rintro ⟨ev, hev, haction, -⟩
    have hbusSet := of_decide_eq_true (List.all_eq_true.mp hqueue ev hev)
    rw [haction] at hbusSet
    cases hbusSet
  have hiff := h _ _ 1 _ w' (initial_freshState (by decide)) hturns hrun hnone
  rw [hwanted] at hiff
  apply absurd (hiff.mp hrunning) Bool.false_ne_true

/-- In a run that enables the interface 1 and handles the start, the client runs. -/
theorem running_iff_wanted_enabled :
  ∃ w', run (World.step (plainBuild true))
      ([.enable 0 true, .event].map (fun call => ⟨call, (workingOutside 1 none []).answers⟩))
      (World.start (freshState 1)) = some w' ∧
    (w'.running 1 = true ↔ w'.wanted 1 = true)
  := by
  have hcheck : check (World.step (plainBuild true)) (requestTest (plainBuild true))
      ([.enable 0 true, .event].map (fun call => ⟨call, (workingOutside 1 none []).answers⟩))
      (World.start (freshState 1)) = true := by
    decide +kernel
  have hend : (run (World.step (plainBuild true))
      ([.enable 0 true, .event].map (fun call => ⟨call, (workingOutside 1 none []).answers⟩))
      (World.start (freshState 1))).map (fun w => w.sys.queue) = some [] := by
    decide +kernel
  obtain ⟨w', hrun, hqueue⟩ := Option.map_eq_some_iff.mp hend
  use w', hrun
  apply running_iff_wanted (n := 1) (initial_freshState (by decide)) _ _ hrun
  · rintro ⟨ev, hev, -⟩
    rw [hqueue] at hev
    cases hev
  · apply throughout_of_check _ hcheck
    intro l hl w htest
    obtain ⟨call, -, rfl⟩ := List.mem_map.mp hl
    apply requestTurn_of_test rfl htest
  · apply throughout_of_check (g := fun _ _ => true) _ (by decide +kernel)
    intro l hl w _ i hcall
    rw [List.map_cons, List.map_cons, List.map_nil] at hl
    rcases List.mem_pair.mp hl with rfl | rfl <;> cases hcall

end

end PppManager
