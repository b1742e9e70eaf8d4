import PppManager.Effect.Timers
import PppManager.Manager.Launches
import PppManager.Manager.Points

/-!
# Automatic disconnects

A set of `AutoDisconnectTime` leaves the command `sleep %ld && pppoe-stop &` running in the
background.  `Disconnects` follows, beside the state of the manager, how often `AutoDisconnectTime` was
set and how many sessions were started, and which of the commands still sleep.

Nothing stops a command that sleeps, neither a later set nor a new session.  At any moment at most one
`pppoe-stop` is due, that of the latest set, in the session it was set in, exactly if
`AutoDisconnectTime` is only set, and a session only started, when no command sleeps
(`keepsFresh_iff_awaitsStops`).
-/

namespace PppManager

open Effect Effect.Program CText

/-! ### The command -/

/-- The command that a set of `AutoDisconnectTime` runs. -/
def autoDisconnectCommand (uValue : ULong) : CStr :=
  snprintf 128 "sleep %ld && pppoe-stop &".toList [.int uValue.toLong]

/-- The seconds that a command sleeps before it runs `pppoe-stop`, if it is one that does.  With a
negative number `sleep` fails, and `pppoe-stop` is not run. -/
def delayedStop (command : CStr) : Option ℕ :=
  if "sleep ".toList.isPrefixOf command then
    match scanInt (command.drop 6) with
    | some (.ofNat n, rest) => if rest = " && pppoe-stop &".toList then some n else none
    | _ => none
  else none

/-- The seconds that the command of an act sleeps before it runs `pppoe-stop`. -/
def Act.delayedStop? : Act → Option ℕ
  | .system command => delayedStop command
  | _ => none

/-- The command of a set sleeps for the seconds that are set. -/
theorem delayedStop_autoDisconnectCommand (uValue : ULong) :
  delayedStop (autoDisconnectCommand uValue) =
    if 0 ≤ uValue.toLong then some uValue.toLong.toNat else none
  := by
  have hprintf : printf "sleep %ld && pppoe-stop &".toList [.int uValue.toLong] =
      "sleep ".toList ++ (dec uValue.toLong ++ " && pppoe-stop &".toList) := by
    rfl
  have hlength := length_dec_toLong uValue
  have hcommand : autoDisconnectCommand uValue =
      "sleep ".toList ++ (dec uValue.toLong ++ " && pppoe-stop &".toList) := by
    rw [autoDisconnectCommand, snprintf, hprintf]
    apply List.take_of_length_le
    have hsleep : "sleep ".toList.length = 6 := by
      decide
    have hstop : " && pppoe-stop &".toList.length = 16 := by
      decide
    rw [List.length_append, List.length_append, hsleep, hstop]
    omega
  have hscan : scanInt ((autoDisconnectCommand uValue).drop 6) =
      some (uValue.toLong, " && pppoe-stop &".toList) := by
    rw [hcommand]
    apply scanInt_dec_append
    decide
  have hprefix : "sleep ".toList.isPrefixOf (autoDisconnectCommand uValue) = true := by
    rw [hcommand, List.isPrefixOf_iff_prefix]
    apply List.prefix_append
  rw [delayedStop, if_pos hprefix, hscan]
  cases uValue.toLong with
  | ofNat n =>
      have hpos : 0 ≤ Int.ofNat n := Int.natCast_nonneg n
      dsimp only
      rw [if_pos rfl, if_pos hpos]
      rfl
  | negSucc n =>
      dsimp only
      rw [if_neg (Int.not_le.mpr (Int.negSucc_lt_zero n))]

theorem delayedStop_of_head {command : CStr} (h : command.head? ≠ some 's') :
  delayedStop command = none
  := by
  rw [delayedStop, if_neg]
  intro hprefix
  obtain ⟨rest, rfl⟩ := List.isPrefixOf_iff_prefix.mp hprefix
  apply h rfl

/-! ### What the entry points leave running -/

/-- The acts from `s` to `s'` leave no `pppoe-stop` running. -/
abbrev LeavesNoStop (s s' : Sys) : Prop :=
  s.Extends (fun a => a.delayedStop? = none) s'

section

variable {A : (o : Op) → o.Ans → Prop} {b : Build} {s s' : Sys} {n : ℕ} {q : AnscStatus}

theorem delayedStop?_of_isPlain {a : Act} (ha : a.isPlain = true) :
  a.delayedStop? = none
  := by
  cases a with
  | system => cases ha
  | _ => rfl

theorem delayedStop_pppoeStop :
  delayedStop pppoeStop = none
  := by
  apply delayedStop_of_head
  decide

theorem delayedStop?_stopAct (e : DmlPppIfFull) :
  (stopAct b e).delayedStop? = none
  := by
  rw [stopAct]
  split_ifs
  · rfl
  · apply delayedStop_pppoeStop

/-- The commands of a start run no `pppoe-stop`. -/
theorem Configures.leavesNoStop {e : DmlPppIfFull} {cs : List CStr} {command : CStr}
    (h : Configures A b e cs command) :
  ∀ c ∈ cs ++ [command], delayedStop c = none
  := by
  have hfits : ∀ {text : CStr}, text.head? = some 'p' → ∀ c ∈ ifFits text, delayedStop c = none := by
    intro text htext c hc
    rw [ifFits] at hc
    split_ifs at hc
    · obtain rfl := List.mem_singleton.mp hc
      apply delayedStop_of_head
      rw [List.head?_take, if_neg (by decide), htext]
      decide
    · cases hc
  have hstart : delayedStop pppoeStart = none := by
    apply delayedStop_of_head
    decide
  have hboth : (∀ c ∈ cs, delayedStop c = none) ∧ delayedStop command = none := by
    cases h with
    | noLink => exact ⟨List.forall_mem_nil _, rfl⟩
    | daemon lib service =>
        use List.forall_mem_nil _
        apply delayedStop_of_head
        apply Option.some.inj.mt
        decide
    | pppoa =>
        constructor
        · apply hfits
          rfl
        · apply hstart
    | pppoe r padt _ _ _ hpadt =>
        constructor
        · intro c hc
          rcases List.mem_append.mp hc with hconfig | hterminate
          · apply hfits _ c hconfig
            rfl
          · obtain ⟨mac, rfl⟩ := hpadt c hterminate
            apply delayedStop_of_head
            apply Option.some.inj.mt
            decide
        · apply hstart
  intro c hc
  rcases List.mem_append.mp hc with hcs | hcommand
  · apply hboth.1 c hcs
  · rw [List.mem_singleton.mp hcommand]
    apply hboth.2

theorem StartEnds.leavesNoStop (h : StartEnds A b s n q s') :
  LeavesNoStop s s'
  := by
  cases h with
  | noWanIface | alreadyRunning => apply Sys.extends_self
  | rejected => apply Sys.Extends.setEntry (Sys.extends_self s)
  | launched i e cs command r w v hn hi hstopped he hparams hconf =>
      apply Sys.Extends.systems hconf.leavesNoStop
      apply Sys.Extends.setEntry (Sys.extends_self s)

theorem StopEnds.leavesNoStop (h : StopEnds A b s n q s') :
  LeavesNoStop s s'
  := h.extends (fun _ => delayedStop?_of_isPlain) delayedStop?_stopAct

theorem EnqueueEnds.leavesNoStop (h : EnqueueEnds A s n q s') :
  LeavesNoStop s s'
  := h.extends (fun _ => delayedStop?_of_isPlain)

theorem EnableEnds.leavesNoStop {v r : Bool} (h : EnableEnds A b s n v r s') :
  LeavesNoStop s s'
  := by
  cases h with
  | start h => apply h.leavesNoStop
  | stop h => apply h.leavesNoStop

theorem ResetEnds.leavesNoStop {r : Bool} (h : ResetEnds A b s n r s') :
  LeavesNoStop s s'
  := by
  cases h with
  | notStopped h => apply h.leavesNoStop
  | stopped h h' => apply h.leavesNoStop.trans h'.leavesNoStop

theorem EventEnds.leavesNoStop {ev : PppEventQData} (h : EventEnds A b s ev q s') :
  LeavesNoStop s s'
  := by
  cases h with
  | invalid => apply Sys.extends_self
  | busSet =>
      apply Sys.Extends.emit _ (Sys.extends_self s)
      rfl
  | exec r s' hpos haction h => apply h.leavesNoStop

/-- Only a set of `AutoDisconnectTime` leaves a `pppoe-stop` running. -/
theorem PointEnds.leavesNoStop {p : EntryPoint} (hp : p.setsAutoDisconnectTime = false)
    (h : PointEnds A b s p s') :
  LeavesNoStop s s'
  := by
  cases h with
  | quiet p _ h =>
      obtain ⟨acts, hacts, hquiet⟩ := h.acts
      use acts, hacts
      intro a ha
      have hquiet := hquiet a ha
      cases a with
      | system command =>
          rw [Act.IsQuiet, hp] at hquiet
          cases hquiet
      | _ => rfl
  | getEntry => apply Sys.Extends.setEntry (Sys.extends_self s)
  | setEnable h => apply h.leavesNoStop
  | setReset h => apply h.leavesNoStop
  | message h => apply h.extends (fun _ => delayedStop?_of_isPlain) delayedStop_pppoeStop
  | takeEvent hqueue h => apply h.leavesNoStop
  | event h => apply h.leavesNoStop
  | start h => apply h.leavesNoStop
  | stop h => apply h.leavesNoStop
  | enable h => apply h.leavesNoStop
  | reset h => apply h.leavesNoStop

/-- A set of `AutoDisconnectTime` runs its command. -/
theorem acts_of_set {i : ℕ} {uValue : ULong} {l : Access}
    (hpoint : l.point = .setter (.interfaceUlong i "AutoDisconnectTime".toList uValue))
    (hnext : l.next b s = some s') :
  s'.acts = s.acts ++ [.system (autoDisconnectCommand uValue)]
  := by
  obtain ⟨point, answers⟩ := l
  obtain rfl := hpoint
  apply Access.next_ends (A := Unrestricted)
    (Q := fun _ s' => s'.acts = s.acts ++ [Act.system (autoDisconnectCommand uValue)])
    (fun _ _ _ => trivial) _ hnext
  rw [EntryPoint.code, Contract.wp_map, Setter.code, interfaceSetParamUlongValue, Contract.wp_bind,
    wp_lock]
  intro _ _
  rw [Contract.wp_bind, writeUlongParam, if_pos rfl, Contract.wp_bind, wp_store]
  intro _
  rw [Contract.wp_bind, wp_system, Contract.wp_pure, Contract.wp_bind, wp_unlock]
  intro owners _
  rfl

end

/-! ### Sets, sessions and the commands that sleep -/

/-- How often `AutoDisconnectTime` was set, and how many sessions were started. -/
structure Generation where
  sets : ℕ
  sessions : ℕ
  deriving DecidableEq

/-- The state of the manager, and the commands that sleep, each with the number of its set and of the
session it was set in. -/
structure Disconnects where
  sys : Sys
  timers : Timers Generation

/-- What happens: an entry point is called, time passes, or a command has slept and runs
`pppoe-stop`. -/
inductive Moment where
  | call (l : Access)
  | wait (seconds : ℕ)
  | stop (k : ℕ)

namespace Disconnects

/-- No command sleeps. -/
def start (s : Sys) : Disconnects where
  sys := s
  timers := .idle ⟨0, 0⟩

/-- The call that leads to `s` starts a session. -/
def startsSession (w : Disconnects) (s : Sys) : Bool :=
  launches (s.acts.drop w.sys.acts.length)

/-- The sets and the sessions up to the call that leads to `s`. -/
def generation (w : Disconnects) (l : Access) (s : Sys) : Generation where
  sets := w.timers.generation.sets + l.point.setsAutoDisconnectTime.toNat
  sessions := w.timers.generation.sessions + (w.startsSession s).toNat

/-- The delays of the commands that the call that leads to `s` has left. -/
def delays (w : Disconnects) (s : Sys) : List ℕ :=
  (s.acts.drop w.sys.acts.length).filterMap Act.delayedStop?

/-- What sleeps after the call that leads to `s`. -/
def after (w : Disconnects) (l : Access) (s : Sys) : Disconnects where
  sys := s
  timers := (w.timers.renew (w.generation l s)).start (w.delays s)

/-- A step of the manager, the clock, or a command that sleeps. -/
def step (b : Build) : Moment → Disconnects → Option Disconnects
  | .call l, w => (l.next b w.sys).map (w.after l)
  | .wait seconds, w => some { w with timers := w.timers.wait seconds }
  | .stop k, w => (w.timers.fire k).map (fun timers => { w with timers := timers })

/-- After the step at most one command sleeps, that of the latest set, in the session that was started
last, and a `pppoe-stop` that is run is such a one. -/
def KeepsFresh (b : Build) (m : Moment) (w : Disconnects) : Prop :=
  ∀ w', step b m w = some w' → w'.timers.Fresh ∧
    ∀ k, m = .stop k → ∀ x ∈ w.timers.running[k]?, x.generation = w.timers.generation

/-- A call that sets `AutoDisconnectTime` or starts a session is made when no command sleeps. -/
def AwaitsStops (b : Build) (m : Moment) (w : Disconnects) : Prop :=
  ∀ l s, m = .call l → l.next b w.sys = some s →
    (l.point.setsAutoDisconnectTime = true ∨ w.startsSession s = true) → w.timers.running = []

end Disconnects

section

variable {b : Build} {l : Access} {w : Disconnects} {s' : Sys}

open Disconnects

/-- A set leaves a command that sleeps for the seconds that are set. -/
theorem delays_of_set {i : ℕ} {uValue : ULong}
    (hpoint : l.point = .setter (.interfaceUlong i "AutoDisconnectTime".toList uValue))
    (hnext : l.next b w.sys = some s') :
  w.delays s' = if 0 ≤ uValue.toLong then [uValue.toLong.toNat] else []
  := by
  have hcommand := delayedStop_autoDisconnectCommand uValue
  rw [delays, acts_of_set hpoint hnext, List.drop_left, List.filterMap_cons, Act.delayedStop?,
    hcommand]
  split_ifs <;> rfl

/-- A set leaves at most one command, and no other call leaves one. -/
theorem delays_of_next (hnext : l.next b w.sys = some s') :
  (w.delays s').length ≤ 1 ∧ (l.point.setsAutoDisconnectTime = false → w.delays s' = [])
  := by
  have hnone : l.point.setsAutoDisconnectTime = false → w.delays s' = [] := by
    intro hset
    have hends := l.ends (A := Unrestricted) (fun _ _ _ => trivial) hnext
    obtain ⟨acts, hacts, hleaves⟩ := hends.leavesNoStop hset
    rw [delays, hacts, List.drop_left]
    apply List.filterMap_eq_nil_iff.mpr hleaves
  constructor
  · cases hset : l.point.setsAutoDisconnectTime with
    | false =>
        rw [hnone hset]
        apply Nat.zero_le
    | true =>
        obtain ⟨i, uValue, hpoint⟩ : ∃ i uValue,
            l.point = .setter (.interfaceUlong i "AutoDisconnectTime".toList uValue) := by
          cases hpoint : l.point with
          | setter w =>
              rw [hpoint] at hset
              cases w with
              | interfaceUlong i paramName uValue =>
                  obtain rfl := of_decide_eq_true hset
                  use i, uValue
              | _ => cases hset
          | _ =>
              rw [hpoint] at hset
              cases hset
        rw [delays_of_set hpoint hnext]
        split_ifs
        · apply Nat.le_refl
        · apply Nat.zero_le
  · apply hnone

/-- The commands that sleep are fresh after a call exactly if none slept before one that sets
`AutoDisconnectTime` or starts a session. -/
theorem fresh_after_iff (h : w.timers.Fresh) (hnext : l.next b w.sys = some s') :
  (w.after l s').timers.Fresh ↔
    (l.point.setsAutoDisconnectTime = true ∨ w.startsSession s' = true → w.timers.running = [])
  := by
  obtain ⟨hsingle, hnone⟩ := delays_of_next hnext
  by_cases hrenews : l.point.setsAutoDisconnectTime = true ∨ w.startsSession s' = true
  · have hgeneration : w.generation l s' ≠ w.timers.generation := by
      intro heq
      have hsets := congrArg Generation.sets heq
      have hsessions := congrArg Generation.sessions heq
      rcases hrenews with hset | hsession
      · rw [generation, hset] at hsets
        apply Nat.succ_ne_self _ hsets
      · rw [generation, hsession] at hsessions
        apply Nat.succ_ne_self _ hsessions
    rw [after, Timers.fresh_start_renew_iff h hgeneration]
    exact ⟨fun hrunning _ => hrunning.1, fun hrunning => ⟨hrunning hrenews, hsingle⟩⟩
  · obtain ⟨hset, hsession⟩ := not_or.mp hrenews
    have hset := Bool.eq_false_iff.mpr hset
    have hgeneration : w.generation l s' = w.timers.generation := by
      rw [generation, hset, Bool.eq_false_iff.mpr hsession]
      rfl
    have hafter : (w.after l s').timers = w.timers := by
      rw [after, hgeneration, hnone hset]
      apply Timers.start_renew_self
    rw [hafter]
    exact ⟨fun _ h => absurd h hrenews, fun _ => h⟩

theorem keepsFresh_step_iff {m : Moment} (h : w.timers.Fresh) :
  KeepsFresh b m w ↔ AwaitsStops b m w
  := by
  cases m with
  | call l =>
      constructor
      · intro hkeeps a s hl hnext
        obtain rfl := Moment.call.inj hl
        have hstep : Disconnects.step b (.call l) w = some (w.after l s) :=
          Option.map_eq_some_iff.mpr ⟨s, hnext, rfl⟩
        apply (fresh_after_iff h hnext).mp (hkeeps _ hstep).1
      · intro hawaits w' hstep
        obtain ⟨s, hnext, rfl⟩ := Option.map_eq_some_iff.mp hstep
        use (fresh_after_iff h hnext).mpr (hawaits l s rfl hnext)
        nofun
  | wait seconds =>
      constructor
      · nofun
      · intro _ w' hstep
        obtain rfl := Option.some.inj hstep
        use h.wait seconds
        nofun
  | stop k =>
      constructor
      · nofun
      · intro _ w' hstep
        obtain ⟨timers, hfire, rfl⟩ := Option.map_eq_some_iff.mp hstep
        use h.fire hfire
        intro j hj x hx
        apply h.current x (List.mem_of_getElem? hx)

/-- At every moment of a run at most one automatic disconnect is pending, that of the latest set, in
the session that was started last, exactly if `AutoDisconnectTime` is only set, and a session only
started, when none is pending. -/
theorem keepsFresh_iff_awaitsStops (b : Build) (s : Sys) (ms : List Moment) :
  Throughout (Disconnects.step b) (KeepsFresh b) ms (start s) ↔
    Throughout (Disconnects.step b) (AwaitsStops b) ms (start s)
  := by
  apply throughout_iff (I := fun w => w.timers.Fresh)
  · intro m w w' _ hkeeps hstep
    apply (hkeeps w' hstep).1
  · intro m w h
    apply keepsFresh_step_iff h
  · apply Timers.fresh_idle

end

/-- `AutoDisconnectTime` of the first interface is set. -/
def setDelay (uValue : ULong) : Moment :=
  .call ⟨.setter (.interfaceUlong 0 "AutoDisconnectTime".toList uValue),
    (workingOutside 1 none []).answers⟩

/-- `AutoDisconnectTime` is set to ten seconds and then to a hundred; after ten seconds the command of
the first set runs `pppoe-stop`. -/
theorem replaced_delay_stops :
  ¬ ∀ (b : Build) (s : Sys) (ms : List Moment),
    Throughout (Disconnects.step b) (Disconnects.KeepsFresh b) ms (Disconnects.start s)
  := by
  intro h
  have hend : (run (Disconnects.step (plainBuild false)) [setDelay 10, setDelay 100, .wait 10]
      (Disconnects.start (freshState 1))).bind (fun w =>
        (Disconnects.step (plainBuild false) (.stop 0) w).map (fun _ =>
          (w.timers.running.map (fun x => x.generation), w.timers.generation))) =
      some ([⟨1, 0⟩, ⟨2, 0⟩], ⟨2, 0⟩) := by
    decide +kernel
  obtain ⟨w, hrun, hstop⟩ := Option.bind_eq_some_iff.mp hend
  obtain ⟨w', hstep, hgenerations⟩ := Option.map_eq_some_iff.mp hstop
  obtain ⟨hrunning, hgeneration⟩ := Prod.mk.inj hgenerations
  have hkeeps := (h _ _ ([setDelay 10, setDelay 100, .wait 10] ++ [.stop 0])).of_append hrun
  have hfirst : (w.timers.running.map (fun x => x.generation))[0]? = some ⟨1, 0⟩ := by
    rw [hrunning]
    rfl
  rw [List.getElem?_map] at hfirst
  obtain ⟨x, hx, hx₁⟩ := Option.map_eq_some_iff.mp hfirst
  have hfresh := (hkeeps.1 w' hstep).2 0 rfl x hx
  rw [hx₁, hgeneration] at hfresh
  cases hfresh

end PppManager
