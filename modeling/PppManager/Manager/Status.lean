import PppManager.Manager.Outside

/-!
# Disabled interfaces

A state message reaches the entry that has its pid, enabled or not.  As long as no message reports
a disabled interface up, an interface that is disabled is not up (`not_up_of_disabled`).
-/

namespace PppManager

open Effect CText

/-- Every disabled interface is not up. -/
def DisabledNotUp (s : Sys) : Prop :=
  ∀ i, (s.table i).cfg.bEnabled = false → (s.table i).info.status ≠ .up

/-- The setters are called with handles of entries the PSM count covers. -/
def HandleTurn (l : Turn) (s : Sys) : Prop :=
  l.call.Handles s

/-- The turn does not bring a message that reports a client up whose pid a disabled interface
has. -/
def NoStrayUp (l : Turn) (s : Sys) : Prop :=
  ∀ m, l.call = .message m → m.pppEventMsg.pppState = .interfaceUp →
    ∀ i < s.pppIfCount.toNat, (s.table i).info.pppPid = m.pppEventMsg.pid →
      (s.table i).cfg.bEnabled = true

section

variable {b : Build} {c i : ℕ} {e e' : DmlPppIfFull} {call : Call}

theorem stoppedEntry_status (e : DmlPppIfFull) :
  (stoppedEntry b e).info.status = .down
  := rfl

/-- The switch leaves a status other than up, unless the message reports the client up. -/
theorem switchEntry_status_ne_up {msg : IpcPppEventMsg} {uptime : ULong} {id : Option ULong}
    (hstate : msg.pppState ≠ .interfaceUp) (he : e.info.status ≠ .up) :
  (switchEntry msg uptime id e).info.status ≠ .up
  := by
  have h := congrArg Prod.fst (switchEntry_status msg uptime id e)
  rw [show (switchEntry msg uptime id e).info.status = _ from h]
  cases hcase : msg.pppState with
  | interfaceUp => apply absurd hcase hstate
  | lcpAuthCompleted => apply he
  | _ => apply DmlIfStatus.noConfusion

/-- A call that does not report a disabled client up keeps a disabled entry from being up. -/
theorem EntryStep.not_up (h : EntryStep b c i e call e')
    (he : e.cfg.bEnabled = false → e.info.status ≠ .up)
    (hstray : ∀ m, call = .message m → m.pppEventMsg.pppState = .interfaceUp → i < c →
      e.info.pppPid = m.pppEventMsg.pid → e.cfg.bEnabled = true)
    (hdisabled : e'.cfg.bEnabled = false) :
  e'.info.status ≠ .up
  := by
  cases h with
  | kept => apply he hdisabled
  | enabled => cases hdisabled
  | disabled | resetStopped | stopped =>
      rw [stoppedEntry_status]
      apply DmlIfStatus.noConfusion
  | restarted => cases hdisabled
  | switched m uptime id hi hpid =>
      rw [switchEntry_bEnabled] at hdisabled
      apply switchEntry_status_ne_up _ (he hdisabled)
      intro hup
      rw [hstray m rfl hup hi hpid] at hdisabled
      cases hdisabled
  | addressed | identified => apply he hdisabled
  | attempted _ e' _ hattempted | launched _ e' pid w v _ hattempted =>
      obtain ⟨u, p, -, rfl⟩ := hattempted
      apply he hdisabled

end

section

variable {b : Build} {s s' : Sys} {l : Turn}

/-- A turn of the run. -/
theorem not_up_step (hs : Numbered s ∧ DisabledNotUp s) (hl : HandleTurn l s ∧ NoStrayUp l s)
    (hnext : l.next b s = some s') :
  Numbered s' ∧ DisabledNotUp s'
  := by
  obtain ⟨r, hends⟩ := Turn.next_ends l.allowed_unrestricted hnext
  use hends.numbered hs.1 hl.1
  intro i
  apply (hends.entryStep hs.1 hl.1 i).not_up (hs.2 i)
  intro m hm hup hi
  apply hl.2 m hm hup i hi

/-- A disabled interface is not up, in every state of a run in which no message reports a disabled
interface up. -/
theorem not_up_of_disabled {ls : List Turn} (hs : Initial s)
    (hturns : Throughout (Turn.next b) HandleTurn ls s)
    (hstray : Throughout (Turn.next b) NoStrayUp ls s)
    (hrun : run (Turn.next b) ls s = some s') :
  DisabledNotUp s'
  := by
  have hstart : Numbered s ∧ DisabledNotUp s := by
    use hs.toNumbered
    intro i _
    rw [(hs.idle i).status]
    apply DmlIfStatus.noConfusion
  apply (run_invariant (fun _ _ _ hs hl => not_up_step hs hl) hstart
    (throughout_and hturns hstray) hrun).2

/-! ### A late message -/

/-- What has to be tested of a turn of a run. -/
def handleTest (l : Turn) (s : Sys) : Bool :=
  match l.call with
  | .enable i _ => decide (i < s.pppIfCount.toNat)
  | .reset i _ => decide (i < s.pppIfCount.toNat)
  | _ => true

theorem handleTurn_of_test {l : Turn} {s : Sys} (h : handleTest l s = true) :
  HandleTurn l s
  := by
  obtain ⟨call, answers⟩ := l
  cases call with
  | enable i v => apply of_decide_eq_true h
  | reset i v => apply of_decide_eq_true h
  | _ => trivial

/-- The calls of a run that starts the client of the interface 1, which gets the pid 7, and hears
that it is up after the interface has been disabled. -/
def lateUp : List Turn :=
  [.enable 0 true, .event, .enable 0 false, .message (stateMessage 7 .interfaceUp)].map
    (fun call => ⟨call, (workingOutside 1 none [pppdProcess 7]).answers⟩)

/-- A message that comes after the client was stopped brings a disabled interface up. -/
theorem late_message_brings_up :
  ¬ ∀ (b : Build) (s s' : Sys) (ls : List Turn), Initial s →
    Throughout (Turn.next b) HandleTurn ls s → run (Turn.next b) ls s = some s' →
    DisabledNotUp s'
  := by
  intro h
  have hcheck : check (Turn.next (plainBuild false)) handleTest lateUp (freshState 1) = true := by
    decide +kernel
  have hend : (run (Turn.next (plainBuild false)) lateUp (freshState 1)).map
      (fun s => ((s.table 0).cfg.bEnabled, (s.table 0).info.status)) = some (false, .up) := by
    decide +kernel
  obtain ⟨s', hrun, hs'⟩ := Option.map_eq_some_iff.mp hend
  obtain ⟨hdisabled, hup⟩ := Prod.mk.inj hs'
  apply h _ _ s' _ (initial_freshState (by decide)) _ hrun 0 hdisabled hup
  apply throughout_of_check _ hcheck
  intro l _ s
  apply handleTurn_of_test

/-- What has to be tested of a turn that may report a disabled client up. -/
def strayTest (l : Turn) (s : Sys) : Bool :=
  match l.call with
  | .message m =>
    decide (∀ i < s.pppIfCount.toNat, (s.table i).info.pppPid = m.pppEventMsg.pid →
      (s.table i).cfg.bEnabled = true)
  | _ => true

theorem noStrayUp_of_test {l : Turn} {s : Sys} (h : strayTest l s = true) :
  NoStrayUp l s
  := by
  intro m hm _
  rw [strayTest, hm] at h
  apply of_decide_eq_true h

/-- The calls of a run that starts the client of the interface 1 and hears that it is up. -/
def startedUp : List Turn :=
  [.enable 0 true, .event, .message (stateMessage 7 .interfaceUp)].map
    (fun call => ⟨call, (workingOutside 1 none [pppdProcess 7]).answers⟩)

theorem not_up_of_disabled_startedUp :
  ∃ s', run (Turn.next (plainBuild false)) startedUp (freshState 1) = some s' ∧ DisabledNotUp s'
  := by
  have hhandles : check (Turn.next (plainBuild false)) handleTest startedUp (freshState 1) =
      true := by
    decide +kernel
  have hstray : check (Turn.next (plainBuild false)) strayTest startedUp (freshState 1) = true := by
    decide +kernel
  have hend : (run (Turn.next (plainBuild false)) startedUp (freshState 1)).isSome = true := by
    decide +kernel
  obtain ⟨s', hrun⟩ := Option.isSome_iff_exists.mp hend
  use s', hrun
  apply not_up_of_disabled (initial_freshState (by decide)) _ _ hrun
  · apply throughout_of_check _ hhandles
    intro l _ s
    apply handleTurn_of_test
  · apply throughout_of_check _ hstray
    intro l _ s
    apply noStrayUp_of_test

end

end PppManager
