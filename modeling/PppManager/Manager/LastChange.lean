import PppManager.Manager.Outside
import PppManager.Manager.StatusSteps

/-!
# The time of the last change

`LastChange` of an interface is meant to be the uptime at which its `Status` last changed.  All
states of `PppMgr_ProcessStateChangedMsg` but two write it: `PPP_LCP_AUTH_COMPLETED` leaves `Status`
as it is, and `PPP_INTERFACE_AUTH_FAILED` writes `Status` alone, as `PppMgr_StopPppClient` does.  The
other states write 0 where the uptime cannot be read.  As long as the two find the interface down, and
the others read an uptime, `LastChange` is an uptime read when `Status` last changed or later
(`lastChange_current`).
-/

namespace PppManager

open Effect CText

/-- The entry point reports to the interface of the entry `i` that its authentication failed. -/
def Access.FailsAuth (l : Access) (s : Sys) (i : ℕ) : Prop :=
  ∃ m, l.point = .message m ∧ m.pppEventMsg.pppState = .interfaceAuthFailed ∧
    m.IsFor s i l.ReadsCount

/-- The entry point stops the interface of the entry `i`, or reports that its authentication failed,
only if its `Status` is already down. -/
def KeepsDown (i : ℕ) (l : Access) (s : Sys) : Prop :=
  l.point.Stops s (i + 1) ∨ l.FailsAuth s i → (s.table i).info.status = .down

/-- The entry point reports to the interface of the entry `i` a state that writes `LastChange`. -/
def Access.WritesLastChange (l : Access) (s : Sys) (i : ℕ) : Prop :=
  ∃ m, l.point = .message m ∧ m.pppEventMsg.pppState.writesLastChange = true ∧
    m.IsFor s i l.ReadsCount

/-! ### Uptimes -/

/-- The uptime `u` is read: the PandM component answers with a text that has it. -/
def UptimeRead (A : (o : Op) → o.Ans → Prop) (u : ULong) : Prop :=
  ∃ text v, A (.busGet pandmComponentName pandmDbusPath upTimeParamName) (some (some text)) ∧
    sscanfLu text = some v ∧ u = ULong.ofLong v

/-- Every answer of the PandM component is a text that has an uptime. -/
def UptimeReadable (A : (o : Op) → o.Ans → Prop) : Prop :=
  ∀ r, A (.busGet pandmComponentName pandmDbusPath upTimeParamName) r →
    ∃ text v, r = some (some text) ∧ sscanfLu text = some v

theorem UptimeReadable.read {A : (o : Op) → o.Ans → Prop} {u : ULong} (h : UptimeReadable A)
    (hu : GivesUptime A u) :
  UptimeRead A u
  := by
  obtain ⟨r, hr, rfl⟩ := hu
  obtain ⟨text, v, rfl, hv⟩ := h r hr
  refine ⟨text, v, hr, hv, ?_⟩
  rw [uptimeOf, Option.getD_some, hv, Option.getD_some]

/-- The step keeps the interface of the entry `i` down where it stops it or reports that its
authentication failed, and can read the uptime where it writes `LastChange`. -/
structure KeepsTime (b : Build) (i : ℕ) (l : Access) (s : Sys) : Prop where
  down : KeepsDown i l s
  uptime : l.WritesLastChange s i → UptimeReadable (l.Gets b s)

/-! ### Runs -/

/-- A step of the run reads the uptime `u`. -/
def ReadsUptime (b : Build) (ls : List Access) (s : Sys) (u : ULong) : Prop :=
  Sometime (Access.next b) (fun l s => UptimeRead (l.Gets b s) u) ls s

/-- Whenever a step of the run changes `Status` of the interface of the entry `i`, it sets
`LastChange` to an uptime it reads; and at the end of the run, `LastChange` is an uptime read in that
step or later. -/
def StampsChanges (b : Build) (i : ℕ) (ls : List Access) (s s' : Sys) : Prop :=
  ∀ pre l post s₁ s₂, ls = pre ++ l :: post → run (Access.next b) pre s = some s₁ →
    l.next b s₁ = some s₂ → (s₂.table i).info.status ≠ (s₁.table i).info.status →
      UptimeRead (l.Gets b s₁) (s₂.table i).info.lastChange ∧
        ReadsUptime b (l :: post) s₁ (s'.table i).info.lastChange

section

variable {b : Build} {s s' : Sys} {l : Access} {ls : List Access} {i : ℕ}

/-- What a step does to `Status` and `LastChange`. -/
theorem status_step (hs : Numbered s) (h : l.next b s = some s') :
  l.WritesLastChange s i ∧ GivesUptime (l.Gets b s) (s'.table i).info.lastChange ∨
    (s'.table i).info.lastChange = (s.table i).info.lastChange ∧
      ((s'.table i).info.status = (s.table i).info.status ∨
        (s'.table i).info.status = .down ∧ (l.point.Stops s (i + 1) ∨ l.FailsAuth s i))
  := by
  cases (Access.ends_gets h).markStep hs i with
  | kept h =>
      right
      exact ⟨congrArg (fun v => v.2.1) h, .inl (congrArg (fun v => v.1.1) h)⟩
  | stopped hstop h =>
      right
      exact ⟨congrArg (fun v => v.2.1) h, .inr ⟨congrArg (fun v => v.1.1) h, .inl hstop⟩⟩
  | switched m uptime id hp hfor hup h =>
      have hlast := switchEntry_lastChange m.pppEventMsg uptime id (s.table i)
      have hstatus := switchEntry_status m.pppEventMsg uptime id (s.table i)
      rw [h]
      cases hwrites : m.pppEventMsg.pppState.writesLastChange with
      | true =>
          rw [hwrites, if_pos rfl] at hlast
          rw [hlast]
          exact .inl ⟨⟨m, hp, hwrites, hfor.readsCount⟩, hup hwrites⟩
      | false =>
          rw [hwrites, if_neg Bool.false_ne_true] at hlast
          refine .inr ⟨hlast, ?_⟩
          obtain hstate | hstate := PppState.of_not_writes hwrites
          · rw [hstate] at hstatus
            apply Or.inl (Prod.mk.inj hstatus).1
          · rw [hstate] at hstatus
            exact .inr ⟨(Prod.mk.inj hstatus).1, .inr ⟨m, hp, hstate, hfor.readsCount⟩⟩

/-- A step that changes `Status` sets `LastChange` to an uptime it reads, if it keeps interfaces
that are stopped or fail to authenticate down, and the uptime can be read. -/
theorem stamps_of_next (hs : Numbered s) (hl : KeepsTime b i l s) (h : l.next b s = some s')
    (hchange : (s'.table i).info.status ≠ (s.table i).info.status) :
  UptimeRead (l.Gets b s) (s'.table i).info.lastChange
  := by
  obtain ⟨hwrites, hup⟩ | ⟨-, hkept | ⟨hdown, hcause⟩⟩ := status_step (i := i) hs h
  · apply (hl.uptime hwrites).read hup
  · apply absurd hkept hchange
  · apply absurd (hdown.trans (hl.down hcause).symm) hchange

/-- Over a run, `LastChange` stays as it is or becomes an uptime the run reads. -/
theorem lastChange_of_run (hs : Numbered s)
    (htime : Throughout (Access.next b) (KeepsTime b i) ls s)
    (hrun : run (Access.next b) ls s = some s') :
  (s'.table i).info.lastChange = (s.table i).info.lastChange ∨
    ReadsUptime b ls s (s'.table i).info.lastChange
  := by
  induction ls generalizing s with
  | nil =>
      obtain rfl := Option.some.inj hrun
      apply Or.inl rfl
  | cons l ls ih =>
      obtain ⟨s₁, h₁, hrest⟩ := Option.bind_eq_some_iff.mp hrun
      obtain hkept | hreads := ih ((Access.ends_gets h₁).numbered hs) (htime.2 s₁ h₁) hrest
      · rw [hkept]
        obtain ⟨hwrites, hup⟩ | ⟨hlast, -⟩ := status_step (i := i) hs h₁
        · exact .inr (.inl ((htime.1.uptime hwrites).read hup))
        · exact .inl hlast
      · exact .inr (.inr ⟨s₁, h₁, hreads⟩)

/-- In every run in which an interface is stopped, or its authentication fails, only while its
`Status` is down, and the other messages for it read an uptime, each change of its `Status` sets
`LastChange` to an uptime read in that step, and `LastChange` is never older than the latest change. -/
theorem lastChange_current (hs : Initial s)
    (htime : Throughout (Access.next b) (KeepsTime b i) ls s)
    (hrun : run (Access.next b) ls s = some s') :
  StampsChanges b i ls s s'
  := by
  rintro pre l post s₁ s₂ rfl hpre hl hchange
  have hs₁ : Numbered s₁ := by
    apply run_invariant (G := fun _ _ => True) _ hs.toNumbered
      (throughout_of_forall fun _ _ _ => trivial) hpre
    intro l s₁ s₂ h _ hnext
    apply (Access.ends_gets hnext).numbered h
  obtain ⟨htime₁, hrest⟩ := htime.of_append hpre
  have hstamp := stamps_of_next hs₁ htime₁ hl hchange
  use hstamp
  rw [run_append, hpre, Option.bind_some] at hrun
  obtain ⟨s₂', hl₂, hpost⟩ := Option.bind_eq_some_iff.mp hrun
  obtain rfl := Option.some.inj (hl.symm.trans hl₂)
  obtain hkept | hreads := lastChange_of_run ((Access.ends_gets hl).numbered hs₁) (hrest s₂ hl) hpost
  · rw [hkept]
    apply Or.inl hstamp
  · exact .inr ⟨s₂, hl, hreads⟩

end

/-- A call of an entry point while the uptime is `uptime`. -/
def accessAt (uptime : CStr) (point : EntryPoint) : Access :=
  ⟨point, { workingOutside 1 none [] with bus := fun _ => some (some uptime) }.answers⟩

theorem eq_of_accessAt {b : Build} {uptime : CStr} {point : EntryPoint} {s : Sys}
    {r : Option (Option CStr)}
    (h : (accessAt uptime point).Gets b s
      (.busGet pandmComponentName pandmDbusPath upTimeParamName) r) :
  r = some (some uptime)
  := by
  obtain ⟨k, -, rfl⟩ := h.exists
  rfl

theorem uptimeReadable_accessAt {b : Build} {uptime : CStr} (point : EntryPoint) (s : Sys)
    (h : (sscanfLu uptime).isSome = true) :
  UptimeReadable ((accessAt uptime point).Gets b s)
  := by
  intro r hr
  obtain ⟨v, hv⟩ := Option.isSome_iff_exists.mp h
  exact ⟨uptime, v, eq_of_accessAt hr, hv⟩

/-- The authentication of an interface that is up fails, and `LastChange` stays at the time it came
up, although the uptime can be read all the time. -/
theorem auth_failure_keeps_lastChange :
  ¬ ∀ (b : Build) (i : ℕ) (ls : List Access) (s s' : Sys), Initial s →
    Throughout (Access.next b) (fun l s => UptimeReadable (l.Gets b s)) ls s →
    run (Access.next b) ls s = some s' → StampsChanges b i ls s s'
  := by
  intro h
  let up := accessAt "100".toList (.message (stateMessage 0 .interfaceUp))
  let failed := accessAt "200".toList (.message (stateMessage 0 .interfaceAuthFailed))
  have hup : ((up.next (plainBuild false) (freshState 1)).bind fun s₁ =>
      (failed.next (plainBuild false) s₁).map fun s₂ => ((s₁.table 0).info.status,
        (s₂.table 0).info.status, (s₂.table 0).info.lastChange)) = some (.up, .down, 100) := by
    decide +kernel
  obtain ⟨s₁, h₁, hrest⟩ := Option.bind_eq_some_iff.mp hup
  obtain ⟨s₂, h₂, hs₂⟩ := Option.map_eq_some_iff.mp hrest
  obtain ⟨hstatus₁, hs₂⟩ := Prod.mk.inj hs₂
  obtain ⟨hstatus₂, hlast⟩ := Prod.mk.inj hs₂
  have hrun : run (Access.next (plainBuild false)) [up, failed] (freshState 1) = some s₂ := by
    rw [run, h₁, Option.bind_some, run, h₂]
    rfl
  have hrun₁ : run (Access.next (plainBuild false)) [up] (freshState 1) = some s₁ := by
    rw [run, h₁]
    rfl
  have hreadable : Throughout (Access.next (plainBuild false))
      (fun l s => UptimeReadable (l.Gets (plainBuild false) s)) [up, failed] (freshState 1) :=
    ⟨uptimeReadable_accessAt _ _ (by decide),
      fun _ _ => ⟨uptimeReadable_accessAt _ _ (by decide), fun _ _ => trivial⟩⟩
  have hstamps := h _ 0 _ _ _ (initial_freshState (by decide)) hreadable hrun [up] failed [] s₁ s₂ rfl
    hrun₁ h₂ (by rw [hstatus₁, hstatus₂]; decide)
  obtain ⟨text, v, hr, hv, hu⟩ := hstamps.1
  obtain rfl := Option.some.inj (Option.some.inj (eq_of_accessAt hr))
  have hread : sscanfLu "200".toList = some 200 := by
    decide +kernel
  obtain rfl := Option.some.inj (hv.symm.trans hread)
  rw [hlast] at hu
  revert hu
  decide

/-- What has to be tested of a step that may stop the interface of the entry `i`, or report that its
authentication failed. -/
def keepsDownTest (i : ℕ) (l : Access) (s : Sys) : Bool :=
  match l.point with
  | .message m => m.pppEventMsg.pppState ≠ .interfaceAuthFailed || (s.table i).info.status = .down
  | .stop _ => (s.table i).info.status = .down
  | _ => false

theorem keepsDown_of_test {i : ℕ} {l : Access} {s : Sys} (h : keepsDownTest i l s = true) :
  KeepsDown i l s
  := by
  obtain ⟨point, answers⟩ := l
  cases point with
  | message m =>
      rcases Bool.or_eq_true_iff.mp h with hstate | hdown
      · rintro (hstop | ⟨m', hm, hfailed, -⟩)
        · generalize hn : i + 1 = n at hstop
          cases hstop
        · obtain rfl := EntryPoint.message.inj hm
          apply absurd hfailed (of_decide_eq_true hstate)
      · intro _
        apply of_decide_eq_true hdown
  | stop n =>
      intro _
      apply of_decide_eq_true h
  | _ => cases h

/-- The calls of a run in which the interface 1 comes up at 100, goes down at 200, and is stopped. -/
def upDownStop : List Access :=
  [accessAt "100".toList (.message (stateMessage 0 .interfaceUp)),
    accessAt "200".toList (.message (stateMessage 0 .interfaceDisconnected)),
    accessAt "300".toList (.stop 1)]

theorem lastChange_current_upDownStop :
  ∃ s', run (Access.next (plainBuild false)) upDownStop (freshState 1) = some s' ∧
    (s'.table 0).info.lastChange = 200 ∧
    StampsChanges (plainBuild false) 0 upDownStop (freshState 1) s'
  := by
  have htest : check (Access.next (plainBuild false)) (keepsDownTest 0) upDownStop (freshState 1) =
      true := by
    decide +kernel
  have hend : (run (Access.next (plainBuild false)) upDownStop (freshState 1)).map
      (fun s => (s.table 0).info.lastChange) = some 200 := by
    decide +kernel
  obtain ⟨s', hrun, hlast⟩ := Option.map_eq_some_iff.mp hend
  use s', hrun, hlast
  apply lastChange_current (initial_freshState (by decide)) _ hrun
  apply throughout_of_check _ htest
  intro l hl s hdown
  use keepsDown_of_test hdown
  intro _
  simp only [upDownStop, List.mem_cons, List.not_mem_nil, or_false] at hl
  rcases hl with rfl | rfl | rfl <;> apply uptimeReadable_accessAt _ _ (by decide)

end PppManager
