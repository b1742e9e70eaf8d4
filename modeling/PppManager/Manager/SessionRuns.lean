import PppManager.Manager.SessionMoves
import PppManager.Manager.IpcpParams

/-!
# Runs of the manager and their sessions

A run of the manager from its load, in which the sends succeed, is for each interface a run of its
session: the entry is as the session says, and what the manager has sent to the WAN manager about the
interface and done with its DUID are the reports of what has happened, in that order
(`session_implemented`).  So as long as the WAN manager was told last that IPCP is up, the entry has
the addresses of a message that was accepted (`ipcp_up_addresses`).
-/

namespace PppManager

open Effect CText

/-- A turn of the run: its call is for an entry that the PSM count covers, and every send succeeds. -/
def SendingTurn (l : Turn) (s : Sys) : Prop :=
  l.call.Handles s ∧ l.Allowed SendsSucceed

/-- The session and the state belong together, and what was done with DUIDs was done with those of
entries. -/
structure HasSession (i : ℕ) (name : Option CStr) (x : Session PppIpcpMsg) (s : Sys) : Prop where
  numbered : Numbered s
  watches : s.Watches i name
  describes : x.Describes (s.table i)
  duids : s.OwnDuids s.acts

section

variable {b : Build} {s s' : Sys} {i : ℕ} {name : Option CStr}

/-- The names and the PSM count decide which DUID is watched. -/
theorem Sys.Watches.congr (h : s.Watches i name) (hcount : s'.pppIfCount = s.pppIfCount)
    (hnames : ∀ j, (s'.table j).info.name = (s.table j).info.name) :
  s'.Watches i name
  := by
  intro w hw
  obtain ⟨hown, hothers⟩ := h w hw
  constructor
  · rw [hnames, hown]
  · intro j hj hij
    rw [hcount] at hj
    rw [hnames]
    apply hothers j hj hij

/-- The names and the PSM count decide which DUIDs are those of entries. -/
theorem Sys.OwnDuids.congr {acts : List Act} (h : s.OwnDuids acts)
    (hcount : s'.pppIfCount = s.pppIfCount)
    (hnames : ∀ j, (s'.table j).info.name = (s.table j).info.name) :
  s'.OwnDuids acts
  := by
  intro a ha w hw
  obtain ⟨j, hj, hname⟩ := h a ha w hw
  rw [← hcount] at hj
  rw [← hnames] at hname
  exact ⟨j, hj, hname⟩

/-- Every turn is what has happened to the session, with its reports. -/
theorem implements_sessions :
  (sessions.seenBy (Report.act? b (i + 1 : ℕ) name)).Implements (Turn.next b) SendingTurn
    (HasSession i name) (fun s => reported (i + 1 : ℕ) name s.acts)
    (fun l s => l.call.MakesHappen i s)
  where
    moves := by
      intro l s s' x hx hl hnext
      obtain ⟨r, hends⟩ := Turn.next_ends hl.2 hnext
      obtain ⟨hs, hmem, hfollows⟩ :=
        Turn.follows hl.2 hx.numbered hl.1 hnext hx.watches
      refine ⟨hs, hmem, ⟨?_, ?_, ?_, ?_⟩, ?_⟩
      · apply hends.numbered hx.numbered hl.1
      · apply hx.watches.congr hends.pppIfCount hfollows.names
      · rw [Transducer.after_seenBy]
        apply hfollows.describes x hx.describes
      · obtain ⟨added, hacts, hadded⟩ := hfollows.duids
        rw [hacts]
        apply (hx.duids.append hadded).congr hends.pppIfCount hfollows.names
      · rw [hfollows.reports, Transducer.outputs_seenBy, outputs_sessions]

/-- Loading the table leaves every session idle. -/
theorem describes_of_initialize {t : Thread} {ω : Answers} {psm : CStr → Option CStr} {k : ℕ}
    (hinit : (machine t).exec ω (backEndManagerInitialize b) 0 (Sys.blank psm) = .ok ((), s, k)) :
  Session.idle.Describes (s.table i)
  := by
  have hunset : (s.table i).info.status = .unset ∧ (s.table i).info.connectionStatus = .unset := by
    apply entries_of_initialize (I := fun e => e.info.status = .unset ∧
      e.info.connectionStatus = .unset) (LoadStable.keeps _) _ _ _ hinit
    · intro e e' hkept he
      have hfields := congrArg (fun v => v.2.1) hkept
      obtain ⟨hstatus, hrest⟩ := Prod.mk.inj hfields
      obtain ⟨hconn, -⟩ := Prod.mk.inj hrest
      exact ⟨hstatus.trans he.1, hconn.trans he.2⟩
    · intro v e he
      exact e.loadSessionID_cases v he (fun _ => he)
    · intro n e he
      apply he
    · exact ⟨rfl, rfl⟩
  constructor
  · rw [DmlPppIfFull.linkPhase, hunset.1, hunset.2]
    rfl
  · rintro msg ⟨⟩

/-- The manager has loaded its table, and a session begins for the entry `i`. -/
theorem hasSession_of_initialize {t : Thread} {ω : Answers} {psm : CStr → Option CStr} {k : ℕ}
    (hω : ∀ k, ω k (.psmGet psmPppManagerPppIfCount) = true)
    (hinit : (machine t).exec ω (backEndManagerInitialize b) 0 (Sys.blank psm) = .ok ((), s, k))
    (hwatched : s.Watches i name) :
  HasSession i name .idle s
  := by
  have hinitial := initial_of_initialize hω hinit
  refine ⟨hinitial.toNumbered, hwatched, describes_of_initialize hinit, ?_⟩
  rw [hinitial.acts]
  rintro a ⟨⟩

/-- A run of turns is a run of the session. -/
theorem HasSession.run {ls : List Turn} {x : Session PppIpcpMsg} (hx : HasSession i name x s)
    (hacts : s.acts = []) (hturns : Throughout (Turn.next b) SendingTurn ls s)
    (hrun : Effect.run (Turn.next b) ls s = some s') :
  ∃ hss, Transducer.Allotted (Turn.next b) (fun l s => l.call.MakesHappen i s) ls hss s ∧
    HasSession i name (sessions.after hss.flatten x) s' ∧
    reported (i + 1 : ℕ) name s'.acts =
      (sessions.outputs hss.flatten x).filterMap (Report.act? b (i + 1 : ℕ) name)
  := by
  obtain ⟨hss, hallotted, hends, htold⟩ := implements_sessions.run hx hturns hrun
  refine ⟨hss, hallotted, ?_, ?_⟩
  · rw [← Transducer.after_seenBy]
    apply hends
  · rw [htold, hacts, Transducer.outputs_seenBy]
    rfl

/-- A run of the manager from its load is a run of the session of the entry `i`: to each turn are
allotted the things that its call makes happen, the entry is as the session says, and the events about
the interface and the acts on the DUID that is watched are the reports of the session. -/
theorem session_implemented {t : Thread} {ω : Answers} {psm : CStr → Option CStr} {k : ℕ}
    {ls : List Turn} (hω : ∀ k, ω k (.psmGet psmPppManagerPppIfCount) = true)
    (hinit : (machine t).exec ω (backEndManagerInitialize b) 0 (Sys.blank psm) = .ok ((), s, k))
    (hwatched : s.Watches i name) (hturns : Throughout (Turn.next b) SendingTurn ls s)
    (hrun : run (Turn.next b) ls s = some s') :
  ∃ hss, Transducer.Allotted (Turn.next b) (fun l s => l.call.MakesHappen i s) ls hss s ∧
    (sessions.after hss.flatten .idle).Describes (s'.table i) ∧
    reported (i + 1 : ℕ) name s'.acts =
      (sessions.outputs hss.flatten .idle).filterMap (Report.act? b (i + 1 : ℕ) name)
  := by
  have hinitial := initial_of_initialize hω hinit
  have hsession := hasSession_of_initialize hω hinit hwatched
  obtain ⟨hss, hallotted, hends, hreported⟩ := hsession.run hinitial.acts hturns hrun
  exact ⟨hss, hallotted, hends.describes, hreported⟩

end

/-- A client reports that its link, IPCP and IPv6CP are up. -/
def sessionTurns : List Turn :=
  [stateMessage 0 .interfaceUp, ⟨.pppStateChange, addressMessage⟩,
    stateMessage 0 .ipv6cpCompleted].map fun m => ⟨.message m, (workingOutside 1 none []).answers⟩

theorem sendingTurn_sessionTurns (s : Sys) :
  Throughout (Turn.next (plainBuild false)) SendingTurn sessionTurns s
  := by
  apply throughout_of_forall
  intro l hl s
  obtain ⟨m, -, rfl⟩ := List.mem_map.mp hl
  use trivial
  apply Outside.allowed_sends rfl

/-- The state after the load and the turns. -/
def afterSessionTurns : Option (Sys × Sys) :=
  ((machine .dataModel).exec (workingOutside 1 none []).answers
    (backEndManagerInitialize (plainBuild false)) 0 (Sys.blank (freshState 1).psm)).toOption.bind
      fun r => (run (Turn.next (plainBuild false)) sessionTurns r.2.1).map fun s' => (r.2.1, s')

theorem exists_run_sessionTurns {f : Sys × Sys → Bool} (h : afterSessionTurns.map f = some true) :
  ∃ s s' k, (machine .dataModel).exec (workingOutside 1 none []).answers
      (backEndManagerInitialize (plainBuild false)) 0 (Sys.blank (freshState 1).psm) =
        .ok ((), s, k) ∧
    run (Turn.next (plainBuild false)) sessionTurns s = some s' ∧ f (s, s') = true
  := by
  obtain ⟨⟨s, s'⟩, hafter, hf⟩ := Option.map_eq_some_iff.mp h
  obtain ⟨⟨_, s₁, k⟩, hinit, hrest⟩ := Option.bind_eq_some_iff.mp hafter
  obtain ⟨s₂, hrun, hpair⟩ := Option.map_eq_some_iff.mp hrest
  obtain ⟨rfl, rfl⟩ := Prod.mk.inj hpair
  exact ⟨s₁, s₂, k, eq_ok_of_toOption hinit, hrun, hf⟩

theorem session_implemented_up :
  ∃ s s' k, (machine .dataModel).exec (workingOutside 1 none []).answers
      (backEndManagerInitialize (plainBuild false)) 0 (Sys.blank (freshState 1).psm) =
        .ok ((), s, k) ∧
    run (Turn.next (plainBuild false)) sessionTurns s = some s' ∧
    (reported (0 + 1 : ℕ) (some ['1']) s'.acts).length = 5 ∧
    ∃ hss, Transducer.Allotted (Turn.next (plainBuild false)) (fun l s => l.call.MakesHappen 0 s)
        sessionTurns hss s ∧
      (sessions.after hss.flatten .idle).Describes (s'.table 0) ∧
      reported (0 + 1 : ℕ) (some ['1']) s'.acts = (sessions.outputs hss.flatten .idle).filterMap
        (Report.act? (plainBuild false) (0 + 1 : ℕ) (some ['1']))
  := by
  have hend : afterSessionTurns.map (fun r => decide (r.1.pppIfCount.toNat = 1 ∧
      (r.1.table 0).info.name = ['1'] ∧
      (reported (0 + 1 : ℕ) (some ['1']) r.2.acts).length = 5)) = some true := by
    decide +kernel
  obtain ⟨s, s', k, hinit, hrun, hfacts⟩ := exists_run_sessionTurns hend
  obtain ⟨hcount, hname, hlength⟩ := of_decide_eq_true hfacts
  dsimp only at hcount
  use s, s', k, hinit, hrun, hlength
  apply session_implemented _ hinit _ (sendingTurn_sessionTurns s) hrun
  · intro _
    rfl
  · rintro w ⟨⟩
    use hname
    intro j hj hne
    omega

/-! ### Addresses -/

/-- The status of the instance `n` with the key `keyPath` that an act tells the WAN manager. -/
def statusTold (n : ℤ) (keyPath : CStr) : Act → Option CStr
  | .post ev =>
    if ev.action = .busSet ∧ ev.pppIfInstance = n ∧ ev.keyPath = some keyPath then some ev.val
    else none
  | _ => none

section

variable {b : Build} {s s' : Sys} {i : ℕ} {n : ℤ} {name : Option CStr}

theorem statusTold_of_ne {keyPath keyPath' v : CStr} (h : keyPath' ≠ keyPath) :
  statusTold n keyPath (.post (busSetEvent n keyPath' v)) = none
  := by
  apply if_neg
  rintro ⟨-, -, hkey⟩
  apply h (Option.some.inj hkey)

theorem statusTold_self (keyPath : CStr) (isUp : Bool) :
  statusTold n keyPath (.post (busSetEvent n keyPath (statusText isUp))) = some (statusText isUp)
  := by
  rw [statusTold, if_pos ⟨rfl, rfl, rfl⟩]
  cases isUp <;> rfl

/-- A report tells the status of IPCP as the session says. -/
theorem ipcp_told (r : Report) :
  (r.act? b n name).bind (statusTold n (pppIpcpStatusParamName b)) = r.ipcp?.map statusText
  := by
  cases r with
  | lcp isUp => apply statusTold_of_ne pppIpcpStatusParamName_ne.symm
  | link isUp => apply statusTold_of_ne pppIpcpStatusParamName_ne_link.symm
  | ipcp isUp => apply statusTold_self
  | ipv6cp isUp => apply statusTold_of_ne pppIpcpStatusParamName_ne_ipv6cp.symm
  | duid isKept =>
      cases name with
      | none => rfl
      | some w => cases isKept <;> rfl

/-- A report tells the status of IPv6CP as the session says. -/
theorem ipv6cp_told (r : Report) :
  (r.act? b n name).bind (statusTold n (pppIpv6cpStatusParamName b)) = r.ipv6cp?.map statusText
  := by
  cases r with
  | lcp isUp => apply statusTold_of_ne pppIpv6cpStatusParamName_ne.symm
  | link isUp => apply statusTold_of_ne pppIpv6cpStatusParamName_ne_link.symm
  | ipcp isUp => apply statusTold_of_ne pppIpcpStatusParamName_ne_ipv6cp
  | ipv6cp isUp => apply statusTold_self
  | duid isKept =>
      cases name with
      | none => rfl
      | some w => cases isKept <;> rfl

/-- What only reports tell is told by them. -/
theorem lastOf_reported {β : Type} {f : Act → Option β} (name : Option CStr) (acts : List Act)
    (hf : ∀ a, a.isReport n name = false → f a = none) :
  lastOf f (reported n name acts) = lastOf f acts
  := by
  rw [lastOf, reported, List.filterMap_filter, lastOf]
  congr 2
  funext a
  split_ifs with hreport
  · rfl
  · rw [hf a (Bool.eq_false_of_not_eq_true hreport)]

/-- The last value that the reports of a session tell. -/
theorem lastOf_reports {β γ : Type} {f : Act → Option β} {g : Report → Option γ} {v : γ → β}
    (rs : List Report) (h : ∀ r, (Report.act? b n name r).bind f = (g r).map v) :
  lastOf f (rs.filterMap (Report.act? b n name)) = (lastOf g rs).map v
  := by
  rw [lastOf, List.filterMap_filterMap, lastOf, ← List.getLast?_map, List.map_filterMap]
  congr 2
  funext r
  apply h

/-- The statuses of an instance are told by reports. -/
theorem statusTold_of_not_isReport {keyPath : CStr} {a : Act} (h : a.isReport n name = false) :
  statusTold n keyPath a = none
  := by
  cases a with
  | post ev =>
      apply if_neg
      rintro ⟨haction, hinstance, -⟩
      rw [Act.isReport, haction, hinstance] at h
      simp at h
  | _ => rfl

/-- Parameters are agreed on by a message only. -/
theorem exists_message {l : Turn} {msg : PppIpcpMsg} (h : l.call.MakesHappen i s (.ipcpUp msg)) :
  ∃ m, l.call = .message m ∧ m.pppEventMsg.pppState = .ipcpCompleted ∧
    m.pppEventMsg.pppIpcpMsg = msg
  := by
  obtain ⟨call, x⟩ := l
  cases call with
  | message m =>
      refine ⟨m, rfl, ?_⟩
      obtain ⟨-, hmem⟩ := h
      rw [IpcPppEventMsg.happenings] at hmem
      cases hstate : m.pppEventMsg.pppState with
      | ipcpCompleted =>
          rw [hstate] at hmem
          dsimp only at hmem
          split_ifs at hmem
          · exact ⟨rfl, (Happening.ipcpUp.inj (List.mem_singleton.mp hmem)).symm⟩
          · cases List.mem_singleton.mp hmem
      | _ =>
          rw [hstate] at hmem
          simp at hmem
  | enable => cases h.2.2
  | reset | stop => cases h.2
  | event | start => apply h.elim

theorem statusText_eq_up {v : Bool} (h : statusText v = up) :
  v = true
  := by
  cases v with
  | true => rfl
  | false => apply absurd h.symm up_ne_down

/-- As long as the WAN manager was told last that IPCP is up, the entry has the addresses of a message
that was accepted, whatever else the manager has handled since. -/
theorem ipcp_up_addresses {t : Thread} {ω : Answers} {psm : CStr → Option CStr} {k : ℕ}
    {ls : List Turn} (hω : ∀ k, ω k (.psmGet psmPppManagerPppIfCount) = true)
    (hinit : (machine t).exec ω (backEndManagerInitialize b) 0 (Sys.blank psm) = .ok ((), s, k))
    (hturns : Throughout (Turn.next b) SendingTurn ls s) (hrun : run (Turn.next b) ls s = some s')
    (htold : lastOf (statusTold (i + 1 : ℕ) (pppIpcpStatusParamName b)) s'.acts = some up) :
  ∃ l ∈ ls, ∃ m, l.call = .message m ∧ m.pppEventMsg.pppState = .ipcpCompleted ∧
    m.pppEventMsg.pppIpcpMsg.IsAccepted ∧
    (s'.table i).addresses = m.pppEventMsg.pppIpcpMsg.stored.1
  := by
  have hwatched : s.Watches i none := by
    rintro w ⟨⟩
  have hinitial := initial_of_initialize hω hinit
  have hsession := hasSession_of_initialize hω hinit hwatched
  obtain ⟨hss, hallotted, hends, hreported⟩ := hsession.run hinitial.acts hturns hrun
  rw [← lastOf_reported none _ (fun _ => statusTold_of_not_isReport), hreported,
    lastOf_reports _ ipcp_told] at htold
  obtain ⟨v, hv, hup⟩ := Option.map_eq_some_iff.mp htold
  obtain rfl := statusText_eq_up hup
  obtain ⟨msg, hmsg⟩ := Option.ne_none_iff_exists'.mp ((parameters_iff_ipcp _).mp hv)
  obtain ⟨haccepted, haddresses⟩ := hends.describes.parameters msg hmsg
  obtain ⟨l, hl, s₁, hmakes⟩ := hallotted.from_mem hrun (mem_of_parameters hmsg)
  obtain ⟨m, hcall, hstate, rfl⟩ := exists_message hmakes
  exact ⟨l, hl, m, hcall, hstate, haccepted, haddresses⟩

theorem ipcp_up_addresses_up :
  ∃ s s' k, (machine .dataModel).exec (workingOutside 1 none []).answers
      (backEndManagerInitialize (plainBuild false)) 0 (Sys.blank (freshState 1).psm) =
        .ok ((), s, k) ∧
    run (Turn.next (plainBuild false)) sessionTurns s = some s' ∧
    ∃ l ∈ sessionTurns, ∃ m, l.call = .message m ∧ m.pppEventMsg.pppState = .ipcpCompleted ∧
      m.pppEventMsg.pppIpcpMsg.IsAccepted ∧
      (s'.table 0).addresses = m.pppEventMsg.pppIpcpMsg.stored.1
  := by
  have hend : afterSessionTurns.map (fun r => decide (lastOf (statusTold (0 + 1 : ℕ)
      (pppIpcpStatusParamName (plainBuild false))) r.2.acts = some up)) = some true := by
    decide +kernel
  obtain ⟨s, s', k, hinit, hrun, htold⟩ := exists_run_sessionTurns hend
  use s, s', k, hinit, hrun
  apply ipcp_up_addresses _ hinit (sendingTurn_sessionTurns s) hrun (of_decide_eq_true htold)
  intro _
  rfl

end

end PppManager
