import Mathlib.Data.Fintype.Basic
import PppManager.Manager.Mapped

/-!
# Data of a session

What clients report about a session is kept in seven fields of an entry.  `PppMgr_StopPppClient`
clears five of them, and leaves `SRU` and `SRD`; of the messages that set `ConnectionStatus` to
Disconnected two clear `SRU` and `SRD` and leave the other five, and two leave all seven.  So a
tear-down leaves nothing of the session exactly if the fields it does not clear are clear before it
(`leavesNothing_iff`).
-/

namespace PppManager

open Effect CText

/-- What clients report about a session. -/
structure SessionData where
  localIPAddress : AnscIpv4Address
  remoteIPAddress : AnscIpv4Address
  dnsServers : Fin 2 → AnscIpv4Address
  ip6LocalIfID : CStr
  ip6RemoteIfID : CStr
  sru : ULong
  srd : ULong
  deriving DecidableEq

/-- No session data. -/
def SessionData.cleared : SessionData where
  localIPAddress := fun _ => 0
  remoteIPAddress := fun _ => 0
  dnsServers := fun _ _ => 0
  ip6LocalIfID := []
  ip6RemoteIfID := []
  sru := 0
  srd := 0

namespace DmlPppIfFull

/-- The session data in an entry. -/
def sessionData (e : DmlPppIfFull) : SessionData where
  localIPAddress := e.info.localIPAddress
  remoteIPAddress := e.info.remoteIPAddress
  dnsServers := e.info.dnsServers
  ip6LocalIfID := e.info.ip6LocalIfID
  ip6RemoteIfID := e.info.ip6RemoteIfID
  sru := e.info.sru
  srd := e.info.srd

/-- `SRU` and `SRD`. -/
def rates (e : DmlPppIfFull) : ULong × ULong :=
  (e.info.sru, e.info.srd)

/-- The session data but for `SRU` and `SRD`. -/
def withoutRates (e : DmlPppIfFull) : SessionData :=
  { e.sessionData with sru := 0, srd := 0 }

end DmlPppIfFull

/-- A message with the state sets `ConnectionStatus` to Disconnected. -/
def PppState.disconnects : PppState → Bool
  | .interfaceDisconnected => true
  | .interfaceDown => true
  | .interfaceLcpEchoFailed => true
  | .interfacePendingDisconnet => true
  | _ => false

/-- The ways a session is torn down: a stop, or a message with a state. -/
inductive TearDown
  | stop
  | message (p : PppState)

/-- The step tears down the session of the entry `i`: `PppMgr_StopPppClient` succeeds, or a message
that sets `ConnectionStatus` to Disconnected is handled. -/
inductive TearsDown (b : Build) (i : ℕ) (l : Access) (s s' : Sys) : TearDown → Prop
  | stopped (hpoint : l.point = .stop (i + 1)) (k : ℕ)
      (hexec : (machine l.point.thread).exec l.answers (stopPppClient b (i + 1)) 0 s =
        .ok (.success, s', k)) :
      TearsDown b i l s s' .stop
  | reported (m : IpcMsgPayload) (hm : l.Handles s i m)
      (hstate : m.pppEventMsg.pppState.disconnects = true) :
      TearsDown b i l s s' (.message m.pppEventMsg.pppState)

/-- Two entries have no session data, and so agree on it. -/
def LeavesNothing (e e' : DmlPppIfFull) : Prop :=
  e.sessionData = e'.sessionData ∧ e.sessionData = .cleared ∧ e'.sessionData = .cleared

namespace TearDown

/-- The tear-down clears `SRU` and `SRD`. -/
def ClearsRates (d : TearDown) : Prop :=
  d = .message .interfaceDisconnected ∨ d = .message .interfaceDown

/-- What the tear-down does not clear is clear in the entry: for a stop `SRU` and `SRD`, for a message
the other five fields, and `SRU` and `SRD` unless it clears them. -/
structure Suffices (d : TearDown) (e : DmlPppIfFull) : Prop where
  others : d ≠ .stop → e.withoutRates = .cleared
  rates : ¬ d.ClearsRates → e.rates = (0, 0)

end TearDown

section

variable {b : Build} {i : ℕ} {l : Access} {s s' : Sys} {d : TearDown}

/-- The messages that set `ConnectionStatus` to Disconnected. -/
theorem disconnects_iff (p : PppState) (old : DmlIfStatus × DmlPppConnStatus)
    (hold : old.2 ≠ .disconnected) :
  p.disconnects = true ↔ handlerOf p = .stateChanged ∧ (statusAfter old p).2 = .disconnected
  := by
  cases p <;> simp [PppState.disconnects, handlerOf, statusAfter, hold]

/-! ### What a tear-down leaves -/

theorem sessionData_eq_cleared_iff (e : DmlPppIfFull) :
  e.sessionData = .cleared ↔ e.withoutRates = .cleared ∧ e.rates = (0, 0)
  := by
  rw [DmlPppIfFull.withoutRates, DmlPppIfFull.rates, DmlPppIfFull.sessionData, SessionData.cleared]
  simp only [SessionData.mk.injEq, Prod.mk.injEq, and_true, and_assoc]

/-- A stop clears all session data but the rates. -/
theorem withoutRates_stoppedEntry (e : DmlPppIfFull) :
  (stoppedEntry b e).withoutRates = .cleared ∧ (stoppedEntry b e).rates = e.rates
  := by
  rw [stoppedEntry]
  split_ifs
  · exact ⟨rfl, rfl⟩
  · exact ⟨rfl, rfl⟩

/-- A message that sets `ConnectionStatus` to Disconnected clears the rates or leaves them, and leaves
the other session data. -/
theorem rates_switchEntry {msg : IpcPppEventMsg} (hstate : msg.pppState.disconnects = true)
    (uptime : ULong) (id : Option ULong) (e : DmlPppIfFull) :
  (switchEntry msg uptime id e).withoutRates = e.withoutRates ∧
    (switchEntry msg uptime id e).rates =
      if msg.pppState = .interfaceDisconnected ∨ msg.pppState = .interfaceDown then (0, 0) else e.rates
  := by
  rw [switchEntry]
  cases hp : msg.pppState <;> rw [hp] at hstate <;> first | exact ⟨rfl, rfl⟩ | cases hstate

/-- What a tear-down leaves in the entry. -/
theorem TearsDown.leaves (h : TearsDown b i l s s' d) (hnext : l.next b s = some s') :
  (d = .stop ∧ s'.table i = stoppedEntry b (s.table i)) ∨
    ∃ msg uptime id, d = .message msg.pppState ∧ msg.pppState.disconnects = true ∧
      s'.table i = switchEntry msg uptime id (s.table i)
  := by
  cases h with
  | stopped hpoint k hexec =>
      have hends := Contract.wp_exec_ok (C := contract l.point.thread Unrestricted True)
        (fun _ _ _ => trivial) (wp_stopPppClient (.inr trivial) fun _ _ h => h) hexec
      cases hends with
      | stopped j r₁ r₂ r₃ hn =>
          obtain rfl := Nat.succ_inj.mp hn
          left
          use rfl
          simp [stoppedState]
  | reported m hm hstate =>
      have hkind : handlerOf m.pppEventMsg.pppState = .stateChanged :=
        ((disconnects_iff _ (.unset, .unset) (by decide)).mp hstate).1
      obtain ⟨-, uptime, id, hentry⟩ := hm.switched hkind hnext
      exact .inr ⟨m.pppEventMsg, uptime, id, rfl, hstate, hentry⟩

/-- A tear-down leaves no session data exactly if what it does not clear was clear. -/
theorem TearsDown.sessionData_iff (h : TearsDown b i l s s' d) (hnext : l.next b s = some s') :
  (s'.table i).sessionData = .cleared ↔ d.Suffices (s.table i)
  := by
  rw [sessionData_eq_cleared_iff]
  rcases h.leaves hnext with ⟨rfl, hentry⟩ | ⟨msg, uptime, id, rfl, hstate, hentry⟩
  · obtain ⟨hothers, hrates⟩ := withoutRates_stoppedEntry (b := b) (s.table i)
    have hclears : ¬ TearDown.stop.ClearsRates := by
      rintro (h | h) <;> cases h
    rw [hentry, hrates]
    constructor
    · rintro ⟨-, hzero⟩
      exact ⟨fun h => absurd rfl h, fun _ => hzero⟩
    · intro hsuffices
      exact ⟨hothers, hsuffices.rates hclears⟩
  · obtain ⟨hothers, hrates⟩ := rates_switchEntry hstate uptime id (s.table i)
    have hclears : (TearDown.message msg.pppState).ClearsRates ↔
        msg.pppState = .interfaceDisconnected ∨ msg.pppState = .interfaceDown := by
      rw [TearDown.ClearsRates, TearDown.message.injEq, TearDown.message.injEq]
    rw [hentry, hothers, hrates]
    split_ifs with hclear
    · constructor
      · rintro ⟨hfive, -⟩
        exact ⟨fun _ => hfive, fun h => absurd (hclears.mpr hclear) h⟩
      · intro hsuffices
        exact ⟨hsuffices.others nofun, rfl⟩
    · constructor
      · rintro ⟨hfive, hzero⟩
        exact ⟨fun _ => hfive, fun _ => hzero⟩
      · intro hsuffices
        exact ⟨hsuffices.others nofun, hsuffices.rates (fun h => hclear (hclears.mp h))⟩

/-! ### Runs -/

variable {ls₁ ls₂ : List Access} {l₁ l₂ : Access} {r₁ r₂ s₁ s₂ s₁' s₂' : Sys}

/-- The last step of a run. -/
theorem next_of_run_concat {ls : List Access} {r : Sys} (hrun : run (Access.next b) ls r = some s)
    (hend : run (Access.next b) (ls ++ [l]) r = some s') :
  l.next b s = some s'
  := by
  rw [run_append, hrun, Option.bind_some, run] at hend
  obtain ⟨s₁, hnext, hlast⟩ := Option.bind_eq_some_iff.mp hend
  obtain rfl := Option.some.inj hlast
  apply hnext

/-- For any two histories that end with a tear-down of the session of an interface, nothing is left of
its two sessions exactly if in both the session data that the tear-down does not clear was clear before
it.  The states before the tear-down may differ in anything. -/
theorem leavesNothing_iff (hrun₁ : run (Access.next b) ls₁ r₁ = some s₁)
    (hrun₂ : run (Access.next b) ls₂ r₂ = some s₂)
    (hend₁ : run (Access.next b) (ls₁ ++ [l₁]) r₁ = some s₁')
    (hend₂ : run (Access.next b) (ls₂ ++ [l₂]) r₂ = some s₂') (hdown₁ : TearsDown b i l₁ s₁ s₁' d)
    (hdown₂ : TearsDown b i l₂ s₂ s₂' d) :
  LeavesNothing (s₁'.table i) (s₂'.table i) ↔
    d.Suffices (s₁.table i) ∧ d.Suffices (s₂.table i)
  := by
  rw [LeavesNothing, hdown₁.sessionData_iff (next_of_run_concat hrun₁ hend₁),
    hdown₂.sessionData_iff (next_of_run_concat hrun₂ hend₂)]
  constructor
  · apply And.right
  · rintro ⟨hsuffices₁, hsuffices₂⟩
    have hcleared₁ := (hdown₁.sessionData_iff (next_of_run_concat hrun₁ hend₁)).mpr hsuffices₁
    have hcleared₂ := (hdown₂.sessionData_iff (next_of_run_concat hrun₂ hend₂)).mpr hsuffices₂
    exact ⟨hcleared₁.trans hcleared₂.symm, hsuffices₁, hsuffices₂⟩

end

/-! ### Session data that is left -/

/-- A client, whose pid is 0 before it is started, reports rates. -/
def reportRates (vendormsg : CStr) : Access :=
  workingCall [] (.message
    { msgType := .pppStateChange
      pppEventMsg :=
        { (stateMessage 0 .lcpAuthCompleted).pppEventMsg with
          pppLcpMsg := { acname := [], exitStatus := 0, vendormsg := vendormsg, authproto := [] } } })

/-- A client reports addresses. -/
def reportAddresses : Access :=
  workingCall [] (.message { msgType := .pppStateChange, pppEventMsg := addressMessage })

/-- A client reports that its state is `p`. -/
def reportState (p : PppState) : Access :=
  workingCall [] (.message (stateMessage 0 p))

/-- A run of two steps, with the state between them. -/
def twoSteps (first l : Access) (s s' : Sys) : Prop :=
  run (Access.next (plainBuild false)) [first] (freshState 1) = some s ∧
    run (Access.next (plainBuild false)) ([first] ++ [l]) (freshState 1) = some s'

/-- The pid of the interface 1 between two steps, whether the database covers it then, whether it has no
session data then but for `SRU` and `SRD`, what a stop would answer, and whether it has no session data
after the steps. -/
def afterTwoSteps (first l : Access) : Option (ℤ × Bool × Bool × Option AnscStatus × Bool) :=
  (run (Access.next (plainBuild false)) [first] (freshState 1)).bind fun s =>
    (l.next (plainBuild false) s).map fun s' =>
      ((s.table 0).info.pppPid, decide (0 < s.pppIfCount.toNat),
        decide ((s.table 0).withoutRates = .cleared),
        ((machine .dataModel).exec l.answers (stopPppClient (plainBuild false) (0 + 1)) 0
          s).toOption.map (fun r => r.1), decide ((s'.table 0).sessionData = .cleared))

theorem exists_twoSteps {first l : Access} {pid : ℤ} {covered clear clear' : Bool}
    {q : Option AnscStatus} (h : afterTwoSteps first l = some (pid, covered, clear, q, clear')) :
  ∃ s s', twoSteps first l s s' ∧ (s.table 0).info.pppPid = pid ∧
    decide (0 < s.pppIfCount.toNat) = covered ∧ decide ((s.table 0).withoutRates = .cleared) = clear ∧
    ((machine .dataModel).exec l.answers (stopPppClient (plainBuild false) (0 + 1)) 0
      s).toOption.map (fun r => r.1) = q ∧ decide ((s'.table 0).sessionData = .cleared) = clear'
  := by
  obtain ⟨s, hrun, h⟩ := Option.bind_eq_some_iff.mp h
  obtain ⟨s', hnext, h⟩ := Option.map_eq_some_iff.mp h
  simp only [Prod.mk.injEq] at h
  refine ⟨s, s', ⟨hrun, ?_⟩, h⟩
  rw [run_append, hrun, Option.bind_some, run, hnext]
  rfl

/-- A message that sets `ConnectionStatus` to Disconnected tears the session down. -/
theorem tearsDown_message {first : Access} {p : PppState} {s s' : Sys} (hp : p.disconnects = true)
    (hrun : twoSteps first (reportState p) s s')
    (hpid : (s.table 0).info.pppPid = 0) (hcovered : decide (0 < s.pppIfCount.toNat) = true) :
  TearsDown (plainBuild false) 0 (reportState p) s s' (.message p)
  := by
  apply TearsDown.reported (stateMessage 0 p) _ hp
  apply Access.handles_of_isFor (atRest_of_run (initial_freshState (by decide)) hrun.1)
  · intro k
    rfl
  · refine ⟨rfl, of_decide_eq_true hcovered, hpid, ?_⟩
    intro _
    exact ⟨hpid, nofun⟩

theorem leavesNothing_iff_down :
  ∃ s₁ s₂ s₁' s₂', twoSteps (reportRates "SRU=5, SRD=7".toList) (reportState .interfaceDown) s₁ s₁' ∧
    twoSteps (reportRates []) (reportState .interfaceDown) s₂ s₂' ∧
    LeavesNothing (s₁'.table 0) (s₂'.table 0)
  := by
  have hafter₁ : afterTwoSteps (reportRates "SRU=5, SRD=7".toList) (reportState .interfaceDown) =
      some (0, true, true, some .success, true) := by
    decide +kernel
  have hafter₂ : afterTwoSteps (reportRates []) (reportState .interfaceDown) =
      some (0, true, true, some .success, true) := by
    decide +kernel
  obtain ⟨s₁, s₁', hrun₁, hpid₁, hcovered₁, hclear₁, -, -⟩ := exists_twoSteps hafter₁
  obtain ⟨s₂, s₂', hrun₂, hpid₂, hcovered₂, hclear₂, -, -⟩ := exists_twoSteps hafter₂
  have hrates : (TearDown.message .interfaceDown).ClearsRates := .inr rfl
  use s₁, s₂, s₁', s₂', hrun₁, hrun₂
  apply (leavesNothing_iff hrun₁.1 hrun₂.1 hrun₁.2 hrun₂.2
    (tearsDown_message rfl hrun₁ hpid₁ hcovered₁) (tearsDown_message rfl hrun₂ hpid₂ hcovered₂)).mpr
  constructor
  · exact ⟨fun _ => of_decide_eq_true hclear₁, fun h => absurd hrates h⟩
  · exact ⟨fun _ => of_decide_eq_true hclear₂, fun h => absurd hrates h⟩

/-- After rates were reported, a stop leaves them, and so does a message that the LCP echo failed; after
addresses were reported, a message that the interface is disconnected leaves them. -/
theorem session_left :
  (∃ s s', twoSteps (reportRates "SRU=5, SRD=7".toList) (workingCall [] (.stop 1)) s s' ∧
    TearsDown (plainBuild false) 0 (workingCall [] (.stop 1)) s s' .stop ∧
    ¬ LeavesNothing (s'.table 0) (s'.table 0)) ∧
  (∃ s s', twoSteps (reportRates "SRU=5, SRD=7".toList) (reportState .interfaceLcpEchoFailed) s s' ∧
    TearsDown (plainBuild false) 0 (reportState .interfaceLcpEchoFailed) s s'
      (.message .interfaceLcpEchoFailed) ∧
    ¬ LeavesNothing (s'.table 0) (s'.table 0)) ∧
  ∃ s s', twoSteps reportAddresses (reportState .interfaceDisconnected) s s' ∧
    TearsDown (plainBuild false) 0 (reportState .interfaceDisconnected) s s'
      (.message .interfaceDisconnected) ∧
    ¬ LeavesNothing (s'.table 0) (s'.table 0)
  := by
  refine ⟨?_, ?_, ?_⟩
  · have hafter : afterTwoSteps (reportRates "SRU=5, SRD=7".toList) (workingCall [] (.stop 1)) =
        some (0, true, true, some .success, false) := by
      decide +kernel
    obtain ⟨s, s', hrun, -, -, -, hstop, hleft⟩ := exists_twoSteps hafter
    obtain ⟨q, k, hnext⟩ := exec_of_next rfl (next_of_run_concat hrun.1 hrun.2)
    have hexec : (machine .dataModel).exec (workingCall [] (.stop 1)).answers
        (stopPppClient (plainBuild false) (0 + 1)) 0 s = .ok (q, s', k) := hnext
    rw [hexec] at hstop
    obtain rfl := Option.some.inj hstop
    use s, s', hrun, .stopped rfl k hexec
    rintro ⟨-, hclear, -⟩
    apply of_decide_eq_false hleft hclear
  · have hafter : afterTwoSteps (reportRates "SRU=5, SRD=7".toList)
        (reportState .interfaceLcpEchoFailed) = some (0, true, true, some .success, false) := by
      decide +kernel
    obtain ⟨s, s', hrun, hpid, hcovered, -, -, hleft⟩ := exists_twoSteps hafter
    use s, s', hrun, tearsDown_message rfl hrun hpid hcovered
    rintro ⟨-, hclear, -⟩
    apply of_decide_eq_false hleft hclear
  · have hafter : afterTwoSteps reportAddresses (reportState .interfaceDisconnected) =
        some (0, true, false, some .success, false) := by
      decide +kernel
    obtain ⟨s, s', hrun, hpid, hcovered, -, -, hleft⟩ := exists_twoSteps hafter
    use s, s', hrun, tearsDown_message rfl hrun hpid hcovered
    rintro ⟨-, hclear, -⟩
    apply of_decide_eq_false hleft hclear

end PppManager
