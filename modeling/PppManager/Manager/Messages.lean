import PppManager.Manager.Requests

/-!
# What the event thread does

The ways the handling of a state message and of a queue event can end.
-/

namespace PppManager

open Effect Effect.Program CText

/-! ### The state switch -/

/-- The entry `e` after the switch of `PppMgr_ProcessStateChangedMsg`, where the uptime is `uptime`
and `get_session_id` finds `id`. -/
def switchEntry (msg : IpcPppEventMsg) (uptime : ULong) (id : Option ULong) (e : DmlPppIfFull) :
    DmlPppIfFull :=
  match msg.pppState with
  | .interfaceUnconfigured => (e.setStatus .error .unconfigured).setLastChange uptime
  | .interfaceConnecting =>
    ((e.setStatus .down .connecting).setLastChange uptime).setACName
      (strncpy 257 msg.pppLcpMsg.acname)
  | .interfaceAuthenticating => (e.setStatus .down .authenticating).setLastChange uptime
  | .interfaceUp =>
    let e := ((e.setStatus .up .connected).setLastConnectionError .none).setLastChange uptime
    match id with
    | none => e
    | some id => e.setSessionID id
  | .interfaceDisconnecting => (e.setStatus .down .disconnecting).setLastChange uptime
  | .interfaceDisconnected | .interfaceDown =>
    (((e.setSruSrd (0, 0)).setStatus .down .disconnected).setLastChange
      uptime).setLastConnectionError (exitError msg.pppLcpMsg.exitStatus)
  | .lcpAuthCompleted =>
    let e := e.setSruSrd
      (if msg.pppLcpMsg.vendormsg = [] then (0, 0)
        else dmlSetVendorParams msg.pppLcpMsg.vendormsg (0, 0))
    if msg.pppLcpMsg.authproto = [] then e
    else
      e.setAuthenticationProtocol
        (if msg.pppLcpMsg.authproto = "PAP".toList then .pap else .chap)
  | .interfaceAuthFailed => e.setStatus .down .authenticationFailed
  | _ => (e.setStatus .down .disconnected).setLastChange uptime

/-- A message with the state writes `LastChange`. -/
def PppState.writesLastChange : PppState → Bool
  | .lcpAuthCompleted => false
  | .interfaceAuthFailed => false
  | _ => true

/-- The uptime `GetUptimeinSeconds` reads in the answer of the PandM component. -/
def uptimeOf (r : Option (Option CStr)) : ULong :=
  match r with
  | none => 0
  | some acGetParamValue => ULong.ofLong ((sscanfLu (acGetParamValue.getD [])).getD 0)

/-- `GetUptimeinSeconds` may read the uptime `u`. -/
def GivesUptime (A : (o : Op) → o.Ans → Prop) (u : ULong) : Prop :=
  ∃ r, A (.busGet pandmComponentName pandmDbusPath upTimeParamName) r ∧ u = uptimeOf r

/-- The link status a state message makes the manager tell the WAN manager. -/
def linkStatus : PppState → Option CStr
  | .interfaceUp => some up
  | .interfaceConnecting => none
  | .interfaceAuthenticating => none
  | .interfaceDisconnecting => none
  | .lcpAuthCompleted => none
  | _ => some down

/-- The text of a session id in the database. -/
def sessionIdText (id : ULong) : CStr :=
  printf "%ld".toList [.int id.toLong]

/-- The state after the switch on the entry `i`, where the write to the database succeeds as `w`
says. -/
def switchState (i : ℕ) (msg : IpcPppEventMsg) (uptime : ULong) (id : Option ULong) (w : Bool)
    (s : Sys) : Sys :=
  let e := switchEntry msg uptime id (s.table i)
  let s := s.setEntry i e
  match msg.pppState with
  | .interfaceUp => if w then s.setRecord psmPppSessionid (sessionIdText e.info.sessionID) else s
  | .interfaceAuthFailed => s.emit (.system pppoeStop)
  | _ => s

section

variable {t : Thread} {A : (o : Op) → o.Ans → Prop} {F : Prop} {s : Sys}

/-- A write to an entry that is left out under a condition. -/
theorem wp_storeUnless {c : Prop} [Decidable c] {i : ℕ} {g : DmlPppIfFull → DmlPppIfFull}
    {Q : Unit → Sys → Prop}
    (hQ : Q () (s.setEntry i (if c then s.table i else g (s.table i)))) :
  (contract t A F).wp (storeUnless c i g) Q s
  := by
  rw [storeUnless]
  split_ifs at hQ ⊢
  · rw [Sys.setEntry_self _ _ rfl] at hQ
    apply hQ
  · rw [wp_store]
    intro _
    apply hQ

/-- The rule of `GetUptimeinSeconds`. -/
theorem wp_getUptimeinSeconds {Q : ULong → Sys → Prop}
    (hQ : ∀ uptime, GivesUptime A uptime → Q uptime s) :
  (contract t A F).wp getUptimeinSeconds Q s
  := by
  rw [getUptimeinSeconds, Contract.wp_bind, dmlPppMgrGetParamValues, Contract.wp_bind, wp_busGet]
  rintro (_ | _ | parameterValue) hr
  · apply hQ _ ⟨_, hr, rfl⟩
  · apply hQ _ ⟨_, hr, rfl⟩
  · dsimp only
    split_ifs
    · apply hQ _ ⟨_, hr, rfl⟩
    · apply wp_undefined

theorem wp_changeStatus {i : ℕ} {status : DmlIfStatus} {conn : DmlPppConnStatus}
    {Q : Unit → Sys → Prop}
    (hQ : ∀ uptime, GivesUptime A uptime → Q () (s.setEntry i
      (((s.table i).setStatus status conn).setLastChange uptime))) :
  (contract t A F).wp (changeStatus i status conn) Q s
  := by
  rw [changeStatus, Contract.wp_bind, wp_store]
  intro _
  rw [Contract.wp_bind]
  apply wp_getUptimeinSeconds
  intro uptime hup
  rw [wp_store]
  intro _
  rw [Sys.setEntry_table, Function.update_self, Sys.setEntry_setEntry]
  apply hQ _ hup

theorem wp_getSessionId {i : ℕ} {Q : Unit → Sys → Prop} (hnone : Q () s)
    (hsome : ∀ id, Q () (s.setEntry i ((s.table i).setSessionID id))) :
  (contract t A F).wp (getSessionId i) Q s
  := by
  rw [getSessionId, Contract.wp_bind]
  apply wp_of_reads (reads_findSessionId i)
  rintro (_ | id)
  · apply hnone
  · rw [wp_store]
    intro _
    apply hsome

/-- The rule of the end of the case `PPP_INTERFACE_UP`, where the id of the entry is persisted. -/
theorem wp_persistSessionId {i : ℕ} {Q : Option CStr → Sys → Prop}
    (hQ : ∀ w : Bool,
      (w = false → A (.psmSet psmPppSessionid (sessionIdText (s.table i).info.sessionID)) false) →
      Q (some up) (if w then
        s.setRecord psmPppSessionid (sessionIdText (s.table i).info.sessionID) else s)) :
  (contract t A F).wp (do
    let pEntry ← load i
    let _ ← setParamValuesToDB psmPppSessionid (sessionIdText pEntry.info.sessionID)
    pure (some up)) Q s
  := by
  rw [Contract.wp_bind, wp_load]
  intro _
  rw [Contract.wp_bind, setParamValuesToDB, wp_psmSet]
  constructor
  · intro _
    apply hQ true
    intro h
    cases h
  · intro hw
    apply hQ false (fun _ => hw)

/-- The rule of the case `PPP_INTERFACE_UP` of the switch, around the search of the id. -/
theorem wp_switchPppState_interfaceUp {i : ℕ} {msg : IpcPppEventMsg} {Q : Option CStr → Sys → Prop}
    (hup : msg.pppState = .interfaceUp)
    (hQ : ∀ uptime, GivesUptime A uptime →
      (contract t A F).wp (getSessionId i) (fun _ s => ∀ w : Bool,
          (w = false → A (.psmSet psmPppSessionid (sessionIdText (s.table i).info.sessionID)) false) →
          Q (some up) (if w then
            s.setRecord psmPppSessionid (sessionIdText (s.table i).info.sessionID) else s))
        (s.setEntry i (switchEntry msg uptime none (s.table i)))) :
  (contract t A F).wp (switchPppState i msg) Q s
  := by
  rw [switchPppState, hup, Contract.wp_bind, wp_store]
  intro _
  rw [Contract.wp_bind, wp_store]
  intro _
  rw [Contract.wp_bind]
  apply wp_getUptimeinSeconds
  intro uptime huptime
  rw [Contract.wp_bind, wp_store]
  intro _
  simp only [Sys.setEntry_setEntry, Sys.setEntry_table, Function.update_self]
  rw [Contract.wp_bind]
  have h := hQ uptime huptime
  rw [switchEntry, hup] at h
  apply Contract.wp_mono _ h
  intro _ s' hs'
  apply wp_persistSessionId hs'

/-- The switch of `PppMgr_ProcessStateChangedMsg`. -/
theorem wp_switchPppState {i : ℕ} {msg : IpcPppEventMsg} {Q : Option CStr → Sys → Prop}
    (hQ : ∀ uptime id w,
      (w = false → A (.psmSet psmPppSessionid
        (sessionIdText (switchEntry msg uptime id (s.table i)).info.sessionID)) false) →
      (msg.pppState.writesLastChange = true → GivesUptime A uptime) →
      Q (linkStatus msg.pppState) (switchState i msg uptime id w s)) :
  (contract t A F).wp (switchPppState i msg) Q s
  := by
  by_cases hstate : msg.pppState = .interfaceUp
  · apply wp_switchPppState_interfaceUp hstate
    intro uptime hup
    apply wp_getSessionId
    · intro w hw
      rw [Sys.setEntry_table, Function.update_self] at hw ⊢
      have h := hQ uptime none w hw (fun _ => hup)
      rw [switchState, hstate] at h
      apply h
    · intro id w hw
      have hfound : (switchEntry msg uptime none (s.table i)).setSessionID id =
          switchEntry msg uptime (some id) (s.table i) := by
        rw [switchEntry, switchEntry, hstate]
      rw [Sys.setEntry_setEntry, Sys.setEntry_table, Sys.setEntry_table, Function.update_self,
        Function.update_self, hfound] at hw ⊢
      have h := hQ uptime (some id) w hw (fun _ => hup)
      rw [switchState, hstate] at h
      apply h
  rw [switchPppState]
  cases hcase : msg.pppState with
  | interfaceUp => apply absurd hcase hstate
  | interfaceConnecting =>
      rw [Contract.wp_bind]
      apply wp_changeStatus
      intro uptime hup
      rw [Contract.wp_bind, wp_store]
      intro _
      have h := hQ uptime none true (fun h => nomatch h) (fun _ => hup)
      simpa [switchState, switchEntry, hcase, linkStatus] using h
  | interfaceDisconnected | interfaceDown =>
      rw [Contract.wp_bind, wp_store]
      intro _
      rw [Contract.wp_bind]
      apply wp_changeStatus
      intro uptime hup
      rw [Contract.wp_bind, wp_store]
      intro _
      have h := hQ uptime none true (fun h => nomatch h) (fun _ => hup)
      simpa [switchState, switchEntry, hcase, linkStatus] using h
  | lcpAuthCompleted =>
      rw [Contract.wp_bind, completeLcpAuth, Contract.wp_bind, wp_store]
      intro _
      rw [Contract.wp_bind]
      apply wp_storeUnless
      simp only [Sys.setEntry_table, Function.update_self, Sys.setEntry_setEntry]
      apply wp_storeUnless
      simp only [Sys.setEntry_table, Function.update_self, Sys.setEntry_setEntry]
      have h := hQ 0 none true (fun h => nomatch h) (fun h => by simp [hcase, PppState.writesLastChange] at h)
      simp only [switchState, switchEntry, hcase, linkStatus] at h
      split_ifs at h ⊢ <;> apply h
  | interfaceAuthFailed =>
      rw [Contract.wp_bind, wp_store]
      intro _
      rw [Contract.wp_bind, stopPppoe, Contract.wp_bind, wp_system]
      have h := hQ 0 none true (fun h => nomatch h) (fun h => by simp [hcase, PppState.writesLastChange] at h)
      simpa [switchState, switchEntry, hcase, linkStatus] using h
  | _ =>
      rw [Contract.wp_bind]
      apply wp_changeStatus
      intro uptime hup
      have h := hQ uptime none true (fun h => nomatch h) (fun _ => hup)
      simpa [switchState, switchEntry, hcase, linkStatus] using h

/-- The fields of an entry that a state message keeps. -/
def DmlPppIfFull.keptByMessage (e : DmlPppIfFull) : (ℕ × Bool) × ℤ × (ℤ × ℤ) :=
  ((e.cfg.instanceNumber, e.cfg.bEnabled), e.info.pppPid, e.wanPair)

theorem switchEntry_keptByMessage (msg : IpcPppEventMsg) (uptime : ULong) (id : Option ULong)
    (e : DmlPppIfFull) :
  (switchEntry msg uptime id e).keptByMessage = e.keptByMessage
  := by
  rw [switchEntry]
  cases msg.pppState with
  | interfaceUp => cases id <;> rfl
  | lcpAuthCompleted =>
      dsimp only
      split_ifs <;> rfl
  | _ => rfl

@[simp]
theorem switchEntry_instanceNumber (msg : IpcPppEventMsg) (uptime : ULong) (id : Option ULong)
    (e : DmlPppIfFull) :
  (switchEntry msg uptime id e).cfg.instanceNumber = e.cfg.instanceNumber
  := congrArg (fun v => v.1.1) (switchEntry_keptByMessage msg uptime id e)

@[simp]
theorem switchEntry_bEnabled (msg : IpcPppEventMsg) (uptime : ULong) (id : Option ULong)
    (e : DmlPppIfFull) :
  (switchEntry msg uptime id e).cfg.bEnabled = e.cfg.bEnabled
  := congrArg (fun v => v.1.2) (switchEntry_keptByMessage msg uptime id e)

@[simp]
theorem switchEntry_pppPid (msg : IpcPppEventMsg) (uptime : ULong) (id : Option ULong)
    (e : DmlPppIfFull) :
  (switchEntry msg uptime id e).info.pppPid = e.info.pppPid
  := congrArg (fun v => v.2.1) (switchEntry_keptByMessage msg uptime id e)

@[simp]
theorem switchEntry_wanPair (msg : IpcPppEventMsg) (uptime : ULong) (id : Option ULong)
    (e : DmlPppIfFull) :
  (switchEntry msg uptime id e).wanPair = e.wanPair
  := congrArg (fun v => v.2.2) (switchEntry_keptByMessage msg uptime id e)

/-- `Status` and `ConnectionStatus` after the switch, where they were `old`. -/
def statusAfter (old : DmlIfStatus × DmlPppConnStatus) :
    PppState → DmlIfStatus × DmlPppConnStatus
  | .interfaceUnconfigured => (.error, .unconfigured)
  | .interfaceConnecting => (.down, .connecting)
  | .interfaceAuthenticating => (.down, .authenticating)
  | .interfaceUp => (.up, .connected)
  | .interfaceDisconnecting => (.down, .disconnecting)
  | .interfaceAuthFailed => (.down, .authenticationFailed)
  | .lcpAuthCompleted => old
  | _ => (.down, .disconnected)

theorem switchEntry_status (msg : IpcPppEventMsg) (uptime : ULong) (id : Option ULong)
    (e : DmlPppIfFull) :
  ((switchEntry msg uptime id e).info.status, (switchEntry msg uptime id e).info.connectionStatus) =
    statusAfter (e.info.status, e.info.connectionStatus) msg.pppState
  := by
  rw [switchEntry]
  cases msg.pppState with
  | interfaceUp => cases id <;> rfl
  | lcpAuthCompleted =>
      dsimp only
      split_ifs <;> rfl
  | _ => rfl

theorem PppState.of_not_writes {p : PppState} (h : p.writesLastChange = false) :
  p = .lcpAuthCompleted ∨ p = .interfaceAuthFailed
  := by
  cases p with
  | lcpAuthCompleted => apply Or.inl rfl
  | interfaceAuthFailed => apply Or.inr rfl
  | _ => cases h

theorem switchEntry_lastChange (msg : IpcPppEventMsg) (uptime : ULong) (id : Option ULong)
    (e : DmlPppIfFull) :
  (switchEntry msg uptime id e).info.lastChange =
    if msg.pppState.writesLastChange then uptime else e.info.lastChange
  := by
  rw [switchEntry]
  cases msg.pppState with
  | interfaceUp => cases id <;> rfl
  | lcpAuthCompleted =>
      rw [PppState.writesLastChange, if_neg Bool.false_ne_true]
      dsimp only
      split_ifs <;> rfl
  | _ => rfl

@[simp]
theorem switchState_table (i : ℕ) (msg : IpcPppEventMsg) (uptime : ULong) (id : Option ULong)
    (w : Bool) :
  (switchState i msg uptime id w s).table =
    Function.update s.table i (switchEntry msg uptime id (s.table i))
  := by
  rw [switchState]
  cases msg.pppState with
  | interfaceUp => cases w <;> rfl
  | _ => rfl

@[simp]
theorem switchState_locks (i : ℕ) (msg : IpcPppEventMsg) (uptime : ULong) (id : Option ULong)
    (w : Bool) :
  (switchState i msg uptime id w s).locks = s.locks
  := by
  rw [switchState]
  cases msg.pppState with
  | interfaceUp => cases w <;> rfl
  | _ => rfl

@[simp]
theorem switchState_queue (i : ℕ) (msg : IpcPppEventMsg) (uptime : ULong) (id : Option ULong)
    (w : Bool) :
  (switchState i msg uptime id w s).queue = s.queue
  := by
  rw [switchState]
  cases msg.pppState with
  | interfaceUp => cases w <;> rfl
  | _ => rfl

@[simp]
theorem switchState_setLock (i j : ℕ) (msg : IpcPppEventMsg) (uptime : ULong)
    (id : Option ULong) (w : Bool) (owners : List Thread) :
  switchState i msg uptime id w (s.setLock j owners) =
    (switchState i msg uptime id w s).setLock j owners
  := by
  rw [switchState, switchState]
  cases msg.pppState with
  | interfaceUp => cases w <;> rfl
  | _ => rfl

/-! ### Link states -/

/-- The event that tells the WAN manager the LCP status of the entry `e`. -/
def lcpEvent (b : Build) (e : DmlPppIfFull) (v : CStr) : PppEventQData :=
  busSetEvent (toInt e.cfg.instanceNumber) (pppLcpStatusParamName b) v

/-- The event that tells the WAN manager the link status of the entry `e`. -/
def linkEvent (b : Build) (e : DmlPppIfFull) (v : CStr) : PppEventQData :=
  busSetEvent (toInt e.cfg.instanceNumber) (pppLinkStatusParamName b) v

/-- The ways a call of `PppMgr_ProcessStateChangedMsg` ends. -/
inductive StateChangedEnds (A : (o : Op) → o.Ans → Prop) (b : Build) (s : Sys) (n : ℤ)
    (msg : IpcPppEventMsg) : AnscStatus → Sys → Prop
  | noEntry (h : NoSuchEntry A s n.toNat) : StateChangedEnds A b s n msg .failure s
  | quiet (i : ℕ) (uptime : ULong) (id : Option ULong) (w : Bool) (hn : n.toNat = i + 1)
      (hi : i < pppTableLength) (hlink : linkStatus msg.pppState = none)
      (hup : msg.pppState.writesLastChange = true → GivesUptime A uptime) :
      StateChangedEnds A b s n msg .success (switchState i msg uptime id w s)
  | refused (i : ℕ) (uptime : ULong) (id : Option ULong) (w : Bool) (v : CStr)
      (hn : n.toNat = i + 1) (hi : i < pppTableLength)
      (hlink : linkStatus msg.pppState = some v)
      (hw : w = false → A (.psmSet psmPppSessionid
        (sessionIdText (switchEntry msg uptime id (s.table i)).info.sessionID)) false)
      (hfail : CanFail A (lcpEvent b (s.table i) v))
      (hup : msg.pppState.writesLastChange = true → GivesUptime A uptime) :
      StateChangedEnds A b s n msg .failure (switchState i msg uptime id w s)
  | told (i : ℕ) (uptime : ULong) (id : Option ULong) (w : Bool) (v : CStr) (r : Bool)
      (hn : n.toNat = i + 1) (hi : i < pppTableLength)
      (hlink : linkStatus msg.pppState = some v)
      (hw : w = false → A (.psmSet psmPppSessionid
        (sessionIdText (switchEntry msg uptime id (s.table i)).info.sessionID)) false)
      (hr : r = false → CanFail A (linkEvent b (s.table i) v))
      (hup : msg.pppState.writesLastChange = true → GivesUptime A uptime) :
      StateChangedEnds A b s n msg (if r then .success else .failure)
        (((switchState i msg uptime id w s).post (lcpEvent b (s.table i) v)).sent r
          (linkEvent b (s.table i) v))

/-- Telling the WAN manager the link status of an entry. -/
theorem wp_postLinkStatus {b : Build} {i : ℕ} {v : CStr} {l : List Thread}
    {Q : AnscStatus → Sys → Prop} (hroom : s.queue.length + 1 < maxQueueLength ∨ F)
    (hlock : s.locks i = t :: l)
    (hrefused : CanFail A (lcpEvent b (s.table i) v) → Q .failure (s.setLock i l))
    (htold : ∀ r, (r = false → CanFail A (linkEvent b (s.table i) v)) →
      Q (if r then .success else .failure)
        (((s.post (lcpEvent b (s.table i) v)).sent r (linkEvent b (s.table i) v)).setLock i
          l)) :
  (contract t A F).wp (postLinkStatus b i v) Q s
  := by
  rw [postLinkStatus, Contract.wp_bind, wp_load]
  intro _
  rw [Contract.wp_bind]
  apply wp_sendDataToQ
  · apply hroom.imp_left
    intro h
    apply Nat.lt_of_succ_lt h
  · rintro (_ | _) hr
    · rw [if_neg Bool.false_ne_true, Contract.wp_bind]
      apply wp_getIfaceDataRelease hlock
      apply hrefused (hr rfl)
    · rw [if_pos rfl, Contract.wp_bind]
      apply wp_sendDataToQ
      · apply hroom.imp_left
        intro h
        apply Nat.lt_of_le_of_lt (Sys.sent_queue_length_le _ _ _) h
      · rintro (_ | _) hr'
        · rw [if_neg Bool.false_ne_true, Contract.wp_bind]
          apply wp_getIfaceDataRelease (l := l)
          · simp [hlock]
          · apply htold false hr'
        · rw [if_pos rfl, Contract.wp_bind]
          apply wp_getIfaceDataRelease (l := l)
          · simp [hlock]
          · apply htold true hr'

/-- The part of `PppMgr_ProcessStateChangedMsg` after it has found the entry `i`. -/
theorem wp_switched {b : Build} {n : ℤ} {i : ℕ} {msg : IpcPppEventMsg} {Q : AnscStatus → Sys → Prop}
    (hn : n.toNat = i + 1) (hi : i < pppTableLength)
    (hroom : linkStatus msg.pppState = none ∨ s.queue.length + 1 < maxQueueLength ∨ F)
    (hQ : ∀ uptime id r s', StateChangedEnds A b s n msg r s' →
      s'.table = Function.update s.table i (switchEntry msg uptime id (s.table i)) → Q r s') :
  (contract t A F).wp (do
    match ← switchPppState i msg with
    | none =>
      getIfaceDataRelease i
      pure .success
    | some wanPppLinkStatus => postLinkStatus b i wanPppLinkStatus) Q (s.setLock i (t :: s.locks i))
  := by
  rw [Contract.wp_bind]
  apply wp_switchPppState
  intro uptime id w hw hup
  cases hlink : linkStatus msg.pppState with
  | none =>
      rw [Contract.wp_bind]
      apply wp_getIfaceDataRelease (l := s.locks i)
      · simp
      · rw [switchState_setLock, Sys.setLock_setLock, Sys.setLock_self _ _ (by simp)]
        apply hQ uptime id _ _ (.quiet i uptime id w hn hi hlink hup)
        apply switchState_table
  | some v =>
      have hevents : ∀ e : DmlPppIfFull, lcpEvent b (switchEntry msg uptime id e) v =
          lcpEvent b e v ∧ linkEvent b (switchEntry msg uptime id e) v = linkEvent b e v := by
        intro e
        simp [lcpEvent, linkEvent]
      apply wp_postLinkStatus (l := s.locks i)
      · rw [hlink] at hroom
        simpa using hroom
      · simp
      · intro hfail
        rw [switchState_setLock, Sys.setLock_setLock, Sys.setLock_self _ _ (by simp)]
        simp only [switchState_table, Sys.setLock_table, Function.update_self,
          (hevents _).1] at hfail
        apply hQ uptime id _ _ (.refused i uptime id w v hn hi hlink hw hfail hup)
        apply switchState_table
      · intro r hr
        simp only [switchState_setLock, Sys.setLock_table, switchState_table,
          Function.update_self, (hevents _).1, (hevents _).2] at hr ⊢
        rw [Sys.post_setLock, Sys.sent_setLock, Sys.setLock_setLock,
          Sys.setLock_self _ _ (by simp)]
        apply hQ uptime id _ _ (.told i uptime id w v r hn hi hlink hw hr hup)
        rw [Sys.sent_table, Sys.post_table, switchState_table]

/-- The rule of `PppMgr_ProcessStateChangedMsg`. -/
theorem wp_processStateChangedMsg {b : Build} {n : ℤ} {msg : IpcPppEventMsg}
    {Q : AnscStatus → Sys → Prop}
    (hroom : linkStatus msg.pppState = none ∨ s.queue.length + 1 < maxQueueLength ∨ F)
    (hQ : ∀ r s', StateChangedEnds A b s n msg r s' → Q r s') :
  (contract t A F).wp (processStateChangedMsg b n msg) Q s
  := by
  rw [processStateChangedMsg]
  split_ifs
  · apply hQ _ _ (.noEntry (.inl (Int.toNat_of_nonpos ‹_›)))
  · rw [Contract.wp_bind]
    apply wp_getIfaceDataLocked
    · intro h
      apply hQ _ _ (.noEntry h)
    · intro i hn hi _
      apply wp_switched hn hi hroom
      intro uptime id r s' h _
      apply hQ r s' h

/-! ### IPCP and IPv6CP -/

/-- The entry `e` with the addresses of a session written. -/
def addressed (l g : AnscIpv4Address) (d : Fin 2 → AnscIpv4Address) (e : DmlPppIfFull) :
    DmlPppIfFull :=
  ((e.setLocalIPAddress l).setRemoteIPAddress g).setDNSServers d

/-- A first write to an address. -/
theorem setLocalIPAddress_eq (l : AnscIpv4Address) (e : DmlPppIfFull) :
  e.setLocalIPAddress l = addressed l e.info.remoteIPAddress e.info.dnsServers e
  := rfl

@[simp]
theorem setLocalIPAddress_addressed (l l' g : AnscIpv4Address) (d : Fin 2 → AnscIpv4Address)
    (e : DmlPppIfFull) :
  (addressed l g d e).setLocalIPAddress l' = addressed l' g d e
  := rfl

@[simp]
theorem setRemoteIPAddress_addressed (l g g' : AnscIpv4Address) (d : Fin 2 → AnscIpv4Address)
    (e : DmlPppIfFull) :
  (addressed l g d e).setRemoteIPAddress g' = addressed l g' d e
  := rfl

@[simp]
theorem setDNSServers_addressed (l g : AnscIpv4Address) (d d' : Fin 2 → AnscIpv4Address)
    (e : DmlPppIfFull) :
  (addressed l g d e).setDNSServers d' = addressed l g d' e
  := rfl

/-- The addresses of a session in an entry. -/
structure SessionAddresses where
  localIPAddress : AnscIpv4Address
  remoteIPAddress : AnscIpv4Address
  dnsServers : Fin 2 → AnscIpv4Address

/-- What `PppMgr_ProcessIpcpParams` has stored when it answers the message, and whether it has
accepted the parameters. -/
def PppIpcpMsg.stored (msg : PppIpcpMsg) : SessionAddresses × Bool :=
  match dmlSetIp4Param msg.ip (fun _ => 0) with
  | (ip, .failure) => (⟨ip, fun _ => 0, fun _ _ => 0⟩, false)
  | (ip, .success) =>
    match dmlSetIp4Param msg.gateway (fun _ => 0) with
    | (gateway, .failure) => (⟨ip, gateway, fun _ _ => 0⟩, false)
    | (gateway, .success) =>
      match dnsServersOf (strtok ',' msg.nameserver) with
      | none => (⟨ip, gateway, fun _ _ => 0⟩, false)
      | some dnsServers => (⟨ip, gateway, dnsServers⟩, true)

/-- The entry with the addresses of a session written. -/
def DmlPppIfFull.setAddresses (a : SessionAddresses) (e : DmlPppIfFull) : DmlPppIfFull :=
  addressed a.localIPAddress a.remoteIPAddress a.dnsServers e

/-- The end of `PppMgr_ProcessIpcpParams`. -/
def answerIpcp (b : Build) (i : ℕ) (accepted : Bool) : Code AnscStatus :=
  if accepted then acceptIpcpParams b i else rejectIpcpParams b i

/-- The entry `e` with the interface identifiers of a session written. -/
def identified (l g : CStr) (e : DmlPppIfFull) : DmlPppIfFull :=
  (e.setIp6LocalIfID l).setIp6RemoteIfID g

/-- The entry `e` with the interface identifiers of a message stored, as far as it has them. -/
def DmlPppIfFull.storeIdentifiers (msg : PppIpv6cpMsg) (e : DmlPppIfFull) : DmlPppIfFull :=
  identified
    (if msg.localIntfId = [] then e.info.ip6LocalIfID else strncpy 45 msg.localIntfId)
    (if msg.remoteIntfId = [] then e.info.ip6RemoteIfID else strncpy 45 msg.remoteIntfId) e

/-- The event that tells the WAN manager the IPCP status of an instance. -/
def ipcpEvent (b : Build) (n : ℤ) (v : CStr) : PppEventQData :=
  busSetEvent n (pppIpcpStatusParamName b) v

/-- The event that tells the WAN manager the IPv6CP status of an instance. -/
def ipv6cpEvent (b : Build) (n : ℤ) (v : CStr) : PppEventQData :=
  busSetEvent n (pppIpv6cpStatusParamName b) v

/-- The ways a call of `PppMgr_ProcessIpcpParams` ends. -/
inductive IpcpEnds (A : (o : Op) → o.Ans → Prop) (b : Build) (s : Sys) (n : ℤ) (msg : PppIpcpMsg) :
    AnscStatus → Sys → Prop
  | noEntry (h : NoSuchEntry A s n.toNat) : IpcpEnds A b s n msg .failure s
  | down (r : Bool) (hr : r = false → CanFail A (ipcpEvent b n down)) :
      IpcpEnds A b s n msg .failure (s.sent r (ipcpEvent b n down))
  | stored (i : ℕ) (v : CStr) (r : Bool) (q : AnscStatus) (hn : n.toNat = i + 1)
      (hi : i < pppTableLength) (hq : q = .success ↔ v = up ∧ r = true)
      (hr : r = false → CanFail A (ipcpEvent b (toInt (s.table i).cfg.instanceNumber) v)) :
      IpcpEnds A b s n msg q ((s.setEntry i ((s.table i).setAddresses msg.stored.1)).sent r
        (ipcpEvent b (toInt (s.table i).cfg.instanceNumber) v))

/-- The addresses are stored as they are read, and then the message is answered. -/
theorem wp_storeIpcpParams {b : Build} {i : ℕ} {msg : PppIpcpMsg} {Q : AnscStatus → Sys → Prop}
    (hQ : (contract t A F).wp (answerIpcp b i msg.stored.2) Q
      (s.setEntry i ((s.table i).setAddresses msg.stored.1))) :
  (contract t A F).wp (storeIpcpParams b i msg) Q s
  := by
  have hstore : ∀ {l g d} {f : DmlPppIfFull → DmlPppIfFull} {p : Unit → Code AnscStatus},
      (contract t A F).wp (p ()) Q (s.setEntry i (f (addressed l g d (s.table i)))) →
      (contract t A F).wp (store i f >>= p) Q (s.setEntry i (addressed l g d (s.table i))) := by
    intro l g d f p h
    rw [Contract.wp_bind, wp_store, Sys.setEntry_setEntry, Sys.setEntry_table, Function.update_self]
    intro _
    apply h
  rw [storeIpcpParams, Contract.wp_bind, wp_store, setLocalIPAddress_eq]
  intro _
  apply hstore
  rw [setRemoteIPAddress_addressed]
  apply hstore
  rw [setDNSServers_addressed]
  revert hQ
  rw [PppIpcpMsg.stored]
  rcases dmlSetIp4Param msg.ip (fun _ => 0) with ⟨ip, _ | _⟩
  · rcases dmlSetIp4Param msg.gateway (fun _ => 0) with ⟨gateway, _ | _⟩
    · rcases dnsServersOf (strtok ',' msg.nameserver) with _ | dnsServers
      · intro hQ
        apply hstore
        rw [setLocalIPAddress_addressed]
        apply hstore
        rw [setRemoteIPAddress_addressed]
        apply hQ
      · intro hQ
        apply hstore
        rw [setLocalIPAddress_addressed]
        apply hstore
        rw [setRemoteIPAddress_addressed]
        apply hstore
        rw [setDNSServers_addressed]
        apply hQ
    · intro hQ
      apply hstore
      rw [setLocalIPAddress_addressed]
      apply hstore
      rw [setRemoteIPAddress_addressed]
      apply hQ
  · intro hQ
    apply hstore
    rw [setLocalIPAddress_addressed]
    apply hQ

/-- The answer to a message, and the event that tells it. -/
theorem wp_answerIpcp {b : Build} {i : ℕ} {accepted : Bool} {o : List Thread}
    {Q : AnscStatus → Sys → Prop} (hroom : s.queue.length < maxQueueLength ∨ F)
    (hlock : s.locks i = t :: o)
    (hQ : ∀ r, (r = false → CanFail A (ipcpEvent b (toInt (s.table i).cfg.instanceNumber)
        (if accepted then up else down))) →
      Q (if accepted && r then .success else .failure)
        ((s.sent r (ipcpEvent b (toInt (s.table i).cfg.instanceNumber)
          (if accepted then up else down))).setLock i o)) :
  (contract t A F).wp (answerIpcp b i accepted) Q s
  := by
  cases accepted with
  | true =>
      rw [answerIpcp, if_pos rfl, acceptIpcpParams, Contract.wp_bind, wp_load]
      intro _
      rw [Contract.wp_bind]
      apply wp_sendDataToQ hroom
      rintro (_ | _) hr
      · rw [if_neg Bool.false_ne_true, Contract.wp_bind]
        apply wp_getIfaceDataRelease (l := o)
        · apply hlock
        · apply hQ false hr
      · rw [if_pos rfl, Contract.wp_bind]
        apply wp_getIfaceDataRelease (l := o)
        · apply hlock
        · apply hQ true hr
  | false =>
      rw [answerIpcp, if_neg Bool.false_ne_true, rejectIpcpParams, Contract.wp_bind, wp_load]
      intro _
      rw [Contract.wp_bind]
      apply wp_sendDataToQ hroom
      intro r hr
      rw [Contract.wp_bind]
      apply wp_getIfaceDataRelease (l := o)
      · rw [Sys.sent_locks, hlock]
      · apply hQ r hr

/-- The rule of `PppMgr_ProcessIpcpParams`. -/
theorem wp_processIpcpParams {b : Build} {n : ℤ} {msg : IpcPppEventMsg}
    {Q : AnscStatus → Sys → Prop} (hroom : s.queue.length < maxQueueLength ∨ F)
    (hQ : ∀ r s', IpcpEnds A b s n msg.pppIpcpMsg r s' → Q r s') :
  (contract t A F).wp (processIpcpParams b n msg) Q s
  := by
  have hdown : (contract t A F).wp (do let _ ← setIPCPStatusDown b n; pure .failure) Q s := by
    rw [Contract.wp_bind]
    apply wp_sendDataToQ (by apply hroom)
    intro r hr
    apply hQ _ _ (.down r hr)
  rw [processIpcpParams]
  split_ifs
  · apply hQ _ _ (.noEntry (.inl (Int.toNat_of_nonpos ‹_›)))
  · apply hdown
  · apply hdown
  · rw [Contract.wp_bind]
    apply wp_getIfaceDataLocked
    · intro h
      apply hQ _ _ (.noEntry h)
    · intro i hn hi _
      apply wp_storeIpcpParams
      apply wp_answerIpcp (o := s.locks i)
      · apply hroom
      · simp
      · intro r hr
        rw [Sys.setEntry_setLock, Sys.sent_setLock, Sys.setLock_setLock,
          Sys.setLock_self _ _ (by simp)]
        simp only [Sys.setEntry_table, Sys.setLock_table, Function.update_self] at hr ⊢
        apply hQ _ _ (.stored i _ r _ hn hi _ hr)
        cases msg.pppIpcpMsg.stored.2 <;> cases r <;> decide

/-- The ways a call of `PppMgr_ProcessIpv6cpParams` ends. -/
inductive Ipv6cpEnds (A : (o : Op) → o.Ans → Prop) (b : Build) (s : Sys) (n : ℤ)
    (msg : PppIpv6cpMsg) : AnscStatus → Sys → Prop
  | badInstance (h : n.toNat = 0) : Ipv6cpEnds A b s n msg .failure s
  | noEntry (h : NoSuchEntry A s n.toNat) : Ipv6cpEnds A b s n msg .success s
  | completed (i : ℕ) (r : Bool) (hn : n.toNat = i + 1) (hi : i < pppTableLength)
      (hr : r = false →
        CanFail A (ipv6cpEvent b (toInt (s.table i).cfg.instanceNumber) up)) :
      Ipv6cpEnds A b s n msg (if r then .success else .failure)
        (((s.setEntry i ((s.table i).storeIdentifiers msg)).emit
          (.generateDuidFile (s.table i).info.name)).sent r
            (ipv6cpEvent b (toInt (s.table i).cfg.instanceNumber) up))
  | down (i : ℕ) (r : Bool) (hn : n.toNat = i + 1) (hi : i < pppTableLength)
      (hr : r = false →
        CanFail A (ipv6cpEvent b (toInt (s.table i).cfg.instanceNumber) down)) :
      Ipv6cpEnds A b s n msg .success
        ((s.emit (.removeDuidFile (s.table i).info.name)).sent r
          (ipv6cpEvent b (toInt (s.table i).cfg.instanceNumber) down))

theorem arraysFit_identified {e : DmlPppIfFull} {l g : CStr} (h : e.ArraysFit) (hl : l.length < 46)
    (hg : g.length < 46) :
  (identified l g e).ArraysFit
  := by
  have hlocal : (e.setIp6LocalIfID l).ArraysFit := h.set 9 hl rfl
  apply hlocal.set 10 hg rfl

/-- What is stored of the identifiers of a message fits. -/
theorem arraysFit_storeIdentifiers {e : DmlPppIfFull} (msg : PppIpv6cpMsg) (h : e.ArraysFit) :
  (e.storeIdentifiers msg).ArraysFit
  := by
  have hcopy : ∀ v : CStr, (strncpy 45 v).length < 46 := by
    intro v
    apply Nat.lt_succ_of_le (List.length_take_le 45 v)
  apply arraysFit_identified h
  · split_ifs
    · apply h (46, e.info.ip6LocalIfID) (by simp [DmlPppIfFull.arrays])
    · apply hcopy
  · split_ifs
    · apply h (46, e.info.ip6RemoteIfID) (by simp [DmlPppIfFull.arrays])
    · apply hcopy

/-- Storing interface identifiers. -/
theorem wp_storeIpv6cpParams {i : ℕ} {msg : PppIpv6cpMsg} {Q : Unit → Sys → Prop}
    (hQ : Q () (s.setEntry i ((s.table i).storeIdentifiers msg))) :
  (contract t A F).wp (storeIpv6cpParams i msg) Q s
  := by
  rw [storeIpv6cpParams, Contract.wp_bind]
  apply wp_storeUnless
  apply wp_storeUnless
  simp only [Sys.setEntry_table, Function.update_self, Sys.setEntry_setEntry]
  rw [DmlPppIfFull.storeIdentifiers] at hQ
  split_ifs at hQ ⊢ <;> apply hQ

/-- The rule of `PppMgr_ProcessIpv6cpParams`. -/
theorem wp_processIpv6cpParams {b : Build} {n : ℤ} {msg : IpcPppEventMsg}
    {Q : AnscStatus → Sys → Prop} (hroom : s.queue.length < maxQueueLength ∨ F)
    (hQ : ∀ r s', Ipv6cpEnds A b s n msg.pppIpv6cpMsg r s' → Q r s') :
  (contract t A F).wp (processIpv6cpParams b n msg) Q s
  := by
  rw [processIpv6cpParams]
  split_ifs
  · apply hQ _ _ (.badInstance (Int.toNat_of_nonpos ‹_›))
  · rw [Contract.wp_bind]
    apply wp_getIfaceDataLocked
    · intro h
      apply hQ _ _ (.noEntry h)
    · intro i hn hi _
      rw [Contract.wp_bind, wp_load]
      intro _
      dsimp only
      rw [Contract.wp_bind]
      apply wp_storeIpv6cpParams
      rw [Contract.wp_bind, wp_generateDuidFile, Contract.wp_bind]
      apply wp_sendDataToQ (by apply hroom)
      intro r hr
      have hends := hQ _ _ (.completed i r hn hi hr)
      cases r with
      | false =>
          rw [if_neg Bool.false_ne_true, Contract.wp_bind]
          apply wp_getIfaceDataRelease (l := s.locks i)
          · simp
          · rw [Sys.setEntry_setLock, Sys.emit_setLock, Sys.sent_setLock, Sys.setLock_setLock,
              Sys.setLock_self _ _ (by simp)]
            apply hends
      | true =>
          rw [if_pos rfl, Contract.wp_bind]
          apply wp_getIfaceDataRelease (l := s.locks i)
          · simp
          · rw [Sys.setEntry_setLock, Sys.emit_setLock, Sys.sent_setLock, Sys.setLock_setLock,
              Sys.setLock_self _ _ (by simp)]
            apply hends
  · rw [Contract.wp_bind]
    apply wp_getIfaceDataLocked
    · intro h
      apply hQ _ _ (.noEntry h)
    · intro i hn hi _
      rw [Contract.wp_bind, wp_load]
      intro _
      dsimp only
      rw [Contract.wp_bind, wp_removeDuidFile, Contract.wp_bind]
      apply wp_sendDataToQ (by apply hroom)
      intro r hr
      rw [Contract.wp_bind]
      apply wp_getIfaceDataRelease (l := s.locks i)
      · simp
      · rw [Sys.emit_setLock, Sys.sent_setLock, Sys.setLock_setLock,
          Sys.setLock_self _ _ (by simp)]
        apply hQ _ _ (.down i r hn hi hr)

end

end PppManager
