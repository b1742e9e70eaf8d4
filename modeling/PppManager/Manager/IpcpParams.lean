import PppManager.Manager.Addresses
import PppManager.Manager.LockDiscipline
import PppManager.Manager.Outside

/-!
# The addresses of a session

The addresses a client reports are stored, told to the WAN manager, and given back by the data model
as they were reported.  `dotted` is the canonical text of an address, and `IsNameserver` says that a
text lists one name server or two.
-/

namespace PppManager

open Effect Effect.Program CText

/-! ### Canonical texts -/

/-- The canonical text of an address. -/
def dotted (a : AnscIpv4Address) : CStr :=
  dec (a 0).toNat ++ '.' :: (dec (a 1).toNat ++ '.' :: (dec (a 2).toNat ++ '.' :: dec (a 3).toNat))

/-- The text is that of one name server, or those of two between a comma, the second of which is not
0.0.0.0. -/
def IsNameserver (v : CStr) : Prop :=
  (∃ d, v = dotted d) ∨ ∃ d d', (∃ j, d' j ≠ 0) ∧ v = dotted d ++ ',' :: dotted d'

theorem isOctet_dec (x : BitVec 8) :
  IsOctet (dec x.toNat) x
  where
    ne_nil := Nat.toDigits_ne_nil
    digits := fun _ => isDigit_of_mem_dec_ofNat
    value := Nat.ofDigitChars_ten_toDigits

theorem dottedQuad_dotted (a : AnscIpv4Address) :
  DottedQuad (dotted a) a
  := ⟨fun j => dec (a j).toNat, fun j => isOctet_dec (a j), rfl⟩

theorem dotted_ne_nil (a : AnscIpv4Address) :
  dotted a ≠ []
  := by
  rw [dotted]
  intro h
  cases (List.append_eq_nil_iff.mp h).2

theorem IsNameserver.ne_nil {v : CStr} (h : IsNameserver v) :
  v ≠ []
  := by
  rcases h with ⟨d, rfl⟩ | ⟨d, d', -, rfl⟩
  · apply dotted_ne_nil
  · apply List.append_ne_nil_of_left_ne_nil (dotted_ne_nil d)

theorem comma_not_mem_dotted (a : AnscIpv4Address) :
  ',' ∉ dotted a
  := by
  have hdec : ∀ j, ',' ∉ dec (a j).toNat := fun j => (isOctet_dec (a j)).not_mem rfl
  simp only [dotted, List.mem_append, List.mem_cons, hdec, or_false, false_or]
  decide

theorem length_dotted_le (a : AnscIpv4Address) :
  (dotted a).length ≤ 31
  := by
  have hdec : ∀ j, (dec (a j).toNat).length ≤ 4 := by
    intro j
    have hlt := (a j).isLt
    apply length_dec_le (k := 3) (by decide)
    omega
  have h0 := hdec 0
  have h1 := hdec 1
  have h2 := hdec 2
  have h3 := hdec 3
  simp only [dotted, List.length_append, List.length_cons]
  omega

theorem printf_addressArgs (a : AnscIpv4Address) :
  printf "%u.%u.%u.%u".toList (addressArgs a) = dotted a
  := by
  simp [printf, addressArgs, dotted]

theorem printf_addressArgs_pair (a a' : AnscIpv4Address) :
  printf "%u.%u.%u.%u,%u.%u.%u.%u".toList (addressArgs a ++ addressArgs a') =
    dotted a ++ ',' :: dotted a'
  := by
  simp [printf, addressArgs, dotted]

theorem dmlSetIp4Param_dotted (a : AnscIpv4Address) :
  dmlSetIp4Param (dotted a) (fun _ => 0) = (a, .success) ∧
    dmlSetIp4Param (strncpy 31 (dotted a)) (fun _ => 0) = (a, .success)
  := by
  have h := dmlSetIp4Param_dottedQuad (dottedQuad_dotted a) (fun _ => 0)
  use h
  rw [strncpy, List.take_of_length_le (length_dotted_le a)]
  apply h

/-- The name servers that are stored are given back. -/
theorem dnsServersOf_nameserver {v : CStr} (h : IsNameserver v) :
  ∃ dns, dnsServersOf (strtok ',' v) = some dns ∧
    ∀ l g e, ipcpStringParam "DNSServers".toList (addressed l g dns e) = some v
  := by
  have hnames : "DNSServers".toList ≠ "LocalIPAddress".toList ∧
      "DNSServers".toList ≠ "RemoteIPAddress".toList := by
    decide
  rcases h with ⟨d, rfl⟩ | ⟨d, d', ⟨j, hj⟩, rfl⟩
  · use fun i => if i = 0 then d else fun _ => 0
    constructor
    · rw [strtok_eq_singleton (dotted_ne_nil d) (comma_not_mem_dotted d), dnsServersOf,
        (dmlSetIp4Param_dotted d).2]
    · intro l g e
      rw [ipcpStringParam, if_neg hnames.1, if_neg hnames.2, if_pos rfl, if_pos,
        ← printf_addressArgs]
      · rfl
      · intro j
        rfl
  · use fun i => if i = 0 then d else d'
    constructor
    · rw [strtok_cons (dotted_ne_nil d) (comma_not_mem_dotted d),
        strtok_eq_singleton (dotted_ne_nil d') (comma_not_mem_dotted d'), dnsServersOf,
        (dmlSetIp4Param_dotted d).2, (dmlSetIp4Param_dotted d').2]
    · intro l g e
      rw [ipcpStringParam, if_neg hnames.1, if_neg hnames.2, if_pos rfl, if_neg,
        ← printf_addressArgs_pair]
      · rfl
      · intro hzero
        apply hj (hzero j)

/-! ### Handling the message -/

section

variable {t : Thread} {b : Build} {ω : (machine t).Oracle} {i k : ℕ} {s : Sys} {α : Type}

theorem exec_store_bind {f : DmlPppIfFull → DmlPppIfFull} {p : Unit → Code α}
    (hi : i < pppTableLength) :
  (machine t).exec ω (store i f >>= p) k s =
    (machine t).exec ω (p ()) (k + 1) (s.setEntry i (f (s.table i)))
  := by
  rw [Machine.exec_bind, exec_store hi]
  rfl

/-- The queue can be opened, what is sent is taken, and the number of interfaces can be read. -/
structure Delivers (ω : (machine t).Oracle) : Prop where
  count : ∀ k, ω k (.psmGet psmPppManagerPppIfCount) = true
  mqOpen : ∀ k, ω k .mqOpen = true
  mqSend : ∀ k ev, ω k (.mqSend ev) = true

theorem exec_sendDataToQ_of_sent {ev : PppEventQData} (hopen : ω k .mqOpen = true)
    (hsend : ω (k + 1) (.mqSend ev) = true) (hroom : s.queue.length < maxQueueLength) :
  (machine t).exec ω (sendDataToQ ev) k s = .ok (.success, s.post ev, k + 2)
  := by
  have hsend : (machine t).exec ω (mqSend ev) (k + 1) s = .ok (true, s.post ev, k + 2) := by
    apply Machine.exec_perform
    simp only [step, hsend, if_true, if_pos hroom]
  rw [sendDataToQ, Machine.exec_bind, exec_mqOpen, hopen]
  dsimp only [Except.bind]
  rw [if_pos rfl, Machine.exec_bind, hsend]
  rfl

theorem exec_sendDataToQ (hω : Delivers ω) (hroom : s.queue.length < maxQueueLength)
    (ev : PppEventQData) :
  (machine t).exec ω (sendDataToQ ev) k s = .ok (.success, s.post ev, k + 2)
  := exec_sendDataToQ_of_sent (hω.mqOpen k) (hω.mqSend (k + 1) ev) hroom

/-- Parameters that can be read are stored, and the WAN manager is told. -/
theorem exec_storeIpcpParams (hω : Delivers ω) (hi : i < pppTableLength) {o : List Thread}
    (hlock : s.locks i = t :: o) (hroom : s.queue.length < maxQueueLength) {msg : PppIpcpMsg}
    {l g : AnscIpv4Address} {dns : Fin 2 → AnscIpv4Address}
    (hl : dmlSetIp4Param msg.ip (fun _ => 0) = (l, .success))
    (hg : dmlSetIp4Param msg.gateway (fun _ => 0) = (g, .success))
    (hdns : dnsServersOf (strtok ',' msg.nameserver) = some dns) :
  (machine t).exec ω (storeIpcpParams b i msg) k s =
    .ok (.success, ((s.setEntry i (addressed l g dns (s.table i))).post
      (ipcpEvent b (toInt (s.table i).cfg.instanceNumber) up)).setLock i o, k + 10)
  := by
  have hroom' : (s.setEntry i (addressed l g dns (s.table i))).queue.length < maxQueueLength := hroom
  have hstore : ∀ {l g d} {f : DmlPppIfFull → DmlPppIfFull} {p : Unit → Code AnscStatus} {k},
      (machine t).exec ω (store i f >>= p) k (s.setEntry i (addressed l g d (s.table i))) =
        (machine t).exec ω (p ()) (k + 1) (s.setEntry i (f (addressed l g d (s.table i)))) := by
    intro l g d f p k
    rw [exec_store_bind hi, Sys.setEntry_setEntry, Sys.setEntry_table, Function.update_self]
  rw [storeIpcpParams, exec_store_bind hi, setLocalIPAddress_eq, hstore,
    setRemoteIPAddress_addressed, hstore, setDNSServers_addressed, hl]
  dsimp only
  rw [hstore, setLocalIPAddress_addressed, hg]
  dsimp only
  rw [hstore, setRemoteIPAddress_addressed, hdns]
  dsimp only
  rw [hstore, setDNSServers_addressed, acceptIpcpParams, Machine.exec_bind, exec_load hi]
  dsimp only [Except.bind]
  rw [Sys.setEntry_table, Function.update_self, Machine.exec_bind, exec_sendDataToQ hω hroom']
  dsimp only [Except.bind]
  have hlock' : ((s.setEntry i (addressed l g dns (s.table i))).post (ipcpEvent b
      (toInt (s.table i).cfg.instanceNumber) up)).locks i = t :: o := hlock
  rw [Machine.exec_bind, getIfaceDataRelease]
  apply (congrArg (Except.bind · _) (exec_unlock hlock')).trans
  rfl

/-- `PppMgr_ProcessIpcpParams` on a known instance with parameters that can be read. -/
theorem exec_processIpcpParams (hω : Delivers ω) (hi : i < pppTableLength)
    (hcount : i < s.pppIfCount.toNat) (hfree : s.locks i = [])
    (hroom : s.queue.length < maxQueueLength) {msg : IpcPppEventMsg}
    (hstate : msg.pppState = .ipcpCompleted) {ip gateway : AnscIpv4Address}
    (hip : msg.pppIpcpMsg.ip = dotted ip) (hgateway : msg.pppIpcpMsg.gateway = dotted gateway)
    (hne : msg.pppIpcpMsg.nameserver ≠ []) {dns : Fin 2 → AnscIpv4Address}
    (hdns : dnsServersOf (strtok ',' msg.pppIpcpMsg.nameserver) = some dns) :
  (machine t).exec ω (processIpcpParams b (i + 1 : ℕ) msg) k s =
    .ok (.success, (s.setEntry i (addressed ip gateway dns (s.table i))).post
      (ipcpEvent b (toInt (s.table i).cfg.instanceNumber) up), k + 12)
  := by
  have hmissing : ¬ (msg.pppIpcpMsg.ip = [] ∨ msg.pppIpcpMsg.gateway = [] ∨
      msg.pppIpcpMsg.nameserver = []) := by
    rw [hip, hgateway]
    rintro (h | h | h)
    · apply dotted_ne_nil ip h
    · apply dotted_ne_nil gateway h
    · apply hne h
  rw [processIpcpParams, if_neg (by omega), if_neg (not_not.mpr hstate), if_neg hmissing,
    Int.toNat_natCast, Machine.exec_bind, exec_getIfaceDataLocked (hω.count k) hi hcount]
  · dsimp only [Except.bind]
    have hlock : (s.setLock i (t :: s.locks i)).locks i = [t] := by
      rw [Sys.setLock_locks, Function.update_self, hfree]
    have hl : dmlSetIp4Param msg.pppIpcpMsg.ip (fun _ => 0) = (ip, .success) := by
      rw [hip, (dmlSetIp4Param_dotted ip).1]
    have hg : dmlSetIp4Param msg.pppIpcpMsg.gateway (fun _ => 0) = (gateway, .success) := by
      rw [hgateway, (dmlSetIp4Param_dotted gateway).1]
    rw [exec_storeIpcpParams hω hi hlock hroom hl hg hdns, Sys.setEntry_setLock, Sys.post_setLock,
      Sys.setLock_setLock, Sys.setLock_self _ _ (by apply hfree), Sys.setLock_table]
  · apply owned_of_free hfree

/-! ### Reading the addresses -/

/-- `PPPDmlGetIfInfo` ends. -/
theorem exec_pppDmlGetIfInfo (hi : i < pppTableLength) :
  ∃ id k', (machine t).exec ω (pppDmlGetIfInfo i) k s =
    .ok ((), s.setEntry i ((s.table i).filled id), k')
  := by
  have hasks : ∀ (s' : Sys) (o : Op) (x : o.Ans), o = .load i ∨ o.IsHostRead →
      ∃ r, step t o x s' = .ok (r, s') := by
    intro s' o x ho
    rcases ho with rfl | ho
    · exact ⟨s'.table i, if_neg (Nat.not_le.mpr hi)⟩
    · cases o <;> first | exact ⟨_, rfl⟩ | exact ho.elim
  obtain ⟨id, k', hfind⟩ := Machine.exec_of_only (M := machine t) (ω := ω)
    (hasks (s.setEntry i (s.table i).fillIfInfo))
    (only_findSessionId (fun _ ho => .inr ho) (.inl rfl)) (k + 1)
  use id
  rw [pppDmlGetIfInfo, exec_store_bind hi, getSessionId, Machine.exec_bind, hfind]
  dsimp only [Except.bind]
  cases id with
  | none => exact ⟨_, rfl⟩
  | some id =>
      dsimp only
      rw [exec_store hi, Sys.setEntry_setEntry, Sys.setEntry_table, Function.update_self]
      exact ⟨_, rfl⟩

/-- The fields that `PPPDmlGetIfInfo` writes are not among the parameters of IPCP. -/
theorem ipcpStringParam_filled (paramName : CStr) (id : Option ULong) (e : DmlPppIfFull) :
  ipcpStringParam paramName (e.filled id) = ipcpStringParam paramName e
  := by
  cases id <;> rfl

/-- What a program gives with the mutex of the entry held is what it gives between taking the mutex and
giving it back. -/
theorem exec_locked (hi : i < pppTableLength) (hfree : s.locks i = []) {p : Code α}
    {v : Except Stop α} (hread : ∃ s' k', s'.locks = (s.setLock i [t]).locks ∧
      (machine t).exec ω p (k + 1) (s.setLock i [t]) = v.map fun a => (a, s', k')) :
  ∃ s' k', (machine t).exec ω (bracket i p) k s = v.map fun a => (a, s', k')
  := by
  obtain ⟨s', k', hlocks, hread⟩ := hread
  have hown : ∀ t' ∈ s.locks i, t' = t := owned_of_free hfree
  use s'.setLock i [], k' + 1
  rw [bracket, Machine.exec_bind, exec_lock hi hown, hfree]
  dsimp only [Except.bind]
  rw [Machine.exec_bind, hread]
  cases v with
  | error e => rfl
  | ok a =>
      dsimp only [Except.map, Except.bind]
      rw [Machine.exec_bind, exec_unlock]
      · rfl
      · rw [hlocks, Sys.setLock_locks, Function.update_self]

/-- A getter that gives a value of the entry. -/
theorem exec_locked_load (hi : i < pppTableLength) (hfree : s.locks i = []) (f : DmlPppIfFull → α) :
  ∃ s' k', (machine t).exec ω
    (lock i >>= fun _ => load i >>= fun e => unlock i >>= fun _ => pure (f e)) k s =
      .ok (f (s.table i), s', k')
  := by
  apply exec_locked (p := load i >>= fun e => pure (f e)) (v := .ok (f (s.table i))) hi hfree
  use s.setLock i [t], k + 2, rfl
  rw [Machine.exec_bind, exec_load hi]
  rfl

/-- A getter that gives a value of the entry after `PPPDmlGetIfInfo`, which the id that is found does
not change. -/
theorem exec_locked_fill (hi : i < pppTableLength) (hfree : s.locks i = []) {f : DmlPppIfFull → α}
    {v : α} (hv : ∀ id, f ((s.table i).filled id) = v) :
  ∃ s' k', (machine t).exec ω (bracket i (do
    pppDmlGetIfInfo i
    let pEntry ← load i
    pure (f pEntry))) k s = .ok (v, s', k')
  := by
  apply exec_locked (v := .ok v) hi hfree
  obtain ⟨id, k', hfill⟩ :=
    exec_pppDmlGetIfInfo (t := t) (ω := ω) (k := k + 1) (s := s.setLock i [t]) hi
  use (s.setLock i [t]).setEntry i ((s.table i).filled id), k' + 1, rfl
  rw [Machine.exec_bind, hfill]
  dsimp only [Except.bind]
  rw [Machine.exec_bind, exec_load hi]
  dsimp only [Except.bind]
  rw [Sys.setEntry_table, Function.update_self, Sys.setLock_table, hv]
  rfl

theorem exec_ipcpGetParamStringValue (hi : i < pppTableLength) (hfree : s.locks i = [])
    (paramName : CStr) :
  ∃ s' k', (machine t).exec ω (ipcpGetParamStringValue i paramName) k s =
    .ok (ipcpStringParam paramName (s.table i), s', k')
  := by
  rw [ipcpGetParamStringValue_eq]
  apply exec_locked_fill hi hfree
  intro id
  apply ipcpStringParam_filled

end

/-! ### Runs -/

/-- The table is numbered and no mutex is held. -/
structure AtRest (s : Sys) : Prop extends Numbered s where
  locks : ∀ i, s.locks i = []

theorem Initial.atRest {s : Sys} (hs : Initial s) :
  AtRest s
  := ⟨hs.toNumbered, hs.locks⟩

theorem AtRest.next {b : Build} {l : Access} {s s' : Sys} (hs : AtRest s)
    (h : l.next b s = some s') :
  AtRest s'
  where
    toNumbered := (l.ends (A := Unrestricted) (fun _ _ _ => trivial) h).numbered hs.toNumbered
    locks := by
      rw [Access.next] at h
      cases hexec : (machine l.point.thread).exec l.answers (l.point.code b) 0 s with
      | error e =>
          rw [hexec] at h
          cases h
      | ok r =>
          obtain ⟨u, s₁, k⟩ := r
          rw [hexec] at h
          obtain rfl := Option.some.inj h
          intro i
          apply List.eq_nil_iff_forall_not_mem.mpr
          intro t ht
          rw [← owns_pos, owns_of_exec hexec, owns_pos, hs.locks] at ht
          cases ht

/-- Between calls the table is numbered and no mutex is held. -/
theorem atRest_of_run {b : Build} {ls : List Access} {s₀ s : Sys} (hs₀ : Initial s₀)
    (hrun : run (Access.next b) ls s₀ = some s) :
  AtRest s
  := by
  apply run_invariant (G := fun _ _ => True) _ hs₀.atRest (throughout_of_forall fun _ _ _ => trivial)
    hrun
  intro l s₁ s₂ h _ hnext
  apply h.next hnext

/-- `IPCP_GetParamStringValue` gives the text, whatever the outside answers. -/
def Shows (s : Sys) (i : ℕ) (paramName value : CStr) : Prop :=
  ∀ ω k, ∃ s' k', (machine .dataModel).exec ω (ipcpGetParamStringValue i paramName) k s =
    .ok (some value, s', k')

/-- In every state the manager reaches, the addresses a client reports for a known instance are
stored, the WAN manager is told, and the data model gives them as they were reported. -/
theorem ipcp_round_trip {b : Build} {ls : List Access} {s₀ s : Sys} (hs₀ : Initial s₀)
    (hrun : run (Access.next b) ls s₀ = some s) {i : ℕ} (hi : i < s.pppIfCount.toNat)
    {msg : IpcPppEventMsg} (hstate : msg.pppState = .ipcpCompleted)
    (hip : ∃ a, msg.pppIpcpMsg.ip = dotted a) (hgateway : ∃ a, msg.pppIpcpMsg.gateway = dotted a)
    (hnameserver : IsNameserver msg.pppIpcpMsg.nameserver) {ω : (machine .event).Oracle}
    (hω : Delivers ω) (hroom : s.queue.length < maxQueueLength) (k : ℕ) :
  ∃ s' k', (machine .event).exec ω (processIpcpParams b (i + 1 : ℕ) msg) k s =
      .ok (.success, s', k') ∧
    s'.queue = s.queue ++ [ipcpEvent b (i + 1 : ℕ) up] ∧
    Shows s' i "LocalIPAddress".toList msg.pppIpcpMsg.ip ∧
    Shows s' i "RemoteIPAddress".toList msg.pppIpcpMsg.gateway ∧
    Shows s' i "DNSServers".toList msg.pppIpcpMsg.nameserver
  := by
  have hs := atRest_of_run hs₀ hrun
  have hlt := Nat.lt_of_lt_of_le hi hs.count_le
  have hinstance := hs.toInt_instanceNumber hi
  obtain ⟨ip, hip⟩ := hip
  obtain ⟨gateway, hgateway⟩ := hgateway
  obtain ⟨dns, hdns, hshown⟩ := dnsServersOf_nameserver hnameserver
  have hexec := exec_processIpcpParams (b := b) (k := k) hω hlt hi (hs.locks i) hroom hstate hip
    hgateway hnameserver.ne_nil hdns
  rw [hinstance] at hexec
  have hshows : ∀ name v, ipcpStringParam name (addressed ip gateway dns (s.table i)) = some v →
      Shows ((s.setEntry i (addressed ip gateway dns (s.table i))).post (ipcpEvent b (i + 1 : ℕ) up))
        i name v := by
    intro name v hv ω' k'
    rw [← hv]
    have hread := exec_ipcpGetParamStringValue (t := .dataModel) (ω := ω') (k := k')
      (s := (s.setEntry i (addressed ip gateway dns (s.table i))).post (ipcpEvent b (i + 1 : ℕ) up))
      hlt (hs.locks i) name
    rw [Sys.post_table, Sys.setEntry_table, Function.update_self] at hread
    apply hread
  refine ⟨_, _, hexec, rfl, hshows _ _ ?_, hshows _ _ ?_, hshows _ _ (hshown _ _ _)⟩
  · rw [ipcpStringParam, if_pos rfl, hip, ← printf_addressArgs]
    rfl
  · rw [ipcpStringParam, if_neg (by decide), if_pos rfl, hgateway, ← printf_addressArgs]
    rfl

/-! ### A message with two name servers -/

theorem ipcp_round_trip_address :
  ∃ s' k', (machine .event).exec (workingOutside 1 none []).answers
      (processIpcpParams (plainBuild false) (0 + 1 : ℕ) addressMessage) 0 (freshState 1) =
        .ok (.success, s', k') ∧
    s'.queue = (freshState 1).queue ++ [ipcpEvent (plainBuild false) (0 + 1 : ℕ) up] ∧
    Shows s' 0 "LocalIPAddress".toList addressMessage.pppIpcpMsg.ip ∧
    Shows s' 0 "RemoteIPAddress".toList addressMessage.pppIpcpMsg.gateway ∧
    Shows s' 0 "DNSServers".toList addressMessage.pppIpcpMsg.nameserver
  := by
  have hcount : (freshState 1).pppIfCount.toNat = 1 := by
    decide +kernel
  have hrun : run (Access.next (plainBuild false)) [] (freshState 1) = some (freshState 1) := rfl
  have hinitial : Initial (freshState 1) := by
    apply initial_freshState
    rw [hcount]
    decide
  apply ipcp_round_trip hinitial hrun
  · rw [hcount]
    apply Nat.zero_lt_one
  · rfl
  · use fun j => if j.val = 0 then 10 else if j.val = 3 then 2 else 0
    decide
  · use fun j => if j.val = 0 then 10 else if j.val = 3 then 1 else 0
    decide
  · right
    refine ⟨fun _ => 8, fun _ => 9, ⟨0, by decide⟩, ?_⟩
    decide
  · constructor
    · intro _
      rfl
    · intro _
      rfl
    · intro _ _
      rfl
  · decide

end PppManager
