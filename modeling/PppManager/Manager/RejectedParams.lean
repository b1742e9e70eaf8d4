import PppManager.Manager.LostEvents

/-!
# Rejected IPCP parameters

`PppMgr_ProcessIpcpParams` looks at the result of reading the two addresses, and at whether the list of
name servers has an entry, but not at the results of reading the entries, nor at how many there are
(`answersIpcp_iff`).  It stores what it reads as it reads it, so that a message that is rejected leaves
its first bytes behind (`keepsOut_iff`).
-/

namespace PppManager

open Effect Effect.Program Function CText

/-- The addresses in an entry. -/
def DmlPppIfFull.addresses (e : DmlPppIfFull) : SessionAddresses :=
  ⟨e.info.localIPAddress, e.info.remoteIPAddress, e.info.dnsServers⟩

/-- The addresses of a session that are all zero. -/
def SessionAddresses.zero : SessionAddresses :=
  ⟨fun _ => 0, fun _ => 0, fun _ _ => 0⟩

namespace PppIpcpMsg

variable (msg : PppIpcpMsg)

/-- A text of the message is missing. -/
def IsMissing : Prop :=
  msg.ip = [] ∨ msg.gateway = [] ∨ msg.nameserver = []

/-- The address of the interface, the address of the gateway and the list of name servers are
accepted. -/
structure IsAccepted : Prop where
  present : ¬ msg.IsMissing
  ip : (strtok '.' msg.ip).length ≤ 4
  gateway : (strtok '.' msg.gateway).length ≤ 4
  nameserver : strtok ',' msg.nameserver ≠ []

/-- No text is missing, `PppMgr_DmlSetIp4Param` succeeds on both addresses and on each entry of the
list of name servers, and the list has one entry or two. -/
structure IsRead : Prop where
  present : ¬ msg.IsMissing
  ip : (dmlSetIp4Param msg.ip fun _ => 0).2 = .success
  gateway : (dmlSetIp4Param msg.gateway fun _ => 0).2 = .success
  nameserver : ∀ dns ∈ strtok ',' msg.nameserver, (dmlSetIp4Param dns fun _ => 0).2 = .success
  count : (strtok ',' msg.nameserver).length = 1 ∨ (strtok ',' msg.nameserver).length = 2

/-- The bytes of a message that is rejected: those of the first four parts of the address, those of
the gateway if the address has no fifth part, and no name servers. -/
def firstParts : SessionAddresses where
  localIPAddress := storeOctets (strtok '.' msg.ip) fun _ => 0
  remoteIPAddress :=
    if (strtok '.' msg.ip).length ≤ 4 then storeOctets (strtok '.' msg.gateway) fun _ => 0
    else fun _ => 0
  dnsServers := fun _ _ => 0

/-- What is stored of a message that is rejected. -/
theorem stored_fst (h : msg.stored.2 = false) :
  msg.stored.1 = msg.firstParts
  := by
  rw [stored, dmlSetIp4Param_eq, dmlSetIp4Param_eq] at h ⊢
  rw [firstParts]
  by_cases hip : (strtok '.' msg.ip).length ≤ 4
  · rw [if_pos hip] at h ⊢
    rw [if_pos hip]
    by_cases hgateway : (strtok '.' msg.gateway).length ≤ 4
    · rw [if_pos hgateway] at h ⊢
      dsimp only at h ⊢
      cases hdns : dnsServersOf (strtok ',' msg.nameserver) with
      | none => rfl
      | some dnsServers =>
          rw [hdns] at h
          cases h
    · rw [if_neg hgateway]
  · rw [if_neg hip, if_neg hip]

/-- The parameters are accepted where all that is looked at is read. -/
theorem stored_snd :
  msg.stored.2 = true ↔ (strtok '.' msg.ip).length ≤ 4 ∧ (strtok '.' msg.gateway).length ≤ 4 ∧
    strtok ',' msg.nameserver ≠ []
  := by
  rw [stored, dmlSetIp4Param_eq, dmlSetIp4Param_eq]
  by_cases hip : (strtok '.' msg.ip).length ≤ 4
  · by_cases hgateway : (strtok '.' msg.gateway).length ≤ 4
    · rw [if_pos hip, if_pos hgateway, and_iff_right hip, and_iff_right hgateway]
      rcases strtok ',' msg.nameserver with _ | ⟨dns1, _ | ⟨dns2, rest⟩⟩ <;> simp [dnsServersOf]
    · rw [if_pos hip, if_neg hgateway]
      simp [hgateway]
  · rw [if_neg hip]
    simp [hip]

theorem isAccepted_iff (hpresent : ¬ msg.IsMissing) :
  msg.IsAccepted ↔ msg.stored.2 = true
  := by
  rw [stored_snd]
  constructor
  · intro h
    exact ⟨h.ip, h.gateway, h.nameserver⟩
  · rintro ⟨hip, hgateway, hnameserver⟩
    exact ⟨hpresent, hip, hgateway, hnameserver⟩

end PppIpcpMsg

/-- A send of a run fails. -/
def SendFails {α : Type} (t : Thread) (ω : Answers) (p : Code α) (k : ℕ) (s : Sys) : Prop :=
  ∃ o x, Op.Refuses o x ∧ (machine t).Gets ω p k s o x

section

variable {t : Thread} {b : Build} {ω : Answers} {i k k' k₂ : ℕ} {s s' s₂ : Sys} {α β : Type}

/-! ### One send -/

theorem sendFails_continues {p q : Code α}
    (h : (machine t).Continues ω Op.Refuses p k s q k₂ s₂) :
  SendFails t ω p k s ↔ SendFails t ω q k₂ s₂
  := by
  apply exists_congr
  intro o
  apply exists_congr
  intro x
  apply and_congr_right
  apply h.gets

/-- A run goes on after a program that leaves the queue as it is. -/
theorem continues_leaves {p : Code α} {f : α → Code β} {a : α} (hp : Only Op.LeavesQueue p)
    (hexec : (machine t).exec ω p k s = .ok (a, s', k')) :
  (machine t).Continues ω Op.Refuses (p >>= f) k s (f a) k' s'
  := Machine.continues_bind hp (fun _ x ho => ho.not_refuses x) hexec

/-- `PppMgr_SendDataToQ` posts the event and reports it, unless a send fails. -/
theorem exec_sendDataToQ_fails {ev : PppEventQData} {q : AnscStatus}
    (hexec : (machine t).exec ω (sendDataToQ ev) k s = .ok (q, s', k')) :
  SendFails t ω (sendDataToQ ev) k s ∧ q = .failure ∧ s' = s ∨
    ¬ SendFails t ω (sendDataToQ ev) k s ∧ q = .success ∧ s' = s.post ev
  := by
  rcases exec_sendDataToQ_cases hexec with ⟨rfl, rfl⟩ | ⟨rfl, rfl⟩
  · left
    refine ⟨?_, rfl, rfl⟩
    have hwp : (contract t ((machine t).Gets ω (sendDataToQ ev) k s') True).wp (sendDataToQ ev)
        (fun q _ => q = .failure → SendFails t ω (sendDataToQ ev) k s') s' := by
      apply wp_sendDataToQ (.inr trivial)
      rintro (_ | _) hr
      · intro _
        rcases hr rfl with hopen | hsend
        · exact ⟨.mqOpen, false, rfl, hopen⟩
        · exact ⟨.mqSend ev, false, rfl, hsend⟩
      · nofun
    apply Contract.wp_exec_gets (fun o x hx _ => hx) hwp hexec rfl
  · right
    refine ⟨?_, rfl, rfl⟩
    rintro ⟨o, x, hx, hgets⟩
    apply Machine.not_gets_of_checks (fun _ _ _ _ _ => unsent_of_refuses) (checked_sendDataToQ ev)
      hexec nofun hx hgets

/-- A send ends where there is room in the queue, and keeps the mutexes. -/
theorem exec_sendDataToQ_of_room (hroom : s.queue.length < maxQueueLength) (ev : PppEventQData) :
  ∃ q s' k', (machine t).exec ω (sendDataToQ ev) k s = .ok (q, s', k') ∧ s'.locks = s.locks
  := by
  by_cases hopen : ω k .mqOpen = true
  · by_cases hsend : ω (k + 1) (.mqSend ev) = true
    · exact ⟨.success, s.post ev, k + 2, exec_sendDataToQ_of_sent hopen hsend hroom, rfl⟩
    · have hexec : (machine t).exec ω (mqSend ev) (k + 1) s = .ok (false, s, k + 2) := by
        apply Machine.exec_perform
        simp only [step, if_neg hsend]
      refine ⟨.failure, s, k + 2, ?_, rfl⟩
      rw [sendDataToQ, Machine.exec_bind, exec_mqOpen, hopen]
      dsimp only [Except.bind]
      rw [if_pos rfl, Machine.exec_bind, hexec]
      rfl
  · refine ⟨.failure, s, k + 1, ?_, rfl⟩
    rw [sendDataToQ, Machine.exec_bind, exec_mqOpen]
    dsimp only [Except.bind]
    rw [if_neg hopen]
    rfl

/-- A send and a program that leaves the queue as it is. -/
theorem exec_send_bind {ev : PppEventQData} {f : AnscStatus → Code α} {a : α}
    (hf : ∀ q, Only Op.LeavesQueue (f q))
    (hexec : (machine t).exec ω (sendDataToQ ev >>= f) k s = .ok (a, s', k')) :
  (SendFails t ω (sendDataToQ ev >>= f) k s ∧
      ∃ k₂, (machine t).exec ω (f .failure) k₂ s = .ok (a, s', k')) ∨
    ¬ SendFails t ω (sendDataToQ ev >>= f) k s ∧
      ∃ k₂, (machine t).exec ω (f .success) k₂ (s.post ev) = .ok (a, s', k')
  := by
  rw [Machine.exec_bind] at hexec
  cases hsend : (machine t).exec ω (sendDataToQ ev) k s with
  | error e =>
      rw [hsend] at hexec
      cases hexec
  | ok r =>
      obtain ⟨q, s₁, k₁⟩ := r
      rw [hsend] at hexec
      have hfails : SendFails t ω (sendDataToQ ev >>= f) k s ↔ SendFails t ω (sendDataToQ ev) k s := by
        apply exists_congr
        intro o
        apply exists_congr
        intro x
        apply and_congr_right
        intro hx
        rw [Machine.gets_bind]
        apply or_iff_left
        rintro ⟨q', s₂, k₂, -, hgets⟩
        apply not_gets_of_leaves (hf q') hx hgets
      rw [hfails]
      rcases exec_sendDataToQ_fails hsend with ⟨hfail, rfl, rfl⟩ | ⟨hsent, rfl, rfl⟩
      · exact .inl ⟨hfail, k₁, hexec⟩
      · exact .inr ⟨hsent, k₁, hexec⟩

/-! ### Storing -/

/-- A run goes on after a write to an entry. -/
theorem continues_store {f : DmlPppIfFull → DmlPppIfFull} {p : Unit → Code α}
    (hi : i < pppTableLength) :
  (machine t).Continues ω Op.Refuses (store i f >>= p) k s (p ()) (k + 1)
    (s.setEntry i (f (s.table i)))
  := continues_leaves (leaves_set f) (exec_store hi)

/-- The addresses are stored as they are read, and then the message is answered. -/
theorem continues_storeIpcpParams (hi : i < pppTableLength) (msg : PppIpcpMsg) :
  ∃ k', (machine t).Continues ω Op.Refuses (storeIpcpParams b i msg) k s
    (answerIpcp b i msg.stored.2) k' (s.setEntry i ((s.table i).setAddresses msg.stored.1))
  := by
  have hfirst : ∀ {f : DmlPppIfFull → DmlPppIfFull} {p : Unit → Code AnscStatus} {k} {s : Sys}
      {q : Code AnscStatus} {s' : Sys},
      (∃ k', (machine t).Continues ω Op.Refuses (p ()) (k + 1) (s.setEntry i (f (s.table i))) q k'
        s') →
      ∃ k', (machine t).Continues ω Op.Refuses (store i f >>= p) k s q k' s' := by
    rintro f p k s q s' ⟨k', h⟩
    exact ⟨k', (continues_store hi).trans h⟩
  have hstore : ∀ {l g d} {f : DmlPppIfFull → DmlPppIfFull} {p : Unit → Code AnscStatus} {k}
      {q : Code AnscStatus} {s' : Sys},
      (∃ k', (machine t).Continues ω Op.Refuses (p ()) (k + 1)
        (s.setEntry i (f (addressed l g d (s.table i)))) q k' s') →
      ∃ k', (machine t).Continues ω Op.Refuses (store i f >>= p) k
        (s.setEntry i (addressed l g d (s.table i))) q k' s' := by
    intro l g d f p k q s' h
    apply hfirst
    rw [Sys.setEntry_setEntry, Sys.setEntry_table, update_self]
    apply h
  rw [storeIpcpParams]
  apply hfirst
  rw [setLocalIPAddress_eq]
  apply hstore
  rw [setRemoteIPAddress_addressed]
  apply hstore
  rw [setDNSServers_addressed, PppIpcpMsg.stored]
  rcases dmlSetIp4Param msg.ip (fun _ => 0) with ⟨ip, _ | _⟩
  · apply hstore
    rw [setLocalIPAddress_addressed]
    dsimp only
    rcases dmlSetIp4Param msg.gateway (fun _ => 0) with ⟨gateway, _ | _⟩
    · apply hstore
      rw [setRemoteIPAddress_addressed]
      dsimp only
      rcases dnsServersOf (strtok ',' msg.nameserver) with _ | dnsServers
      · exact ⟨_, .refl⟩
      · apply hstore
        rw [setDNSServers_addressed]
        exact ⟨_, .refl⟩
    · apply hstore
      rw [setRemoteIPAddress_addressed]
      exact ⟨_, .refl⟩
  · apply hstore
    rw [setLocalIPAddress_addressed]
    exact ⟨_, .refl⟩

/-- Giving the mutex back keeps the table and the queue. -/
theorem exec_release {q r : AnscStatus}
    (hexec : (machine t).exec ω (do getIfaceDataRelease i; pure q) k s = .ok (r, s', k')) :
  r = q ∧ s'.table = s.table ∧ s'.queue = s.queue
  := by
  have hwp : (contract t (fun _ _ => True) True).wp (do getIfaceDataRelease i; pure q)
      (fun r s' => r = q ∧ s'.table = s.table ∧ s'.queue = s.queue) s := by
    rw [Contract.wp_bind, getIfaceDataRelease, wp_unlock]
    intro owners _
    exact ⟨rfl, rfl, rfl⟩
  apply Contract.wp_exec_ok (C := contract t (fun _ _ => True) True) (fun _ _ _ => trivial) hwp hexec

/-- The end of a message: a status is sent, the mutex is given back, and the message is answered. -/
theorem exec_answer {n : ℤ} {f : AnscStatus → Code AnscStatus} {g : AnscStatus → AnscStatus}
    {e : ℤ → PppEventQData} {r : AnscStatus} (hi : i < pppTableLength)
    (hn : toInt (s.table i).cfg.instanceNumber = n)
    (hf : ∀ q, f q = do getIfaceDataRelease i; pure (g q))
    (hexec : (machine t).exec ω (do
      let pEntry ← load i
      let q ← sendDataToQ (e (toInt pEntry.cfg.instanceNumber))
      f q) k s = .ok (r, s', k')) :
  s'.table = s.table ∧
    (SendFails t ω (do
          let pEntry ← load i
          let q ← sendDataToQ (e (toInt pEntry.cfg.instanceNumber))
          f q) k s ∧ r = g .failure ∧ s'.queue = s.queue ∨
      ¬ SendFails t ω (do
          let pEntry ← load i
          let q ← sendDataToQ (e (toInt pEntry.cfg.instanceNumber))
          f q) k s ∧ r = g .success ∧ s'.queue = s.queue ++ [e n])
  := by
  have hload := continues_leaves (f := fun pEntry : DmlPppIfFull => do
    let q ← sendDataToQ (e (toInt pEntry.cfg.instanceNumber))
    f q) leaves_load (exec_load (t := t) (ω := ω) (k := k) (s := s) hi)
  rw [hload.exec, hn] at hexec
  rw [sendFails_continues hload, hn]
  have hleaves : ∀ q, Only Op.LeavesQueue (f q) := by
    intro q
    rw [hf]
    apply leaves_release
  rcases exec_send_bind hleaves hexec with ⟨hfails, k₂, hend⟩ | ⟨hsent, k₂, hend⟩
  · rw [hf] at hend
    obtain ⟨hr, htable, hqueue⟩ := exec_release hend
    exact ⟨htable, .inl ⟨hfails, hr, hqueue⟩⟩
  · rw [hf] at hend
    obtain ⟨hr, htable, hqueue⟩ := exec_release hend
    exact ⟨htable, .inr ⟨hsent, hr, hqueue⟩⟩

/-- The message is answered with the status of IPCP, which is up exactly if the parameters are
accepted. -/
theorem exec_answerIpcp {accepted : Bool} {r : AnscStatus} (hi : i < pppTableLength) {n : ℤ}
    (hn : toInt (s.table i).cfg.instanceNumber = n)
    (hexec : (machine t).exec ω (answerIpcp b i accepted) k s = .ok (r, s', k')) :
  s'.table = s.table ∧
    (SendFails t ω (answerIpcp b i accepted) k s ∧ r = .failure ∧ s'.queue = s.queue ∨
      ¬ SendFails t ω (answerIpcp b i accepted) k s ∧
        r = (if accepted then .success else .failure) ∧
        s'.queue = s.queue ++ [ipcpEvent b n (if accepted then up else down)])
  := by
  cases accepted with
  | true =>
      apply exec_answer (g := id) (e := fun n => ipcpEvent b n up) hi hn _ hexec
      rintro (_ | _) <;> rfl
  | false =>
      apply exec_answer (g := fun _ => .failure) (e := fun n => ipcpEvent b n down) hi hn _ hexec
      intro q
      rfl

/-! ### Handling the message -/

/-- The ways `PppMgr_ProcessIpcpParams` answers a message about an instance, where `fails` says that
a send fails. -/
inductive IpcpAnswer (b : Build) (n : ℤ) (msg : PppIpcpMsg) (fails : Prop) (s s' : Sys) :
    AnscStatus → Prop
  | unsent (hfails : fails) (hqueue : s'.queue = s.queue) : IpcpAnswer b n msg fails s s' .failure
  | accepted (hsent : ¬ fails) (hmsg : msg.IsAccepted)
      (hqueue : s'.queue = s.queue ++ [ipcpEvent b n up]) : IpcpAnswer b n msg fails s s' .success
  | rejected (hsent : ¬ fails) (hmsg : ¬ msg.IsAccepted)
      (hqueue : s'.queue = s.queue ++ [ipcpEvent b n down]) : IpcpAnswer b n msg fails s s' .failure

/-- What a message leaves in the entry `i`. -/
def PppIpcpMsg.leaves (msg : PppIpcpMsg) (i : ℕ) (s s' : Sys) : Prop :=
  (msg.IsMissing ∧ s'.table = s.table) ∨
    (¬ msg.IsMissing ∧
      s'.table = update s.table i ((s.table i).setAddresses msg.stored.1))

/-- A message with a missing text is answered with Down, and nothing else is done. -/
theorem exec_setIPCPStatusDown {n : ℤ} {r : AnscStatus}
    (hexec : (machine t).exec ω (do
      let _ ← setIPCPStatusDown b n
      pure AnscStatus.failure) k s = .ok (r, s', k')) :
  s'.table = s.table ∧ r = .failure ∧
    (SendFails t ω (do
          let _ ← setIPCPStatusDown b n
          pure AnscStatus.failure) k s ∧ s'.queue = s.queue ∨
      ¬ SendFails t ω (do
          let _ ← setIPCPStatusDown b n
          pure AnscStatus.failure) k s ∧ s'.queue = s.queue ++ [ipcpEvent b n down])
  := by
  rcases exec_send_bind (fun _ => only_pure _) hexec with ⟨hfails, k₂, hend⟩ | ⟨hsent, k₂, hend⟩
  · cases hend
    exact ⟨rfl, rfl, .inl ⟨hfails, rfl⟩⟩
  · cases hend
    exact ⟨rfl, rfl, .inr ⟨hsent, rfl⟩⟩

theorem processIpcpParams_missing {msg : IpcPppEventMsg} (hstate : msg.pppState = .ipcpCompleted)
    (hmissing : msg.pppIpcpMsg.IsMissing) :
  processIpcpParams b (i + 1 : ℕ) msg = (do
    let _ ← setIPCPStatusDown b (i + 1 : ℕ)
    pure .failure)
  := by
  have hpos : ¬ ((i + 1 : ℕ) : ℤ) ≤ 0 := by
    omega
  rw [processIpcpParams, if_neg hpos, if_neg (not_not.mpr hstate)]
  apply if_pos hmissing

theorem processIpcpParams_present {msg : IpcPppEventMsg} (hstate : msg.pppState = .ipcpCompleted)
    (hpresent : ¬ msg.pppIpcpMsg.IsMissing) :
  processIpcpParams b (i + 1 : ℕ) msg = (do
    match ← getIfaceDataLocked (i + 1) with
    | none => pure .failure
    | some i => storeIpcpParams b i msg.pppIpcpMsg)
  := by
  have hpos : ¬ ((i + 1 : ℕ) : ℤ) ≤ 0 := by
    omega
  rw [processIpcpParams, if_neg hpos, if_neg (not_not.mpr hstate)]
  apply if_neg hpresent

/-- Where no text of a message is missing, the addresses are stored, with the mutex held, and then the
message is answered. -/
theorem continues_processIpcpParams {msg : IpcPppEventMsg} (hs : AtRest s)
    (hi : i < s.pppIfCount.toNat) (hstate : msg.pppState = .ipcpCompleted)
    (hpresent : ¬ msg.pppIpcpMsg.IsMissing)
    (hknown : ω k (.psmGet psmPppManagerPppIfCount) = true) :
  ∃ k', (machine t).Continues ω Op.Refuses (processIpcpParams b (i + 1 : ℕ) msg) k s
    (answerIpcp b i msg.pppIpcpMsg.stored.2) k' ((s.setLock i [t]).setEntry i
      ((s.table i).setAddresses msg.pppIpcpMsg.stored.1))
  := by
  have hlt : i < pppTableLength := Nat.lt_of_lt_of_le hi hs.count_le
  have hlookup := continues_leaves (f := fun o : Option ℕ => match o with
    | none => pure AnscStatus.failure
    | some i => storeIpcpParams b i msg.pppIpcpMsg) leaves_getIfaceDataLocked
    (exec_getIfaceDataLocked (t := t) hknown hlt hi (owned_of_free (hs.locks i)))
  rw [hs.locks] at hlookup
  obtain ⟨k₂, hstore⟩ := continues_storeIpcpParams (t := t) (b := b) (ω := ω) (k := k + 2)
    (s := s.setLock i [t]) hlt msg.pppIpcpMsg
  rw [Sys.setLock_table] at hstore
  rw [processIpcpParams_present hstate hpresent]
  exact ⟨k₂, hlookup.trans hstore⟩

/-- `PppMgr_ProcessIpcpParams` on a message of a known instance that reports the parameters. -/
theorem exec_processIpcpParams_answer {msg : IpcPppEventMsg} {r : AnscStatus} (hs : AtRest s)
    (hi : i < s.pppIfCount.toNat) (hstate : msg.pppState = .ipcpCompleted)
    (hknown : ¬ msg.pppIpcpMsg.IsMissing → ω k (.psmGet psmPppManagerPppIfCount) = true)
    (hexec : (machine t).exec ω (processIpcpParams b (i + 1 : ℕ) msg) k s = .ok (r, s', k')) :
  IpcpAnswer b (i + 1 : ℕ) msg.pppIpcpMsg
      (SendFails t ω (processIpcpParams b (i + 1 : ℕ) msg) k s) s s' r ∧
    msg.pppIpcpMsg.leaves i s s'
  := by
  by_cases hmissing : msg.pppIpcpMsg.IsMissing
  · rw [processIpcpParams_missing hstate hmissing] at hexec ⊢
    obtain ⟨htable, rfl, hanswer⟩ := exec_setIPCPStatusDown hexec
    refine ⟨?_, .inl ⟨hmissing, htable⟩⟩
    rcases hanswer with ⟨hfails, hqueue⟩ | ⟨hsent, hqueue⟩
    · exact .unsent hfails hqueue
    · exact .rejected hsent (fun h => h.present hmissing) hqueue
  · have hlt : i < pppTableLength := Nat.lt_of_lt_of_le hi hs.count_le
    obtain ⟨k₂, hall⟩ := continues_processIpcpParams (t := t) (b := b) hs hi hstate hmissing
      (hknown hmissing)
    rw [hall.exec] at hexec
    rw [sendFails_continues hall]
    have hn : toInt (((s.setLock i [t]).setEntry i
        ((s.table i).setAddresses msg.pppIpcpMsg.stored.1)).table i).cfg.instanceNumber =
        (i + 1 : ℕ) := by
      rw [Sys.setEntry_table, update_self]
      apply hs.toInt_instanceNumber hi
    obtain ⟨htable, hanswer⟩ := exec_answerIpcp hlt hn hexec
    refine ⟨?_, .inr ⟨hmissing, htable⟩⟩
    have haccepted := msg.pppIpcpMsg.isAccepted_iff hmissing
    rcases hanswer with ⟨hfails, rfl, hqueue⟩ | ⟨hsent, rfl, hqueue⟩
    · exact .unsent hfails hqueue
    · cases hstored : msg.pppIpcpMsg.stored.2 with
      | true =>
          rw [hstored] at hsent hqueue haccepted
          exact .accepted hsent (haccepted.mpr rfl) hqueue
      | false =>
          rw [hstored] at hsent hqueue haccepted
          exact .rejected hsent (fun h => nomatch haccepted.mp h) hqueue

/-- The end of a message ends where there is room in the queue. -/
theorem exec_answerIpcp_of_room {accepted : Bool} {owners : List Thread} (hi : i < pppTableLength)
    (hlock : s.locks i = t :: owners) (hroom : s.queue.length < maxQueueLength) :
  ∃ r s' k', (machine t).exec ω (answerIpcp b i accepted) k s = .ok (r, s', k')
  := by
  have hrelease : ∀ {s₁ : Sys} {k₁ : ℕ} (q : AnscStatus), s₁.locks = s.locks →
      (machine t).exec ω (do getIfaceDataRelease i; pure q) k₁ s₁ =
        .ok (q, s₁.setLock i owners, k₁ + 1) := by
    intro s₁ k₁ q h
    rw [getIfaceDataRelease, Machine.exec_bind, exec_unlock (by rw [h, hlock])]
    rfl
  cases accepted with
  | true =>
      obtain ⟨q, s₁, k₁, hsend, hlocks⟩ := exec_sendDataToQ_of_room (t := t) (ω := ω) (k := k + 1) hroom
        (ipcpEvent b (toInt (s.table i).cfg.instanceNumber) up)
      refine ⟨q, s₁.setLock i owners, k₁ + 1, ?_⟩
      rw [answerIpcp, if_pos rfl, acceptIpcpParams, Machine.exec_bind, exec_load hi]
      dsimp only [Except.bind]
      rw [Machine.exec_bind, ← ipcpEvent, hsend]
      cases q <;> apply hrelease _ hlocks
  | false =>
      obtain ⟨q, s₁, k₁, hsend, hlocks⟩ := exec_sendDataToQ_of_room (t := t) (ω := ω) (k := k + 1) hroom
        (ipcpEvent b (toInt (s.table i).cfg.instanceNumber) down)
      refine ⟨.failure, s₁.setLock i owners, k₁ + 1, ?_⟩
      rw [answerIpcp, if_neg Bool.false_ne_true, rejectIpcpParams, Machine.exec_bind, exec_load hi]
      dsimp only [Except.bind]
      rw [Machine.exec_bind, setIPCPStatusDown, ← ipcpEvent, hsend]
      apply hrelease _ hlocks

/-- `PppMgr_ProcessIpcpParams` ends on a message of a known instance, where there is room in the
queue. -/
theorem exec_processIpcpParams_of_room {msg : IpcPppEventMsg} (hs : AtRest s)
    (hi : i < s.pppIfCount.toNat) (hstate : msg.pppState = .ipcpCompleted)
    (hknown : ¬ msg.pppIpcpMsg.IsMissing → ω k (.psmGet psmPppManagerPppIfCount) = true)
    (hroom : s.queue.length < maxQueueLength) :
  ∃ r s' k', (machine t).exec ω (processIpcpParams b (i + 1 : ℕ) msg) k s = .ok (r, s', k')
  := by
  by_cases hmissing : msg.pppIpcpMsg.IsMissing
  · obtain ⟨q, s₁, k₁, hsend, -⟩ := exec_sendDataToQ_of_room (t := t) (ω := ω) (k := k) hroom
      (ipcpEvent b (i + 1 : ℕ) down)
    refine ⟨.failure, s₁, k₁, ?_⟩
    rw [processIpcpParams_missing hstate hmissing, Machine.exec_bind, setIPCPStatusDown, ← ipcpEvent,
      hsend]
    rfl
  · have hlt : i < pppTableLength := Nat.lt_of_lt_of_le hi hs.count_le
    obtain ⟨k₂, hall⟩ := continues_processIpcpParams (t := t) (b := b) hs hi hstate hmissing
      (hknown hmissing)
    rw [hall.exec]
    have hlock : ((s.setLock i [t]).setEntry i
        ((s.table i).setAddresses msg.pppIpcpMsg.stored.1)).locks i = [t] := by
      rw [Sys.setEntry_locks, Sys.setLock_locks, update_self]
    apply exec_answerIpcp_of_room hlt hlock
    apply hroom

/-! ### The two properties -/

/-- The call sends Up only if every address of the message is read and the list of name servers has one
entry or two, and otherwise it sends Down and fails. -/
def AnswersIpcp (b : Build) (i : ℕ) (msg : IpcPppEventMsg) (ω : Answers) (k : ℕ) (s : Sys) : Prop :=
  (∀ r s' k' evs,
      (machine .event).exec ω (processIpcpParams b (i + 1 : ℕ) msg) k s = .ok (r, s', k') →
      s'.queue = s.queue ++ evs → ipcpEvent b (i + 1 : ℕ) up ∈ evs → msg.pppIpcpMsg.IsRead) ∧
    (¬ msg.pppIpcpMsg.IsRead → ∃ s' k',
      (machine .event).exec ω (processIpcpParams b (i + 1 : ℕ) msg) k s = .ok (.failure, s', k') ∧
        s'.queue = s.queue ++ [ipcpEvent b (i + 1 : ℕ) down])

/-- The addresses are those before the message, or all zero. -/
def KeepsOut (i : ℕ) (s s' : Sys) : Prop :=
  (s'.table i).addresses = (s.table i).addresses ∨ (s'.table i).addresses = .zero

theorem ipcpEvent_up_ne_down {n : ℤ} :
  ipcpEvent b n up ≠ ipcpEvent b n down
  := by
  intro h
  have hval : strncpy 63 up = strncpy 63 down := congrArg PppEventQData.val h
  revert hval
  decide

end

section

variable {b : Build} {ls : List Access} {s₀ s s' : Sys} {i k k' : ℕ} {msg : IpcPppEventMsg}
  {ω : Answers} {r : AnscStatus}

/-- In every state the manager reaches, a message of a known instance is answered as its texts demand
exactly if every part is read, or the message is rejected and Down can be sent, for which there must be
room in the queue. -/
theorem answersIpcp_iff (hs₀ : Initial s₀) (hrun : run (Access.next b) ls s₀ = some s)
    (hi : i < s.pppIfCount.toNat) (hstate : msg.pppState = .ipcpCompleted)
    (hknown : ¬ msg.pppIpcpMsg.IsMissing → ω k (.psmGet psmPppManagerPppIfCount) = true) :
  AnswersIpcp b i msg ω k s ↔ msg.pppIpcpMsg.IsRead ∨
    ¬ msg.pppIpcpMsg.IsAccepted ∧
      ¬ SendFails .event ω (processIpcpParams b (i + 1 : ℕ) msg) k s ∧
      s.queue.length < maxQueueLength
  := by
  have hs := atRest_of_run hs₀ hrun
  by_cases hread : msg.pppIpcpMsg.IsRead
  · apply iff_of_true _ (.inl hread)
    exact ⟨fun _ _ _ _ _ _ _ => hread, fun h => absurd hread h⟩
  · rw [or_iff_right hread]
    constructor
    · rintro ⟨-, hdown⟩
      obtain ⟨s', k', hexec, hend⟩ := hdown hread
      have hlength := queue_length_exec hexec
      rw [hend, List.length_append, List.length_singleton] at hlength
      have hroom : s.queue.length < maxQueueLength := by
        omega
      generalize hr : AnscStatus.failure = r at hexec
      cases (exec_processIpcpParams_answer hs hi hstate hknown hexec).1 with
      | unsent hfails hqueue =>
          rw [hqueue, List.self_eq_append_right] at hend
          cases hend
      | accepted => cases hr
      | rejected hsent hmsg hqueue => exact ⟨hmsg, hsent, hroom⟩
    · rintro ⟨hmsg, hsent, hroom⟩
      obtain ⟨r, s', k', hexec⟩ := exec_processIpcpParams_of_room (t := .event) (b := b) hs hi hstate
        hknown hroom
      cases (exec_processIpcpParams_answer hs hi hstate hknown hexec).1 with
      | unsent hfails hqueue => apply absurd hfails hsent
      | accepted _ haccepted => apply absurd haccepted hmsg
      | rejected _ _ hqueue =>
          use ?_, fun _ => ⟨s', k', hexec, hqueue⟩
          intro r₂ s₂ k₂ evs hexec₂ hevs hup
          cases hexec.symm.trans hexec₂
          rw [hqueue, List.append_right_inj] at hevs
          rw [← hevs, List.mem_singleton] at hup
          apply absurd hup ipcpEvent_up_ne_down

/-- The message of a client with an address of five parts. -/
def fivePartsMessage : IpcPppEventMsg :=
  { addressMessage with
    pppIpcpMsg := { addressMessage.pppIpcpMsg with ip := "1.2.3.4.5".toList } }

theorem fivePartsMessage_rejected :
  ¬ fivePartsMessage.pppIpcpMsg.IsAccepted
  := by
  intro h
  have hip := h.ip
  revert hip
  decide

/-- The message in an initial state, where everything works. -/
theorem answersIpcp_iff_fiveParts :
  AnswersIpcp (plainBuild false) 0 fivePartsMessage (workingOutside 1 none []).answers 0 (freshState 1)
  := by
  have hrun : run (Access.next (plainBuild false)) [] (freshState 1) = some (freshState 1) := rfl
  apply (answersIpcp_iff (initial_freshState (by decide +kernel)) hrun (by decide +kernel) rfl
    (fun _ => rfl)).mpr
  right
  refine ⟨fivePartsMessage_rejected, ?_, by decide⟩
  rintro ⟨o, x, hx, hgets⟩
  obtain ⟨k', -, rfl⟩ := hgets.exists
  cases o with
  | mqOpen | mqSend ev => cases hx
  | _ => apply hx.elim

/-- The message of a client with three name servers. -/
def threeServersMessage : IpcPppEventMsg :=
  { addressMessage with
    pppIpcpMsg :=
      { addressMessage.pppIpcpMsg with nameserver := "8.8.8.8,9.9.9.9,1.1.1.1".toList } }

/-- A third name server is not looked at, and Up is sent. -/
theorem third_nameserver_accepted :
  ¬ AnswersIpcp (plainBuild false) 0 threeServersMessage (workingOutside 1 none []).answers 0
    (freshState 1)
  := by
  have hends : ((machine .event).exec (workingOutside 1 none []).answers
      (processIpcpParams (plainBuild false) (0 + 1 : ℕ) threeServersMessage) 0
      (freshState 1)).toOption.map (fun r => (r.1, r.2.1.queue)) =
        some (.success, [ipcpEvent (plainBuild false) (0 + 1 : ℕ) up]) := by
    decide +kernel
  obtain ⟨⟨r, s', k'⟩, hexec, hend⟩ := Option.map_eq_some_iff.mp hends
  obtain ⟨hr, hqueue⟩ := Prod.mk.inj hend
  intro h
  have hcount := (h.1 r s' k' _ (eq_ok_of_toOption hexec) hqueue (List.mem_singleton_self _)).count
  revert hcount
  decide

/-- In every state the manager reaches, a message of a known instance that is rejected leaves nothing
behind exactly if a text is missing, or the bytes of its first parts are all zero, or are those that
were stored before. -/
theorem keepsOut_iff (hs₀ : Initial s₀) (hrun : run (Access.next b) ls s₀ = some s)
    (hi : i < s.pppIfCount.toNat) (hstate : msg.pppState = .ipcpCompleted)
    (hknown : ¬ msg.pppIpcpMsg.IsMissing → ω k (.psmGet psmPppManagerPppIfCount) = true)
    (hrejected : ¬ msg.pppIpcpMsg.IsAccepted)
    (hexec : (machine .event).exec ω (processIpcpParams b (i + 1 : ℕ) msg) k s = .ok (r, s', k')) :
  r = .failure ∧
    (KeepsOut i s s' ↔ msg.pppIpcpMsg.IsMissing ∨ msg.pppIpcpMsg.firstParts = .zero ∨
      msg.pppIpcpMsg.firstParts = (s.table i).addresses)
  := by
  obtain ⟨hanswer, hleaves⟩ := exec_processIpcpParams_answer (atRest_of_run hs₀ hrun) hi hstate
    hknown hexec
  constructor
  · cases hanswer with
    | unsent => rfl
    | accepted _ hmsg => apply absurd hmsg hrejected
    | rejected => rfl
  · rcases hleaves with ⟨hmissing, htable⟩ | ⟨hpresent, htable⟩
    · apply iff_of_true _ (.inl hmissing)
      left
      rw [htable]
    · rw [or_iff_right hpresent, KeepsOut, htable, update_self]
      have hstored : msg.pppIpcpMsg.stored.2 = false := by
        rw [msg.pppIpcpMsg.isAccepted_iff hpresent, Bool.not_eq_true] at hrejected
        apply hrejected
      rw [← msg.pppIpcpMsg.stored_fst hstored]
      apply or_comm

theorem keepsOut_iff_fiveParts :
  ∃ r s' k', (machine .event).exec (workingOutside 1 none []).answers
      (processIpcpParams (plainBuild false) (0 + 1 : ℕ) fivePartsMessage) 0 (freshState 1) =
        .ok (r, s', k') ∧
    r = .failure ∧
      (KeepsOut 0 (freshState 1) s' ↔ fivePartsMessage.pppIpcpMsg.IsMissing ∨
        fivePartsMessage.pppIpcpMsg.firstParts = .zero ∨
        fivePartsMessage.pppIpcpMsg.firstParts = ((freshState 1).table 0).addresses)
  := by
  have hrun : run (Access.next (plainBuild false)) [] (freshState 1) = some (freshState 1) := rfl
  have hends : ((machine .event).exec (workingOutside 1 none []).answers
      (processIpcpParams (plainBuild false) (0 + 1 : ℕ) fivePartsMessage) 0
      (freshState 1)).isOk = true := by
    decide +kernel
  obtain ⟨⟨r, s', k'⟩, hexec⟩ := exists_ok_of_isOk hends
  refine ⟨r, s', k', hexec, ?_⟩
  apply keepsOut_iff (initial_freshState (by decide +kernel)) hrun _ rfl (fun _ => rfl)
    fivePartsMessage_rejected hexec
  decide +kernel

/-- The first four parts of the address stay in the entry. -/
theorem rejected_address_stays :
  ∃ r s' k', (machine .event).exec (workingOutside 1 none []).answers
      (processIpcpParams (plainBuild false) (0 + 1 : ℕ) fivePartsMessage) 0 (freshState 1) =
        .ok (r, s', k') ∧
    r = .failure ∧ ¬ KeepsOut 0 (freshState 1) s'
  := by
  have hends : ((machine .event).exec (workingOutside 1 none []).answers
      (processIpcpParams (plainBuild false) (0 + 1 : ℕ) fivePartsMessage) 0
      (freshState 1)).toOption.map
        (fun r => (r.1, (r.2.1.table 0).info.localIPAddress 0,
          ((freshState 1).table 0).info.localIPAddress 0)) = some (.failure, 1, 0) := by
    decide +kernel
  obtain ⟨⟨r, s', k'⟩, hexec, hend⟩ := Option.map_eq_some_iff.mp hends
  obtain ⟨hr, hbyte⟩ := Prod.mk.inj hend
  obtain ⟨hafter, hbefore⟩ := Prod.mk.inj hbyte
  refine ⟨r, s', k', eq_ok_of_toOption hexec, hr, ?_⟩
  have hone : (s'.table 0).addresses.localIPAddress 0 = 1 := hafter
  rintro (h | h)
  · have hzero : ((freshState 1).table 0).addresses.localIPAddress 0 = 0 := hbefore
    rw [h, hzero] at hone
    cases hone
  · rw [h] at hone
    cases hone

end

end PppManager
