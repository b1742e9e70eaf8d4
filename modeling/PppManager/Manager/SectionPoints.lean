import PppManager.Manager.Sections

/-!
# The sections of the entry points

Every entry point keeps to the contract of `Manager.Sections`: a getter or a setter is one section, a
reset is two, and the event thread enters a section for each entry it looks at or changes
(`sections_point`).
-/

namespace PppManager

open Effect Effect.Program CText

section

variable {b : Build} {r : Option CStr} {A : Prop} {i n : ℕ} {e e' : DmlPppIfFull}
  {es : List PppEventQData} {d : Option Section} {α : Type}

/-! ### Sections as a whole -/

/-- What a section leaves: the entry, changed as an entry point changes it, and under the condition `A`
with the LCP status that has been told. -/
def LeavesChanged (b : Build) (A : Prop) (i : ℕ) (e : DmlPppIfFull) (d : Option Section) : Prop :=
  ∃ e' es, d = some ⟨i, 0, e, e', es⟩ ∧ AnyChange b i e e' ∧ (A → Section.Tells b ⟨i, 0, e, e', es⟩)

/-- An entry that is left as it is, where no LCP status has been told. -/
theorem leavesChanged_self (h : A → Section.lcpOf b i es = none) :
  LeavesChanged b A i e (some ⟨i, 0, e, e, es⟩)
  := ⟨e, es, rfl, anyChange_self e, fun hA => Section.tells_quiet (n := 0) rfl (h hA)⟩

/-- The section is left with its entry as it was found. -/
theorem sections_leave {Q : Unit → Option Section → Prop} (hQ : Q () none) :
  (sections b r A).wp (getIfaceDataRelease i) Q (some ⟨i, 0, e, e, []⟩)
  := by
  apply sections_release _ hQ
  intro _
  exact ⟨anyChange_self e, fun _ => Section.tells_quiet (n := 0) rfl rfl⟩

/-- A program between taking the mutex of an entry and giving it back. -/
theorem sections_bracket {p : Code α} {Q : α → Option Section → Prop}
    (hi : i < (pppIfCountOf r).toNat)
    (hp : ∀ e : DmlPppIfFull, e.cfg.instanceNumber = i + 1 →
      (sections b r A).wp p (fun _ d => LeavesChanged b A i e d) (some ⟨i, 0, e, e, []⟩))
    (hQ : ∀ a, Q a none) :
  (sections b r A).wp (bracket i p) Q none
  := by
  rw [bracket, Contract.wp_bind]
  apply sections_enter hi
  intro e he
  rw [Contract.wp_bind]
  apply Contract.wp_mono _ (hp e he)
  rintro a d ⟨e', es, rfl, hleft⟩
  rw [Contract.wp_bind]
  apply sections_release (fun _ => hleft)
  apply hQ

/-- The data model keeps the status of an entry. -/
theorem DataChange.statuses (h : DataChange e e') :
  e'.statuses = e.statuses
  := congrArg (fun v => (v.2.2.1.1, v.2.2.1.2.1)) h.vital

/-- Work of the data model on the entry of a section. -/
theorem sections_changesData {W C : Prop} {p : Code α} (hp : Only (Op.OnEntry AnyWrite W C i) p)
    (hchanges : ChangesData p) (hi : i < (pppIfCountOf r).toNat) :
  (sections b r A).wp p (fun _ d => LeavesChanged b A i e d) (some ⟨i, 0, e, e, []⟩)
  := by
  apply sections_onEntry hp hi (hchanges e)
  intro _ e' he'
  refine ⟨e', [], rfl, .data e' he', ?_⟩
  intro _
  apply Section.tells_quiet he'.statuses rfl

/-- The setters of `Enable` and `Reset`, and the other ones of this type. -/
theorem sections_writeBoolParam {paramName : CStr} {v : Bool}
    (hc : (pppIfCountOf r).toNat ≤ pppTableLength) (hi : i < (pppIfCountOf r).toNat)
    (he : e.cfg.instanceNumber = i + 1) :
  (sections b r A).wp (writeBoolParam b i paramName v) (fun _ d => LeavesChanged b A i e d)
    (some ⟨i, 0, e, e, []⟩)
  := by
  have hkept : LeavesChanged b A i e (some ⟨i, 0, e, e, []⟩) := leavesChanged_self (fun _ => rfl)
  have hdown : ∀ {e' es}, e'.statuses = (stoppedEntry b e).statuses →
      Section.lcpOf b i es = some down → Section.Tells b ⟨i, 0, e, e', es⟩ := by
    intro e' es hstatuses hlcp
    apply Section.tells_told _ hlcp
    rw [hstatuses]
    apply agree_stoppedEntry
  by_cases henable : paramName = "Enable".toList
  · rw [writeBoolParam, if_pos henable, Contract.wp_bind]
    apply sections_load hi
    rw [he, enableIf]
    split_ifs
    · rw [Contract.wp_bind]
      apply sections_sendPppdStartEventToQ_again hc hi he
      · intro es hes
        apply leavesChanged_self
        intro hA
        rw [hes hA]
        rfl
      · intro es hes
        exact ⟨_, es, rfl, .enabled, fun hA => Section.tells_quiet (n := 0) rfl (hes hA)⟩
    · rw [Contract.wp_bind]
      apply sections_stopPppClient_again hc hi
      · apply hkept
      · intro es hes
        exact ⟨_, es, rfl, .stopped, fun hA => hdown rfl (hes hA)⟩
  · by_cases hreset : paramName = "Reset".toList
    · obtain rfl := hreset
      have hnumber : (stoppedEntry b e).cfg.instanceNumber = i + 1 := by
        rw [← he, stoppedEntry]
        split_ifs <;> rfl
      rw [writeBoolParam, if_neg henable, if_neg (by decide), if_neg (by decide), if_pos rfl,
        Contract.wp_bind]
      apply sections_load hi
      split_ifs
      · rw [he, pppDmlIfReset, Contract.wp_bind]
        apply sections_stopPppClient_again hc hi
        · apply hkept
        · intro es hes
          rw [Contract.wp_bind]
          apply sections_sendPppdStartEventToQ_again hc hi hnumber
          · intro es' hes'
            refine ⟨_, es', rfl, .stopped, ?_⟩
            intro hA
            rw [hes' hA]
            apply hdown rfl (hes hA)
          · intro es' hes'
            exact ⟨_, es', rfl, .restarted, fun hA => hdown rfl ((hes' hA).trans (hes hA))⟩
      · apply hkept
    · apply sections_changesData (W := True) (C := True) (local_writeBoolParam henable hreset v)
        (changesData_writeBoolParam henable hreset) hi

/-- A setter. -/
theorem sections_setter {w : Setter} {Q : Bool → Option Section → Prop}
    (hc : (pppIfCountOf r).toNat ≤ pppTableLength) (hw : w.handle < (pppIfCountOf r).toNat)
    (hQ : ∀ a, Q a none) :
  (sections b r A).wp (w.code b) Q none
  := by
  cases hrequest : w.isRequest with
  | false =>
      obtain ⟨p, hcode, hp, hchanges⟩ := setter_bracket (W := True) (C := True) (b := b) hrequest
        (fun _ => trivial)
      rw [hcode]
      apply sections_bracket hw _ hQ
      intro e _
      apply sections_changesData hp hchanges hw
  | true =>
      cases w with
      | interfaceBool i paramName v =>
          apply sections_bracket (p := writeBoolParam b i paramName v) hw _ hQ
          intro e he
          apply sections_writeBoolParam hc hw he
      | _ => cases hrequest

/-- A getter. -/
theorem sections_getter {g : Getter} {Q : Unit → Option Section → Prop}
    (hg : g.handle < (pppIfCountOf r).toNat) (hQ : Q () none) :
  (sections b r A).wp (g.code b) Q none
  := by
  cases hstats : g.readsStats with
  | false =>
      obtain ⟨p, hcode, hp, hchanges⟩ := getter_bracket (W := True) (C := True) (b := b) hstats
      rw [hcode]
      apply sections_bracket hg
      · intro e _
        apply sections_changesData hp hchanges hg
      · intro _
        apply hQ
  | true =>
      cases g with
      | statsUlong i paramName =>
          rw [Getter.code, Contract.wp_map, statsGetParamUlongValue, Contract.wp_bind,
            pppDmlGetIfStats, Contract.wp_bind]
          apply sections_look hg
          intro pEntry
          have hrest : ∀ stats, (sections b r A).wp
              (bracket i (pure (statsUlongParam paramName stats))) (fun _ => Q ()) none := by
            intro stats
            apply sections_bracket hg
            · intro e _
              apply leavesChanged_self (fun _ => rfl)
            · intro _
              apply hQ
          split_ifs
          · rw [Contract.wp_bind]
            apply sections_queries (p := cosaUtilGetIfStats pEntry.info.name DmlIfStats.zero)
            · apply only_bind (reads_op (P := Op.IsQuery) (o := .readFile _) trivial)
              rintro (_ | text) <;> apply only_pure
            · rintro ⟨_, stats⟩
              apply hrest stats
          · apply sections_apart (reads_undefined (P := Op.IsApart) trivial)
            apply hrest
      | _ => cases hstats

/-! ### Other functions of the data model -/

theorem sections_validateLoop {name : CStr} {ulIndex k : ℕ} {Q : Bool → Option Section → Prop}
    (hk : ulIndex + k ≤ (pppIfCountOf r).toNat) (hQ : ∀ a, Q a none) :
  (sections b r A).wp (validateLoop i name ulIndex k) Q none
  := by
  induction k generalizing ulIndex with
  | zero => apply hQ
  | succ k ih =>
      have hrest : ulIndex + 1 + k ≤ (pppIfCountOf r).toNat := by
        omega
      rw [validateLoop]
      split_ifs
      · apply ih hrest
      · rw [Contract.wp_bind]
        apply sections_look (by omega)
        intro other
        split_ifs
        · apply hQ
        · apply ih hrest

theorem sections_interfaceValidate {Q : Bool → Option Section → Prop}
    (hi : i < (pppIfCountOf r).toNat) (hQ : ∀ a, Q a none) :
  (sections b r A).wp (interfaceValidate i) Q none
  := by
  rw [interfaceValidate, Contract.wp_bind]
  apply sections_total
  intro total htotal
  rw [Contract.wp_bind]
  apply sections_look hi
  intro pEntry
  apply sections_validateLoop _ hQ
  rw [Nat.zero_add]
  apply htotal

theorem sections_interfaceGetEntry {Q : ℕ → Option Section → Prop}
    (hi : i < (pppIfCountOf r).toNat) (hQ : ∀ a, Q a none) :
  (sections b r A).wp (interfaceGetEntry i) Q none
  := by
  rw [interfaceGetEntry, Contract.wp_bind]
  apply sections_enter hi
  intro e _
  rw [Contract.wp_bind]
  apply sections_store
  rw [Contract.wp_bind]
  apply sections_release
  · intro _
    exact ⟨.numbered, fun _ => Section.tells_quiet (n := 0) rfl rfl⟩
  · apply hQ

/-! ### Messages -/

theorem sections_getUptimeinSeconds {Q : ULong → Option Section → Prop} (hQ : ∀ v, Q v d) :
  (sections b r A).wp getUptimeinSeconds Q d
  := sections_queries reads_getUptimeinSeconds hQ

theorem sections_changeStatus {status : DmlIfStatus} {conn : DmlPppConnStatus}
    {Q : Unit → Option Section → Prop}
    (hQ : ∀ uptime, Q () (some ⟨i, n, e, (e'.setStatus status conn).setLastChange uptime, es⟩)) :
  (sections b r A).wp (changeStatus i status conn) Q (some ⟨i, n, e, e', es⟩)
  := by
  rw [changeStatus, Contract.wp_bind]
  apply sections_store
  rw [Contract.wp_bind]
  apply sections_getUptimeinSeconds
  intro uptime
  apply sections_store
  apply hQ

theorem sections_getSessionId {Q : Unit → Option Section → Prop}
    (hi : i < (pppIfCountOf r).toNat) (hnone : Q () (some ⟨i, n, e, e', es⟩))
    (hsome : ∀ id, Q () (some ⟨i, n, e, e'.setSessionID id, es⟩)) :
  (sections b r A).wp (getSessionId i) Q (some ⟨i, n, e, e', es⟩)
  := by
  rw [getSessionId, Contract.wp_bind]
  have hkept : onEntry.wp (findSessionId i) (fun _ e'' => e'' = e') e' := by
    apply onEntry_reads storesNothing_findSessionId
    intro _
    rfl
  apply sections_onEntry (W := True) (C := True)
    (only_findSessionId (fun _ ho => ho.isHostQuery.onEntry) rfl) hi hkept
  rintro (_ | id) e'' rfl
  · apply hnone
  · apply sections_store
    apply hsome

theorem sections_storeUnless {c : Prop} [Decidable c] {f : DmlPppIfFull → DmlPppIfFull}
    {Q : Unit → Option Section → Prop} (hpos : c → Q () (some ⟨i, n, e, e', es⟩))
    (hneg : ¬ c → Q () (some ⟨i, n, e, f e', es⟩)) :
  (sections b r A).wp (storeUnless c i f) Q (some ⟨i, n, e, e', es⟩)
  := by
  rw [storeUnless]
  split_ifs with hc
  · apply hpos hc
  · apply sections_store
    apply hneg hc

theorem sections_completeLcpAuth {msg : IpcPppEventMsg} (hstate : msg.pppState = .lcpAuthCompleted)
    {Q : Unit → Option Section → Prop}
    (hQ : Q () (some ⟨i, n, e, switchEntry msg 0 none e', es⟩)) :
  (sections b r A).wp (completeLcpAuth i msg.pppLcpMsg) Q (some ⟨i, n, e, e', es⟩)
  := by
  rw [switchEntry, hstate] at hQ
  dsimp only at hQ
  rw [completeLcpAuth, Contract.wp_bind]
  apply sections_store
  rw [Contract.wp_bind]
  apply sections_storeUnless
  · intro hvendor
    rw [if_pos hvendor] at hQ
    apply sections_storeUnless
    · intro hauth
      rw [if_pos hauth] at hQ
      apply hQ
    · intro hauth
      rw [if_neg hauth] at hQ
      apply hQ
  · intro hvendor
    rw [if_neg hvendor] at hQ
    apply sections_storeUnless
    · intro hauth
      rw [if_pos hauth] at hQ
      apply hQ
    · intro hauth
      rw [if_neg hauth] at hQ
      apply hQ

/-- The switch of `PppMgr_ProcessStateChangedMsg`. -/
theorem sections_switchPppState {msg : IpcPppEventMsg} {Q : Option CStr → Option Section → Prop}
    (hi : i < (pppIfCountOf r).toNat)
    (hQ : ∀ uptime id, Q (linkStatus msg.pppState)
      (some ⟨i, n, e, switchEntry msg uptime id e', es⟩)) :
  (sections b r A).wp (switchPppState i msg) Q (some ⟨i, n, e, e', es⟩)
  := by
  have hstatus : ∀ {status conn w}, linkStatus msg.pppState = w → (∀ uptime,
      switchEntry msg uptime none e' = (e'.setStatus status conn).setLastChange uptime) →
      (sections b r A).wp (do changeStatus i status conn; pure w) Q (some ⟨i, n, e, e', es⟩) := by
    rintro status conn _ rfl hentry
    rw [Contract.wp_bind]
    apply sections_changeStatus
    intro uptime
    rw [← hentry]
    apply hQ
  have hlink : ∀ {p}, msg.pppState = p → linkStatus msg.pppState = linkStatus p :=
    congrArg linkStatus
  cases hstate : msg.pppState with
  | interfaceUp =>
      have hpersist : ∀ uptime id, (sections b r A).wp (do
          let pEntry ← load i
          let paramValue := printf "%ld".toList [.int pEntry.info.sessionID.toLong]
          let _ ← setParamValuesToDB psmPppSessionid paramValue
          pure (some up)) Q (some ⟨i, n, e, switchEntry msg uptime id e', es⟩) := by
        intro uptime id
        rw [Contract.wp_bind]
        apply sections_load hi
        rw [Contract.wp_bind]
        apply sections_apart (apart_op (o := .psmSet _ _) (by
          show psmPppSessionid ≠ psmPppManagerPppIfCount
          decide))
        intro _
        have h := hQ uptime id
        rw [hlink hstate] at h
        apply h
      rw [switchPppState, hstate, Contract.wp_bind]
      apply sections_store
      rw [Contract.wp_bind]
      apply sections_store
      rw [Contract.wp_bind]
      apply sections_getUptimeinSeconds
      intro uptime
      rw [Contract.wp_bind]
      apply sections_store
      have hentry := fun id => hpersist uptime id
      simp only [switchEntry, hstate] at hentry
      rw [Contract.wp_bind]
      apply sections_getSessionId hi
      · apply hentry none
      · intro id
        apply hentry (some id)
  | interfaceConnecting =>
      rw [switchPppState, hstate, Contract.wp_bind]
      apply sections_changeStatus
      intro uptime
      rw [Contract.wp_bind]
      apply sections_store
      have h := hQ uptime none
      rw [hlink hstate, switchEntry, hstate] at h
      apply h
  | interfaceDisconnected | interfaceDown =>
      rw [switchPppState, hstate, Contract.wp_bind]
      apply sections_store
      rw [Contract.wp_bind]
      apply sections_changeStatus
      intro uptime
      rw [Contract.wp_bind]
      apply sections_store
      have h := hQ uptime none
      rw [hlink hstate, switchEntry, hstate] at h
      apply h
  | lcpAuthCompleted =>
      rw [switchPppState, hstate, Contract.wp_bind]
      apply sections_completeLcpAuth hstate
      have h := hQ 0 none
      rw [hlink hstate] at h
      apply h
  | interfaceAuthFailed =>
      have h := hQ 0 none
      rw [hlink hstate, switchEntry, hstate] at h
      rw [switchPppState, hstate, Contract.wp_bind]
      apply sections_store
      rw [stopPppoe, Contract.wp_bind, Contract.wp_bind]
      apply sections_apart (apart_op (o := .system _) trivial)
      intro _
      apply h
  | _ =>
      rw [switchPppState, hstate]
      apply hstatus (hlink hstate)
      intro uptime
      rw [switchEntry, hstate]

/-- The number an entry is found with is that of its index. -/
theorem number_eq (hc : (pppIfCountOf r).toNat ≤ pppTableLength) (hi : i < (pppIfCountOf r).toNat)
    (he : e.cfg.instanceNumber = i + 1) :
  toInt e.cfg.instanceNumber = (i + 1 : ℕ)
  := by
  rw [he, toInt_eq (Nat.le_trans hi hc)]

theorem sections_postLinkStatus {w : CStr} {Q : AnscStatus → Option Section → Prop}
    (hc : (pppIfCountOf r).toNat ≤ pppTableLength) (hi : i < (pppIfCountOf r).toNat)
    (he' : e'.cfg.instanceNumber = i + 1) (hw : w = up ∨ w = down)
    (hchange : AnyChange b i e e') (hagree : Agree e'.statuses (some w)) (hQ : ∀ q, Q q none) :
  (sections b r A).wp (postLinkStatus b i w) Q (some ⟨i, 0, e, e', es⟩)
  := by
  have hpos := inRange_instanceNumber hc hi he'
  have hnumber := number_eq hc hi he'
  rw [postLinkStatus, Contract.wp_bind]
  apply sections_load hi
  rw [Contract.wp_bind]
  apply sections_sendStatus hpos (fun _ _ => hnumber)
  rintro (_ | _) es₁ hes₁
  · rw [Contract.wp_bind]
    apply sections_sendStatus hpos (fun _ _ => hnumber)
    intro q es₂ hes₂
    have htells : A → Section.Tells b ⟨i, 0, e, e', es₂⟩ := by
      intro hA
      apply Section.tells_told hagree
      rw [(hes₂ hA).2, (hes₁ hA).2, hnumber, lcpOf_link hw]
    cases q <;> apply sections_done hchange htells hQ
  · apply sections_done hchange _ hQ
    intro hA
    cases (hes₁ hA).1

theorem sections_processStateChangedMsg {k : ℤ} {msg : IpcPppEventMsg}
    {Q : AnscStatus → Option Section → Prop} (hc : (pppIfCountOf r).toNat ≤ pppTableLength)
    (hQ : ∀ q, Q q none) :
  (sections b r A).wp (processStateChangedMsg b k msg) Q none
  := by
  rw [processStateChangedMsg]
  split_ifs
  · apply hQ
  · rw [Contract.wp_bind]
    apply sections_getIfaceDataLocked
    · apply hQ
    · intro i e _ hi he
      rw [Contract.wp_bind]
      apply sections_switchPppState hi
      intro uptime id
      have hchange : AnyChange b i e (switchEntry msg uptime id e) :=
        .switched msg uptime id trivial
      cases hlink : linkStatus msg.pppState with
      | none =>
          apply sections_done hchange _ hQ
          intro _ last hlast
          rw [statuses_switchEntry]
          apply hlast.quiet hlink
      | some w =>
          apply sections_postLinkStatus hc hi _ (linkStatus_values hlink) hchange _ hQ
          · rw [switchEntry_instanceNumber, he]
          · rw [statuses_switchEntry]
            apply agree_told hlink

/-- A status is told that is not that of LCP. -/
theorem sections_sendOther {k : ℤ} {keyPath w : CStr} {Q : AnscStatus → Option Section → Prop}
    (hk : 0 < k ∧ k ≤ (pppIfCountOf r).toNat) (hkey : keyPath ≠ pppLcpStatusParamName b)
    (hQ : ∀ q es', (A → Section.lcpOf b i es' = Section.lcpOf b i es) →
      Q q (some ⟨i, n, e, e', es'⟩)) :
  (sections b r A).wp (sendDataToQ (busSetEvent k keyPath w)) Q (some ⟨i, n, e, e', es⟩)
  := by
  apply sections_sendStatus hk (fun _ h => absurd h hkey)
  intro q es' hes'
  apply hQ
  intro hA
  rw [(hes' hA).2, lcpOf_of_key hkey]

/-- The section is left with the status it was found with, of which nothing has been told. -/
theorem sections_doneQuiet {q : AnscStatus} {Q : AnscStatus → Option Section → Prop}
    (hchange : AnyChange b i e e') (hstatuses : e'.statuses = e.statuses) (hQ : ∀ q, Q q none)
    (h : A → Section.lcpOf b i es = none) :
  (sections b r A).wp (do getIfaceDataRelease i; pure q) Q (some ⟨i, 0, e, e', es⟩)
  := sections_done hchange (fun hA => Section.tells_quiet (n := 0) hstatuses (h hA)) hQ

/-- The answer to a message of IPCP. -/
theorem sections_answerIpcp {accepted : Bool} {Q : AnscStatus → Option Section → Prop}
    (hc : (pppIfCountOf r).toNat ≤ pppTableLength) (hi : i < (pppIfCountOf r).toNat)
    (he' : e'.cfg.instanceNumber = i + 1) (hchange : AnyChange b i e e')
    (hstatuses : e'.statuses = e.statuses) (hQ : ∀ q, Q q none) :
  (sections b r A).wp (answerIpcp b i accepted) Q (some ⟨i, 0, e, e', []⟩)
  := by
  cases accepted with
  | true =>
      rw [answerIpcp, if_pos rfl, acceptIpcpParams, Contract.wp_bind]
      apply sections_load hi
      rw [Contract.wp_bind]
      apply sections_sendOther (inRange_instanceNumber hc hi he') pppIpcpStatusParamName_ne
      rintro (_ | _) es <;> apply sections_doneQuiet hchange hstatuses hQ
  | false =>
      rw [answerIpcp, if_neg Bool.false_ne_true, rejectIpcpParams, Contract.wp_bind]
      apply sections_load hi
      rw [Contract.wp_bind]
      apply sections_sendOther (inRange_instanceNumber hc hi he') pppIpcpStatusParamName_ne
      intro _ es
      apply sections_doneQuiet hchange hstatuses hQ

/-- The addresses are stored as they are read, and then the message is answered. -/
theorem sections_storeIpcpParams {msg : PppIpcpMsg} {Q : AnscStatus → Option Section → Prop}
    (hQ : (sections b r A).wp (answerIpcp b i msg.stored.2) Q
      (some ⟨i, n, e, e'.setAddresses msg.stored.1, es⟩)) :
  (sections b r A).wp (storeIpcpParams b i msg) Q (some ⟨i, n, e, e', es⟩)
  := by
  revert hQ
  rw [storeIpcpParams, Contract.wp_bind, PppIpcpMsg.stored]
  intro hQ
  apply sections_store
  rw [setLocalIPAddress_eq, Contract.wp_bind]
  apply sections_store
  rw [setRemoteIPAddress_addressed, Contract.wp_bind]
  apply sections_store
  rw [setDNSServers_addressed]
  revert hQ
  rcases dmlSetIp4Param msg.ip (fun _ => 0) with ⟨ip, _ | _⟩
  · rcases dmlSetIp4Param msg.gateway (fun _ => 0) with ⟨gateway, _ | _⟩
    · rcases dnsServersOf (strtok ',' msg.nameserver) with _ | dnsServers
      · intro hQ
        rw [Contract.wp_bind]
        apply sections_store
        rw [setLocalIPAddress_addressed, Contract.wp_bind]
        apply sections_store
        rw [setRemoteIPAddress_addressed]
        apply hQ
      · intro hQ
        rw [Contract.wp_bind]
        apply sections_store
        rw [setLocalIPAddress_addressed, Contract.wp_bind]
        apply sections_store
        rw [setRemoteIPAddress_addressed, Contract.wp_bind]
        apply sections_store
        rw [setDNSServers_addressed]
        apply hQ
    · intro hQ
      rw [Contract.wp_bind]
      apply sections_store
      rw [setLocalIPAddress_addressed, Contract.wp_bind]
      apply sections_store
      rw [setRemoteIPAddress_addressed]
      apply hQ
  · intro hQ
    rw [Contract.wp_bind]
    apply sections_store
    rw [setLocalIPAddress_addressed]
    apply hQ

theorem sections_processIpcpParams {k : ℤ} {msg : IpcPppEventMsg}
    {Q : AnscStatus → Option Section → Prop} (hc : (pppIfCountOf r).toNat ≤ pppTableLength)
    (hk : 0 < k → k ≤ (pppIfCountOf r).toNat) (hQ : ∀ q, Q q none) :
  (sections b r A).wp (processIpcpParams b k msg) Q none
  := by
  rw [processIpcpParams]
  split_ifs with hneg
  · apply hQ
  · rw [Contract.wp_bind]
    apply sections_sendStatusOutside ⟨Int.not_le.mp hneg, hk (Int.not_le.mp hneg)⟩
      (fun _ => pppIpcpStatusParamName_ne)
    intro _
    apply hQ
  · rw [Contract.wp_bind]
    apply sections_sendStatusOutside ⟨Int.not_le.mp hneg, hk (Int.not_le.mp hneg)⟩
      (fun _ => pppIpcpStatusParamName_ne)
    intro _
    apply hQ
  · rw [Contract.wp_bind]
    apply sections_getIfaceDataLocked
    · apply hQ
    · intro i e _ hi he
      have hnumber : (e.setAddresses msg.pppIpcpMsg.stored.1).cfg.instanceNumber = i + 1 := he
      apply sections_storeIpcpParams
      apply sections_answerIpcp hc hi hnumber (.addressed msg trivial) rfl hQ

/-- The interface identifiers of a message are stored. -/
theorem sections_storeIpv6cpParams {msg : PppIpv6cpMsg} {Q : Unit → Option Section → Prop}
    (hQ : Q () (some ⟨i, n, e, e'.storeIdentifiers msg, es⟩)) :
  (sections b r A).wp (storeIpv6cpParams i msg) Q (some ⟨i, n, e, e', es⟩)
  := by
  rw [DmlPppIfFull.storeIdentifiers] at hQ
  rw [storeIpv6cpParams, Contract.wp_bind]
  apply sections_storeUnless
  · intro hlocal
    rw [if_pos hlocal] at hQ
    apply sections_storeUnless
    · intro hremote
      rw [if_pos hremote] at hQ
      apply hQ
    · intro hremote
      rw [if_neg hremote] at hQ
      apply hQ
  · intro hlocal
    rw [if_neg hlocal] at hQ
    apply sections_storeUnless
    · intro hremote
      rw [if_pos hremote] at hQ
      apply hQ
    · intro hremote
      rw [if_neg hremote] at hQ
      apply hQ

theorem sections_processIpv6cpParams {k : ℤ} {msg : IpcPppEventMsg}
    {Q : AnscStatus → Option Section → Prop} (hc : (pppIfCountOf r).toNat ≤ pppTableLength)
    (hQ : ∀ q, Q q none) :
  (sections b r A).wp (processIpv6cpParams b k msg) Q none
  := by
  rw [processIpv6cpParams]
  split_ifs
  · apply hQ
  · rw [Contract.wp_bind]
    apply sections_getIfaceDataLocked
    · apply hQ
    · intro i e _ hi he
      have hpos := inRange_instanceNumber hc hi he
      rw [Contract.wp_bind]
      apply sections_load hi
      rw [Contract.wp_bind]
      apply sections_storeIpv6cpParams
      rw [Contract.wp_bind]
      apply sections_apart (apart_op (o := .generateDuidFile _) trivial)
      intro _
      rw [Contract.wp_bind]
      apply sections_sendOther hpos pppIpv6cpStatusParamName_ne
      rintro (_ | _) es <;> apply sections_doneQuiet (.identified msg trivial) rfl hQ
  · rw [Contract.wp_bind]
    apply sections_getIfaceDataLocked
    · apply hQ
    · intro i e _ hi he
      rw [Contract.wp_bind]
      apply sections_load hi
      rw [Contract.wp_bind]
      apply sections_apart (apart_op (o := .removeDuidFile _) trivial)
      intro _
      rw [Contract.wp_bind]
      apply sections_sendOther (inRange_instanceNumber hc hi he) pppIpv6cpStatusParamName_ne
      intro _ es
      apply sections_doneQuiet (anyChange_self e) rfl hQ

theorem sections_getIfaceDataWithPid {pid : ℤ} {Q : ℤ → Option Section → Prop}
    (hc : (pppIfCountOf r).toNat ≤ pppTableLength)
    (hQ : ∀ k : ℤ, (0 < k → k ≤ (pppIfCountOf r).toNat) → Q k none) :
  (sections b r A).wp (getIfaceDataWithPid pid) Q none
  := by
  have hloop : ∀ j k, (sections b r A).wp (getIfaceDataWithPidLoop pid j k) Q none := by
    intro j k
    induction k generalizing j with
    | zero =>
        apply hQ
        intro h
        cases h
    | succ k ih =>
        rw [getIfaceDataWithPidLoop, Contract.wp_bind]
        apply sections_getIfaceDataLocked
        · apply ih
        · intro i e _ hi he
          rw [Contract.wp_bind]
          apply sections_load hi
          split_ifs
          · rw [Contract.wp_bind]
            apply sections_leave
            apply hQ
            intro _
            apply (inRange_instanceNumber hc hi he).2
          · rw [Contract.wp_bind]
            apply sections_leave
            apply ih
  rw [getIfaceDataWithPid, Contract.wp_bind]
  apply sections_total
  intro total _
  apply hloop

theorem sections_processPppState {m : IpcMsgPayload} {Q : AnscStatus → Option Section → Prop}
    (hc : (pppIfCountOf r).toNat ≤ pppTableLength) (hQ : ∀ q, Q q none) :
  (sections b r A).wp (processPppState b m) Q none
  := by
  rw [processPppState]
  split_ifs
  · apply hQ
  · rw [Contract.wp_bind]
    apply sections_getIfaceDataWithPid hc
    intro k hk
    split_ifs
    · apply hQ
    · rw [dispatchPppState]
      cases m.pppEventMsg.pppState with
      | ipcpCompleted | ipcpFailed => apply sections_processIpcpParams hc hk hQ
      | ipv6cpCompleted | ipv6cpFailed => apply sections_processIpv6cpParams hc hQ
      | unknown code => apply hQ
      | _ => apply sections_processStateChangedMsg hc hQ

/-! ### Events -/

theorem sections_wanInstanceOf {Q : ℤ × ℤ → Option Section → Prop} (hQ : ∀ v, Q v none) :
  (sections b r A).wp (wanInstanceOf n) Q none
  := by
  rw [wanInstanceOf, Contract.wp_bind]
  apply sections_getIfaceDataLocked
  · apply hQ
  · intro i e _ hi _
    rw [Contract.wp_bind]
    apply sections_load hi
    rw [Contract.wp_bind]
    apply sections_leave
    apply hQ

theorem sections_getCredentialsFromHal {Q : Unit → Option Section → Prop}
    (hQ : ∀ u p, ReadAnew e'.cfg.username u → ReadAnew e'.cfg.password p →
      Q () (some ⟨i, n, e, (e'.setUsername u).setPassword p, es⟩)) :
  (sections b r A).wp (getCredentialsFromHal i) Q (some ⟨i, n, e, e', es⟩)
  := by
  have hlength : ∀ v : CStr, (v.take 64).length ≤ 64 := List.length_take_le 64
  rw [getCredentialsFromHal, Contract.wp_bind]
  apply sections_apart (apart_op (o := .halGetPppUserName) trivial)
  rintro (_ | v)
  · rw [Contract.wp_bind]
    apply sections_apart (apart_op (o := .halGetPppPassword) trivial)
    rintro (_ | v')
    · apply hQ e'.cfg.username e'.cfg.password (.inl rfl) (.inl rfl)
    · apply sections_store
      apply hQ e'.cfg.username _ (.inl rfl) (.inr (hlength v'))
  · rw [Contract.wp_bind]
    apply sections_store
    rw [Contract.wp_bind]
    apply sections_apart (apart_op (o := .halGetPppPassword) trivial)
    rintro (_ | v')
    · apply hQ _ e'.cfg.password (.inr (hlength v)) (.inl rfl)
    · apply sections_store
      apply hQ _ _ (.inr (hlength v)) (.inr (hlength v'))

/-- The configuration of a client uses no entry. -/
theorem apart_configureClient (e : DmlPppIfFull) :
  Only Op.IsApart (configureClient b e)
  := by
  have hsystem : ∀ text, Only Op.IsApart (systemIfFits text) := by
    intro text
    apply only_ite
    · intro _
      apply apart_op (o := .system _) trivial
    · intro _
      apply only_pure
  rw [configureClient]
  cases e.cfg.linkType with
  | unset | other v => apply only_pure
  | pppoa =>
      apply only_ite
      · intro _
        apply only_pure
      · intro _
        apply only_bind (hsystem _)
        intro _
        apply only_pure
  | pppoe =>
      apply only_ite
      · intro _
        apply only_pure
      · intro _
        apply only_bind (only_dmlPppMgrGetParamValues (P := Op.IsApart) trivial trivial _ _)
        rintro (_ | vlanInterfaceName)
        · apply only_pure
        · apply only_bind (hsystem _)
          intro _
          apply only_bind
          · apply only_bind (apart_op (o := .readFile _) trivial)
            rintro (_ | text)
            · apply only_pure
            · apply only_ite
              · intro _
                apply hsystem
              · intro _
                apply reads_undefined (P := Op.IsApart) trivial
          · intro _
            apply only_pure

theorem sections_launchPppClient {w v : ℤ} {Q : AnscStatus → Option Section → Prop}
    (hi : i < (pppIfCountOf r).toNat) (hQ : ∀ q, Q q none) :
  (sections b r A).wp (launchPppClient b i w v) Q (some ⟨i, 0, e, e, []⟩)
  := by
  have hrest : ∀ e', Attempted b e e' →
      (sections b r A).wp (launchConfigured b i w v) Q (some ⟨i, 0, e, e', []⟩) := by
    intro e' he'
    have hattempted : AnyChange b i e e' := .attempted trivial e' he'
    have hstatuses : e'.statuses = e.statuses := by
      obtain ⟨u, p, -, rfl⟩ := he'
      rfl
    rw [launchConfigured, Contract.wp_bind]
    apply sections_load hi
    split_ifs
    · rw [Contract.wp_bind]
      apply sections_apart (apart_configureClient e')
      rintro (_ | command)
      · apply sections_doneQuiet hattempted hstatuses hQ (fun _ => rfl)
      · rw [Contract.wp_bind]
        apply sections_apart (apart_op (o := .system _) trivial)
        intro _
        rw [recordClient, Contract.wp_bind]
        apply sections_queries (reads_getPppPid none)
        intro pid
        rw [Contract.wp_bind]
        apply sections_store
        rw [Contract.wp_bind]
        apply sections_store
        apply sections_doneQuiet (.launched trivial e' pid w v he') hstatuses hQ (fun _ => rfl)
    · apply sections_doneQuiet hattempted hstatuses hQ (fun _ => rfl)
  rw [launchPppClient_eq, Contract.wp_bind]
  apply sections_store
  split_ifs with hfromPsm
  · apply hrest
    use e.cfg.username, e.cfg.password
    exact ⟨⟨fun _ => ⟨rfl, rfl⟩, .inl rfl, .inl rfl⟩, rfl⟩
  · rw [Contract.wp_bind]
    apply sections_getCredentialsFromHal
    intro u p hu hp
    apply hrest
    use u, p
    exact ⟨⟨fun h => absurd h hfromPsm, hu, hp⟩, rfl⟩

theorem sections_startPppClient {Q : AnscStatus → Option Section → Prop} (hQ : ∀ q, Q q none) :
  (sections b r A).wp (startPppClient b n) Q none
  := by
  rw [startPppClient_eq, Contract.wp_bind]
  apply sections_queries (reads_getWanIfaceInstance _ _ _)
  rintro ⟨_, w, v⟩
  rw [startFrom]
  split_ifs
  · apply hQ
  · rw [Contract.wp_bind]
    apply sections_getIfaceDataLocked
    · apply sections_apart (reads_undefined (P := Op.IsApart) trivial)
      apply hQ
    · intro i e _ hi _
      rw [Contract.wp_bind]
      apply sections_load hi
      rw [Contract.wp_bind]
      apply sections_queries (reads_checkPidExist _)
      rintro (_ | _)
      · apply sections_doneQuiet (anyChange_self e) rfl hQ (fun _ => rfl)
      · apply sections_launchPppClient hi hQ

theorem sections_processPppEvent {ev : PppEventQData} {Q : AnscStatus → Option Section → Prop}
    (hQ : ∀ q, Q q none) :
  (sections b r A).wp (processPppEvent b ev) Q none
  := by
  obtain ⟨action, inst, keyPath, comPath, busPath, val⟩ := ev
  rw [processPppEvent]
  dsimp only
  split_ifs
  · apply hQ
  · cases action with
    | execPppClient =>
        rw [Contract.wp_bind]
        apply sections_startPppClient
        intro _
        apply hQ
    | busSet =>
        rcases keyPath with _ | keyPath
        · apply hQ
        rcases comPath with _ | comPath
        · apply hQ
        rcases busPath with _ | busPath
        · apply hQ
        rw [Contract.wp_bind]
        apply sections_wanInstanceOf
        rintro ⟨w, v⟩
        rw [dmlWanmanagerSetParamValues, Contract.wp_bind]
        apply sections_apart (apart_op (o := .busSet _ _ _ _) trivial)
        rintro ⟨success, faultParam⟩
        dsimp only
        split_ifs
        · apply hQ
        · apply hQ

/-! ### Entry points -/

/-- The entry point is called with the handle of one of the first `c` entries, if with any. -/
def EntryPoint.HandledBelow (c : ℕ) : EntryPoint → Prop
  | .getter g => g.handle < c
  | .setter w => w.handle < c
  | .getEntry nIndex => nIndex < c
  | .validate i => i < c
  | _ => True

/-- The entry point is a request of its own, which is not made in a setter. -/
def EntryPoint.isBareRequest : EntryPoint → Bool
  | .stop _ => true
  | .enable _ _ => true
  | .reset _ => true
  | _ => false

/-- Every entry point keeps to the contract, and leaves every section it enters. -/
theorem sections_point {p : EntryPoint} (hc : (pppIfCountOf r).toNat ≤ pppTableLength)
    (hp : p.HandledBelow (pppIfCountOf r).toNat) (hA : A → p.isBareRequest = false) :
  (sections b r A).wp (p.code b) (fun _ d => d = none) none
  := by
  cases p with
  | getter g => apply sections_getter hp rfl
  | setter w =>
      rw [EntryPoint.code, Contract.wp_map]
      apply sections_setter hc hp
      intro _
      rfl
  | constant => rfl
  | getEntryCount =>
      rw [EntryPoint.code, Contract.wp_map]
      apply sections_total
      intro _ _
      rfl
  | getEntry nIndex =>
      rw [EntryPoint.code, Contract.wp_map]
      apply sections_interfaceGetEntry hp
      intro _
      rfl
  | validate i =>
      rw [EntryPoint.code, Contract.wp_map]
      apply sections_interfaceValidate hp
      intro _
      rfl
  | message m =>
      rw [EntryPoint.code, Contract.wp_map]
      apply sections_processPppState hc
      intro _
      rfl
  | takeEvent =>
      rw [EntryPoint.code, handleQueue, Contract.wp_bind]
      apply sections_apart (apart_op (o := .mqReceive) trivial)
      rintro (_ | ev)
      · rfl
      · rw [Contract.wp_bind]
        apply sections_processPppEvent
        intro _
        rfl
  | event ev =>
      rw [EntryPoint.code, Contract.wp_map]
      apply sections_processPppEvent
      intro _
      rfl
  | start n =>
      rw [EntryPoint.code, Contract.wp_map]
      apply sections_startPppClient
      intro _
      rfl
  | stop n =>
      rw [EntryPoint.code, Contract.wp_map]
      apply sections_stopPppClient (fun h => Bool.noConfusion (hA h)) hc
      intro _
      rfl
  | enable n v =>
      rw [EntryPoint.code, Contract.wp_map]
      apply sections_enableIf (fun h => Bool.noConfusion (hA h)) hc
      intro _
      rfl
  | reset n =>
      rw [EntryPoint.code, Contract.wp_map]
      apply sections_pppDmlIfReset (fun h => Bool.noConfusion (hA h)) hc
      intro _
      rfl

end

end PppManager
