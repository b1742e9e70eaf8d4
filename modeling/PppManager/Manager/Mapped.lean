import PppManager.Manager.LastChange
import PppManager.Manager.Socket

/-!
# Mapped parameters

`RdkPppManager.xml` maps `Status`, `ConnectionStatus` and `AuthenticationProtocol` of an interface to
names, number by number.  `DML_PPP_CONN_STATUS_AuthenticationFailed` has no name there.  As long as
no message reports that the authentication of an interface failed, the numbers it gives have names
once it was started with its parameters and has handled a message about its link
(`givesMapped_of_run`).
-/

namespace PppManager

open Effect Effect.Program CText

/-! ### The mappings of `RdkPppManager.xml` -/

/-- The mapping of `Status`. -/
def statusMapping : List (String × ULong) :=
  [("Up", 1), ("Down", 2), ("Unknown", 3), ("Dormant", 4), ("NotPresent", 5), ("LowerLayerDown", 6),
    ("Error", 7)]

/-- The mapping of `ConnectionStatus`. -/
def connectionStatusMapping : List (String × ULong) :=
  [("Unconfigured", 1), ("Connecting", 2), ("Authenticating", 3), ("Connected", 4),
    ("PendingDisconnect", 5), ("Disconnecting", 6), ("Disconnected", 7)]

/-- The mapping of `AuthenticationProtocol`. -/
def authenticationProtocolMapping : List (String × ULong) :=
  [("PAP", 1), ("CHAP", 2), ("MS-CHAP", 3)]

/-- The parameters with their mappings. -/
def mappedParams : List (CStr × List (String × ULong)) :=
  [("Status".toList, statusMapping), ("ConnectionStatus".toList, connectionStatusMapping),
    ("AuthenticationProtocol".toList, authenticationProtocolMapping)]

/-- `Interface_GetParamUlongValue` gives for each of the parameters a number of its mapping. -/
def GivesMapped (b : Build) (s : Sys) (i : ℕ) : Prop :=
  ∀ p ∈ mappedParams, ∀ (ω : Answers) (k : ℕ), ∃ v s' k',
    (machine .dataModel).exec ω (interfaceGetParamUlongValue b i p.1) k s = .ok (some v, s', k') ∧
      v ∈ p.2.map Prod.snd

/-! ### What has happened to an interface -/

/-- The step handles the message `m` for the entry `i`: `PppMgr_getIfaceDataWithPid` gives its
instance, and `PppMgr_GetIfaceData_locked` finds it. -/
structure Access.Handles (l : Access) (s : Sys) (i : ℕ) (m : IpcMsgPayload) : Prop where
  point : l.point = .message m
  type : m.msgType = .pppStateChange
  found : ∃ k k' s', (machine .event).exec l.answers (getIfaceDataWithPid m.pppEventMsg.pid) 0 s =
    .ok (((i + 1 : ℕ) : ℤ), s, k) ∧
    (machine .event).exec l.answers (getIfaceDataLocked (i + 1)) k s = .ok (some i, s', k')

/-- The step handles an LCP message other than `PPP_LCP_AUTH_COMPLETED` for the entry `i`. -/
def HandlesLcp (i : ℕ) (l : Access) (s : Sys) : Prop :=
  ∃ m, l.Handles s i m ∧ handlerOf m.pppEventMsg.pppState = .stateChanged ∧
    m.pppEventMsg.pppState ≠ .lcpAuthCompleted

/-- The step starts the interface of the entry `i` past the checks of its parameters: they are all
there in the entry it leaves. -/
def StartsPastChecks (b : Build) (i : ℕ) (l : Access) (s : Sys) : Prop :=
  l.point.starts s = some (i + 1) ∧ ∃ s', l.next b s = some s' ∧ (s'.table i).hasPppParams = true

/-- The numbers of `Status` and `ConnectionStatus` have names. -/
def ConnectionMapped (p : DmlIfStatus × DmlPppConnStatus) : Prop :=
  p.1 ≠ .unset ∧ p.2 ≠ .unset ∧ p.2 ≠ .authenticationFailed

theorem mem_statusMapping (v : DmlIfStatus) :
  v.toULong ∈ statusMapping.map Prod.snd ↔ v ≠ .unset
  := by
  cases v <;> decide

theorem mem_connectionStatusMapping (v : DmlPppConnStatus) :
  v.toULong ∈ connectionStatusMapping.map Prod.snd ↔ v ≠ .unset ∧ v ≠ .authenticationFailed
  := by
  cases v <;> decide

theorem mem_authenticationProtocolMapping (v : DmlPppAuth) :
  v.toULong ∈ authenticationProtocolMapping.map Prod.snd ↔ v ≠ .unset
  := by
  cases v <;> decide

/-! ### Steps -/

section

variable {b : Build} {l : Access} {s s' : Sys} {i : ℕ} {m : IpcMsgPayload}

/-- A message that does not report a failed authentication leaves numbers that have names. -/
theorem connectionMapped_statusAfter {old : DmlIfStatus × DmlPppConnStatus} {p : PppState}
    (hp : p ≠ .interfaceAuthFailed) (hold : p = .lcpAuthCompleted → ConnectionMapped old) :
  ConnectionMapped (statusAfter old p)
  := by
  cases p with
  | interfaceAuthFailed => apply absurd rfl hp
  | lcpAuthCompleted => apply hold rfl
  | _ => exact ⟨nofun, nofun, nofun⟩

theorem authenticationProtocol_switchEntry {msg : IpcPppEventMsg} {uptime : ULong}
    {id : Option ULong} {e : DmlPppIfFull} (he : e.info.authenticationProtocol ≠ .unset) :
  (switchEntry msg uptime id e).info.authenticationProtocol ≠ .unset
  := by
  rw [switchEntry]
  cases msg.pppState with
  | interfaceUp => cases id <;> apply he
  | lcpAuthCompleted =>
      dsimp only
      split_ifs
      · apply he
      · apply he
      all_goals
        rw [DmlPppIfFull.setAuthenticationProtocol]
        intro h
        cases h
  | _ => apply he

/-- A step whose entry point runs a program, and drops what it gives, is a run of the program. -/
theorem exec_of_next {α : Type} {p : Code α} (hcode : l.point.code b = (fun _ => ()) <$> p)
    (h : l.next b s = some s') :
  ∃ r k, (machine l.point.thread).exec l.answers p 0 s = .ok (r, s', k)
  := by
  rw [Access.next, hcode, map_eq_pure_bind, Machine.exec_bind] at h
  cases hexec : (machine l.point.thread).exec l.answers p 0 s with
  | error e =>
      rw [hexec] at h
      cases h
  | ok r =>
      obtain ⟨r, s₁, k⟩ := r
      rw [hexec] at h
      obtain rfl := Option.some.inj h
      exact ⟨r, k, rfl⟩

theorem exec_of_next_message {ω : Answers} (h : Access.next b ⟨.message m, ω⟩ s = some s') :
  ∃ r k, (machine .event).exec ω (processPppState b m) 0 s = .ok (r, s', k)
  := exec_of_next rfl h

/-- A message that is handled makes the switch on its entry. -/
theorem Access.Handles.switched (h : l.Handles s i m)
    (hkind : handlerOf m.pppEventMsg.pppState = .stateChanged) (hnext : l.next b s = some s') :
  i < pppTableLength ∧ ∃ uptime id,
    s'.table i = switchEntry m.pppEventMsg uptime id (s.table i)
  := by
  obtain ⟨point, answers⟩ := l
  obtain rfl := h.point
  obtain ⟨k, k', s₁, hpid, hfound⟩ := h.found
  have hcontract : (contract .event Unrestricted True).Respects answers := fun _ _ _ => trivial
  have hentry : i < pppTableLength ∧ s₁ = s.setLock i (.event :: s.locks i) := by
    apply Contract.wp_exec_ok hcontract (Q := fun r s' => ∀ j, r = some j →
      j < pppTableLength ∧ s' = s.setLock j (.event :: s.locks j)) _ hfound i rfl
    apply wp_getIfaceDataLocked
    · intro _
      nofun
    · intro j _ hj _ j' hj'
      obtain rfl := Option.some.inj hj'
      exact ⟨hj, rfl⟩
  obtain ⟨hi, rfl⟩ := hentry
  use hi
  have hdispatch : dispatchPppState b (i + 1 : ℕ) m.pppEventMsg =
      processStateChangedMsg b (i + 1 : ℕ) m.pppEventMsg := by
    rw [dispatchPppState]
    cases hstate : m.pppEventMsg.pppState <;> rw [hstate] at hkind <;> first | rfl | cases hkind
  obtain ⟨r, k₂, hexec⟩ := exec_of_next_message hnext
  have hpos : ¬ ((i + 1 : ℕ) : ℤ) = -1 ∧ ¬ ((i + 1 : ℕ) : ℤ) ≤ 0 := by
    omega
  rw [processPppState, if_neg (not_not.mpr h.type), Machine.exec_bind, hpid] at hexec
  dsimp only [Except.bind] at hexec
  rw [if_neg hpos.1, hdispatch, processStateChangedMsg, if_neg hpos.2, Int.toNat_natCast,
    Machine.exec_bind, hfound] at hexec
  dsimp only [Except.bind] at hexec
  apply Contract.wp_exec_ok hcontract (Q := fun _ s' => ∃ uptime id,
    s'.table i = switchEntry m.pppEventMsg uptime id (s.table i)) _ hexec
  apply wp_switched (n := (i + 1 : ℕ)) (Int.toNat_natCast _) hi (.inr (.inr trivial))
  intro uptime id r s' _ htable
  rw [htable, Function.update_self]
  exact ⟨uptime, id, rfl⟩

/-- A message that is handled for an entry is for it. -/
theorem Access.Handles.isFor (hs : Numbered s) (h : l.Handles s i m) :
  m.IsFor s i l.ReadsCount
  := by
  obtain ⟨k, k', s₁, hpid, -⟩ := h.found
  have hcontract : (contract .event (fun o x => ∃ k, x = l.answers k o) True).Respects l.answers :=
    fun k o _ => ⟨k, rfl⟩
  apply Contract.wp_exec_ok hcontract (Q := fun n _ => n = ((i + 1 : ℕ) : ℤ) →
    m.IsFor s i l.ReadsCount) _ hpid rfl
  apply wp_getIfaceDataWithPid
  · intro _ hn
    omega
  · intro j hj hcount hjpid hfirst hn
    rw [hs.toInt_instanceNumber hcount] at hn
    obtain rfl := Nat.succ_inj.mp (Int.ofNat_inj.mp hn)
    refine ⟨h.type, hcount, hjpid, ?_⟩
    intro hreads
    apply hfirst
    rintro ⟨k, hk⟩
    rw [hreads k] at hk
    cases hk

/-- The search for a pid finds the first entry that has it, where the number of interfaces is always
read. -/
theorem exec_getIfaceDataWithPidLoop_first {ω : Answers} {pid : ℤ} {n c k : ℕ} (hs : AtRest s)
    (hreads : ∀ k, ω k (.psmGet psmPppManagerPppIfCount) = true) (hi : i < s.pppIfCount.toNat)
    (hfirst : FirstWithPid s pid i) (hn : n ≤ i) (hc : i < n + c) :
  ∃ k', (machine .event).exec ω (getIfaceDataWithPidLoop pid (n + 1) c) k s =
    .ok (((i + 1 : ℕ) : ℤ), s, k')
  := by
  induction c generalizing n k with
  | zero => omega
  | succ c ih =>
      have hcount := Nat.lt_of_le_of_lt hn hi
      have hfree : ∀ t' ∈ s.locks n, t' = Thread.event := owned_of_free (hs.locks n)
      rw [getIfaceDataWithPidLoop, Machine.exec_bind,
        exec_getIfaceDataLocked (hreads k) (hs.index_lt hcount) hcount hfree, hs.locks n]
      dsimp only [Except.bind]
      rw [exec_pidFound (hs.index_lt hcount) (hs.locks n)]
      rcases Nat.eq_or_lt_of_le hn with rfl | hlt
      · rw [if_pos hfirst.1, hs.toInt_instanceNumber hi]
        exact ⟨_, rfl⟩
      · rw [if_neg (hfirst.2 n hlt)]
        apply ih hlt
        omega

/-- A message that is for an entry is handled for it, where the number of interfaces is always
read. -/
theorem Access.handles_of_isFor {ω : Answers} (hs : AtRest s)
    (hreads : Access.ReadsCount ⟨.message m, ω⟩) (h : m.IsFor s i True) :
  Access.Handles ⟨.message m, ω⟩ s i m
  where
    point := rfl
    type := h.type
    found := by
      obtain ⟨k, hloop⟩ := exec_getIfaceDataWithPidLoop_first (n := 0) (k := 1)
        (c := s.pppIfCount.toNat) hs hreads h.covered (h.first trivial) (Nat.zero_le i)
        (by rw [Nat.zero_add]; apply h.covered)
      refine ⟨k, k + 2, s.setLock i (.event :: s.locks i), ?_, ?_⟩
      · rw [getIfaceDataWithPid, Machine.exec_bind, exec_dmlGetTotalNoOfPPPInterfaces,
          if_pos (hreads 0)]
        dsimp only [Except.bind]
        rw [toInt_pppIfCount hs.count_le, Int.toNat_natCast]
        apply hloop
      · apply exec_getIfaceDataLocked (hreads k) (hs.index_lt h.covered) h.covered
        apply owned_of_free (hs.locks i)

theorem connectionMapped_of_handles (hs : Numbered s) (hl : ¬ l.FailsAuth s i)
    (h : HandlesLcp i l s) (hnext : l.next b s = some s') :
  i < pppTableLength ∧ ConnectionMapped ((s'.table i).info.status, (s'.table i).info.connectionStatus)
  := by
  obtain ⟨m, hm, hkind, hauth⟩ := h
  obtain ⟨hi, uptime, id, hentry⟩ := hm.switched hkind hnext
  use hi
  rw [hentry, switchEntry_status]
  apply connectionMapped_statusAfter
  · intro hfailed
    apply hl ⟨m, hm.point, hfailed, hm.isFor hs⟩
  · intro hstate
    apply absurd hstate hauth

theorem connectionMapped_next (hs : Numbered s) (hl : ¬ l.FailsAuth s i)
    (h : ConnectionMapped ((s.table i).info.status, (s.table i).info.connectionStatus))
    (hnext : l.next b s = some s') :
  ConnectionMapped ((s'.table i).info.status, (s'.table i).info.connectionStatus)
  := by
  cases (Access.ends_gets hnext).markStep hs i with
  | kept hmarks =>
      have hpair := (Prod.mk.inj hmarks).1
      rw [hpair]
      apply h
  | stopped hstop hmarks =>
      have hpair := (Prod.mk.inj hmarks).1
      rw [hpair]
      exact ⟨nofun, nofun, nofun⟩
  | switched m uptime id hp hfor hup hentry =>
      rw [hentry, switchEntry_status]
      apply connectionMapped_statusAfter
      · intro hfailed
        apply hl ⟨m, hp, hfailed, hfor.readsCount⟩
      · intro _
        apply h

theorem authenticationProtocol_next (hs : Numbered s)
    (h : (s.table i).info.authenticationProtocol ≠ .unset) (hnext : l.next b s = some s') :
  (s'.table i).info.authenticationProtocol ≠ .unset
  := by
  cases (Access.ends_gets hnext).markStep hs i with
  | kept hmarks =>
      have hauth := congrArg (fun v => v.2.2) hmarks
      apply ne_of_eq_of_ne hauth h
  | stopped hstop hmarks =>
      have hauth := congrArg (fun v => v.2.2) hmarks
      apply ne_of_eq_of_ne hauth h
  | switched m uptime id hp hfor hup hentry =>
      rw [hentry]
      apply authenticationProtocol_switchEntry h

/-! ### Reading the parameters -/

/-- A parameter that is read after `PPPDmlGetIfInfo` is read as it is then. -/
theorem exec_interfaceGetParamUlongValue {ω : Answers} {k : ℕ} (hs : AtRest s)
    (hi : i < pppTableLength) {paramName : CStr}
    (hnames : paramName ≠ "LastChange".toList ∧ paramName ≠ "CurrentMRUSize".toList) {v : ULong}
    (hv : ∀ id, filledUlongParam paramName ((s.table i).filled id) = some v) :
  ∃ s' k', (machine .dataModel).exec ω (interfaceGetParamUlongValue b i paramName) k s =
    .ok (some v, s', k')
  := by
  have hfilled : (filledUlongParam paramName (s.table i)).isSome = true := by
    rw [isSome_filledUlongParam paramName _ ((s.table i).filled none), hv]
    rfl
  apply exec_locked (p := readUlongParam b i paramName) (v := .ok (some v)) hi (hs.locks i)
  obtain ⟨id, k', hfill⟩ := exec_pppDmlGetIfInfo (t := .dataModel) (ω := ω) (k := k + 2)
    (s := s.setLock i [.dataModel]) hi
  use (s.setLock i [.dataModel]).setEntry i ((s.table i).filled id), k' + 1, rfl
  rw [readUlongParam, Machine.exec_bind, exec_load hi]
  dsimp only [Except.bind]
  rw [Sys.setLock_table, if_neg hnames.1, if_neg hnames.2, if_pos hfilled, Machine.exec_bind]
  rw [Sys.setLock_table] at hfill
  rw [hfill]
  dsimp only [Except.bind]
  rw [Machine.exec_bind, exec_load hi]
  dsimp only [Except.bind]
  rw [Machine.exec_pure, Sys.setEntry_table, Function.update_self, hv]
  rfl

/-- The parameters of an interface whose fields have numbers with names have such numbers. -/
theorem givesMapped (hs : AtRest s) (hi : i < pppTableLength)
    (hconn : ConnectionMapped ((s.table i).info.status, (s.table i).info.connectionStatus))
    (hauth : (s.table i).info.authenticationProtocol ≠ .unset) :
  GivesMapped b s i
  := by
  have hread : ∀ (p : CStr × List (String × ULong)) (v : ULong),
      p.1 ≠ "LastChange".toList ∧ p.1 ≠ "CurrentMRUSize".toList →
      (∀ id, filledUlongParam p.1 ((s.table i).filled id) = some v) → v ∈ p.2.map Prod.snd →
      ∀ (ω : Answers) (k : ℕ), ∃ v s' k', (machine .dataModel).exec ω
        (interfaceGetParamUlongValue b i p.1) k s = .ok (some v, s', k') ∧ v ∈ p.2.map Prod.snd := by
    intro p v hnames hv hmem ω k
    obtain ⟨s', k', hexec⟩ := exec_interfaceGetParamUlongValue (b := b) hs hi hnames hv
    exact ⟨v, s', k', hexec, hmem⟩
  rw [GivesMapped, mappedParams, List.forall_mem_cons, List.forall_mem_cons,
    List.forall_mem_singleton]
  refine ⟨?_, ?_, ?_⟩
  · apply hread _ (s.table i).info.status.toULong (by decide) _ ((mem_statusMapping _).mpr hconn.1)
    intro id
    cases id <;> exact if_pos rfl
  · apply hread _ (s.table i).info.connectionStatus.toULong (by decide) _
      ((mem_connectionStatusMapping _).mpr hconn.2)
    intro id
    rw [filledUlongParam, if_neg (by decide)]
    cases id <;> exact if_pos rfl
  · apply hread _ (s.table i).info.authenticationProtocol.toULong (by decide) _
      ((mem_authenticationProtocolMapping _).mpr hauth)
    intro id
    rw [filledUlongParam, if_neg (by decide), if_neg (by decide), if_neg (by decide),
      if_neg (by decide), if_neg (by decide)]
    cases id <;> exact if_pos rfl

end

/-! ### Runs -/

/-- In every state a run reaches in which no message reports that the authentication of the interface
failed, after the interface was started past the checks of its parameters and an LCP message other
than `PPP_LCP_AUTH_COMPLETED` was handled for it, the three parameters have numbers of their
mappings. -/
theorem givesMapped_of_run {b : Build} {i : ℕ} {ls : List Access} {s₀ s : Sys} (hs₀ : Initial s₀)
    (hfails : Throughout (Access.next b) (fun l s => ¬ l.FailsAuth s i) ls s₀)
    (hstarted : Sometime (Access.next b) (StartsPastChecks b i) ls s₀)
    (hhandled : Sometime (Access.next b) (HandlesLcp i) ls s₀)
    (hrun : run (Access.next b) ls s₀ = some s) :
  GivesMapped b s i
  := by
  have hconn : i < pppTableLength ∧
      ConnectionMapped ((s.table i).info.status, (s.table i).info.connectionStatus) := by
    apply run_of_sometime (I := AtRest)
      (P := fun s => i < pppTableLength ∧
        ConnectionMapped ((s.table i).info.status, (s.table i).info.connectionStatus))
      (fun l s s' hs h => hs.next h) _ _ hs₀.atRest hfails hhandled hrun
    · intro l s s' hs hl hhandles hnext
      apply connectionMapped_of_handles hs.toNumbered hl hhandles hnext
    · rintro l s s' hs ⟨hi, hmapped⟩ hl hnext
      exact ⟨hi, connectionMapped_next hs.toNumbered hl hmapped hnext⟩
  have hauth : (s.table i).info.authenticationProtocol ≠ .unset := by
    apply run_of_sometime (I := AtRest) (P := fun s => (s.table i).info.authenticationProtocol ≠ .unset)
      (fun l s s' hs h => hs.next h) _ _ hs₀.atRest hfails hstarted hrun
    · rintro l s s' - - ⟨-, s₁, h₁, hparams⟩ hnext
      obtain rfl := Option.some.inj (h₁.symm.trans hnext)
      apply of_decide_eq_true (Bool.and_eq_true_iff.mp hparams).2
    · intro l s s' hs h _ hnext
      apply authenticationProtocol_next hs.toNumbered h hnext
  apply givesMapped (atRest_of_run hs₀ hrun) hconn.1 hconn.2 hauth

/-! ### A failed authentication -/

/-- The calls of a run that starts the client of the interface 1, whose pid is 7, and hears `pppState`
from it. -/
def startedThen (pppState : PppState) : List Access :=
  [workingCall [pppdProcess 7] (.setter (.interfaceBool 0 "Enable".toList true)), workingCall [pppdProcess 7] .takeEvent,
    workingCall [pppdProcess 7] (.message (stateMessage 7 pppState))]

/-- In the run the interface 1 is started past the checks of its parameters and handles the
message. -/
theorem startedThen_run {pppState : PppState} (hkind : handlerOf pppState = .stateChanged)
    (hauth : pppState ≠ .lcpAuthCompleted) {s : Sys}
    (hrun : run (Access.next (plainBuild false)) (startedThen pppState) (freshState 1) = some s) :
  Sometime (Access.next (plainBuild false)) (StartsPastChecks (plainBuild false) 0)
      (startedThen pppState) (freshState 1) ∧
    Sometime (Access.next (plainBuild false)) (HandlesLcp 0) (startedThen pppState) (freshState 1)
  := by
  obtain ⟨s₁, h₁, hrest⟩ := Option.bind_eq_some_iff.mp hrun
  obtain ⟨s₂, h₂, -⟩ := Option.bind_eq_some_iff.mp hrest
  have hstarts : ((workingCall [pppdProcess 7] (.setter (.interfaceBool 0 "Enable".toList true))).next
      (plainBuild false) (freshState 1)).map (fun s => EntryPoint.takeEvent.starts s) =
        some (some 1) := by
    decide +kernel
  have hstarted : (run (Access.next (plainBuild false))
      [workingCall [pppdProcess 7] (.setter (.interfaceBool 0 "Enable".toList true)), workingCall [pppdProcess 7] .takeEvent]
      (freshState 1)).map (fun s => ((s.table 0).hasPppParams, (s.table 0).info.pppPid,
        decide (0 < s.pppIfCount.toNat))) = some (true, 7, true) := by
    decide +kernel
  rw [h₁] at hstarts
  rw [run, h₁, Option.bind_some, run, h₂] at hstarted
  obtain ⟨hparams, hrest⟩ := Prod.mk.inj (Option.some.inj hstarted)
  obtain ⟨hpid, hcount⟩ := Prod.mk.inj hrest
  constructor
  · exact .inr ⟨s₁, h₁, .inl ⟨Option.some.inj hstarts, s₂, h₂, hparams⟩⟩
  · refine .inr ⟨s₁, h₁, .inr ⟨s₂, h₂, .inl ⟨stateMessage 7 pppState, ?_, hkind, hauth⟩⟩⟩
    have hs : AtRest (freshState 1) := (initial_freshState (by decide)).atRest
    apply Access.handles_of_isFor ((hs.next h₁).next h₂)
    · intro k
      rfl
    · refine ⟨rfl, of_decide_eq_true hcount, hpid, ?_⟩
      intro _
      use hpid
      intro _ h
      cases h

theorem givesMapped_of_run_up :
  ∃ s, run (Access.next (plainBuild false)) (startedThen .interfaceUp) (freshState 1) = some s ∧
    GivesMapped (plainBuild false) s 0
  := by
  have hend : (run (Access.next (plainBuild false)) (startedThen .interfaceUp)
      (freshState 1)).isSome = true := by
    decide +kernel
  obtain ⟨s, hrun⟩ := Option.isSome_iff_exists.mp hend
  obtain ⟨hstarted, hhandled⟩ := startedThen_run rfl (by decide) hrun
  use s, hrun
  apply givesMapped_of_run (initial_freshState (by decide)) _ hstarted hhandled hrun
  apply throughout_of_forall
  rintro l hl s ⟨m, hm, hstate, -⟩
  rw [startedThen, List.mem_cons, List.mem_cons, List.mem_singleton] at hl
  rcases hl with rfl | rfl | rfl
  · cases hm
  · cases hm
  · obtain rfl := EntryPoint.message.inj hm
    cases hstate

/-- After a message that its authentication failed, `ConnectionStatus` of a started interface is 8,
which has no name. -/
theorem authenticationFailed_not_mapped :
  ¬ ∀ (b : Build) (i : ℕ) (ls : List Access) (s₀ s : Sys), Initial s₀ →
    Sometime (Access.next b) (StartsPastChecks b i) ls s₀ →
    Sometime (Access.next b) (HandlesLcp i) ls s₀ → run (Access.next b) ls s₀ = some s →
    GivesMapped b s i
  := by
  intro h
  let ω := (workingOutside 1 none []).answers
  have hend : (run (Access.next (plainBuild false)) (startedThen .interfaceAuthFailed)
      (freshState 1)).map (fun s => ((machine .dataModel).exec ω
        (interfaceGetParamUlongValue (plainBuild false) 0 "ConnectionStatus".toList) 0
          s).toOption.map (fun r => r.1)) = some (some (some 8)) := by
    decide +kernel
  obtain ⟨s, hrun, hget⟩ := Option.map_eq_some_iff.mp hend
  obtain ⟨hstarted, hhandled⟩ := startedThen_run rfl (by decide) hrun
  have hmapped := h _ 0 _ _ s (initial_freshState (by decide)) hstarted hhandled hrun
    ("ConnectionStatus".toList, connectionStatusMapping) (by simp [mappedParams]) ω 0
  obtain ⟨v, s', k', hexec, hmem⟩ := hmapped
  rw [hexec] at hget
  obtain rfl := Option.some.inj (Option.some.inj hget)
  revert hmem
  decide

end PppManager
