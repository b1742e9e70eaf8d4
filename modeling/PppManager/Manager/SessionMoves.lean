import PppManager.Manager.SessionModel
import PppManager.Manager.RejectedParams
import PppManager.Manager.LinkEvents

/-!
# Sessions of the manager

A call of the manager in which the sends succeed is, for each interface, nothing or some of the things
that can happen to its session: a session that described the entry then describes it again, and the
acts of the call that are reports are the reports of what has happened (`Follows`, `Turn.follows`).
-/

namespace PppManager

open Effect Effect.Program Function CText

/-! ### Handling an IPCP message -/

/-- The ways the manager handles an IPCP message for the entry `i`, where the sends succeed. -/
inductive IpcpOutcome (b : Build) (s : Sys) (msg : IpcPppEventMsg) (i : ℕ) : Sys → Prop
  | ignored : IpcpOutcome b s msg i s
  | down (hmsg : msg.pppState = .ipcpCompleted → ¬ msg.pppIpcpMsg.IsAccepted) :
      IpcpOutcome b s msg i (s.post (ipcpEvent b (i + 1 : ℕ) down))
  | accepted (hstate : msg.pppState = .ipcpCompleted) (hmsg : msg.pppIpcpMsg.IsAccepted) :
      IpcpOutcome b s msg i ((s.setEntry i ((s.table i).setAddresses msg.pppIpcpMsg.stored.1)).post
        (ipcpEvent b (i + 1 : ℕ) up))
  | rejected (hmsg : ¬ msg.pppIpcpMsg.IsAccepted) :
      IpcpOutcome b s msg i ((s.setEntry i ((s.table i).setAddresses msg.pppIpcpMsg.stored.1)).post
        (ipcpEvent b (i + 1 : ℕ) down))

section

variable {t : Thread} {b : Build} {s : Sys} {i : ℕ} {A : (o : Op) → o.Ans → Prop} {F : Prop}

/-- A message of the client of the entry `i` with the state of IPCP. -/
theorem wp_processIpcpParams_outcome {msg : IpcPppEventMsg} (hs : Numbered s)
    (hi : i < s.pppIfCount.toNat) :
  (contract t SendsSucceed True).wp (processIpcpParams b (i + 1 : ℕ) msg)
    (fun _ => IpcpOutcome b s msg i) s
  := by
  have hdown : (msg.pppState = .ipcpCompleted → ¬ msg.pppIpcpMsg.IsAccepted) →
      (contract t SendsSucceed True).wp (do
        let _ ← setIPCPStatusDown b (i + 1 : ℕ)
        pure AnscStatus.failure) (fun _ => IpcpOutcome b s msg i) s := by
    intro hmsg
    rw [Contract.wp_bind]
    apply wp_sendDataToQ (.inr trivial)
    intro r hr
    obtain rfl := eq_true_of_sends hr
    apply IpcpOutcome.down hmsg
  rw [processIpcpParams]
  split_ifs with hpos hstate hmissing
  · apply IpcpOutcome.ignored
  · apply hdown
    intro h
    apply absurd h hstate
  · apply hdown
    intro _ haccepted
    apply haccepted.present hmissing
  · rw [Contract.wp_bind]
    apply wp_getIfaceDataLocked
    · intro _
      apply IpcpOutcome.ignored
    · intro j hj hlt _
      obtain rfl : j = i := by
        omega
      apply wp_storeIpcpParams
      apply wp_answerIpcp (o := s.locks j) (.inr trivial)
      · simp
      · intro r hr
        obtain rfl := eq_true_of_sends hr
        have hnumber : toInt ((s.table j).setAddresses
            msg.pppIpcpMsg.stored.1).cfg.instanceNumber = (j + 1 : ℕ) := hs.toInt_instanceNumber hi
        rw [Sys.setEntry_table, update_self, Sys.setLock_table, hnumber, Sys.setEntry_setLock,
          Sys.sent_setLock, Sys.setLock_setLock, Sys.setLock_self _ _ (by simp)]
        have haccepted := msg.pppIpcpMsg.isAccepted_iff hmissing
        cases hstored : msg.pppIpcpMsg.stored.2 with
        | true =>
            rw [hstored] at haccepted
            apply IpcpOutcome.accepted (not_not.mp hstate) (haccepted.mpr rfl)
        | false =>
            rw [hstored] at haccepted
            apply IpcpOutcome.rejected
            intro h
            apply Bool.false_ne_true (haccepted.mp h)

/-- The ways the manager handles an IPv6CP message for the entry `i`, where the sends succeed. -/
inductive Ipv6cpOutcome (b : Build) (s : Sys) (msg : IpcPppEventMsg) (i : ℕ) : Sys → Prop
  | ignored : Ipv6cpOutcome b s msg i s
  | completed (l g : CStr) (hstate : msg.pppState = .ipv6cpCompleted) :
      Ipv6cpOutcome b s msg i (((s.setEntry i (identified l g (s.table i))).emit
        (.generateDuidFile (s.table i).info.name)).post (ipv6cpEvent b (i + 1 : ℕ) up))
  | failed (hstate : msg.pppState ≠ .ipv6cpCompleted) :
      Ipv6cpOutcome b s msg i ((s.emit (.removeDuidFile (s.table i).info.name)).post
        (ipv6cpEvent b (i + 1 : ℕ) down))

/-- A message of the client of the entry `i` with the state of IPv6CP. -/
theorem wp_processIpv6cpParams_outcome {msg : IpcPppEventMsg} (hs : Numbered s)
    (hi : i < s.pppIfCount.toNat) :
  (contract t SendsSucceed True).wp (processIpv6cpParams b (i + 1 : ℕ) msg)
    (fun _ => Ipv6cpOutcome b s msg i) s
  := by
  have hnumber := hs.toInt_instanceNumber hi
  rw [processIpv6cpParams, if_neg (by omega), Contract.wp_bind]
  apply wp_getIfaceDataLocked
  · intro _
    apply Ipv6cpOutcome.ignored
  · intro j hj hlt _
    obtain rfl : j = i := by
      omega
    rw [Contract.wp_bind, wp_load]
    intro _
    dsimp only
    rw [Sys.setLock_table, hnumber]
    split_ifs with hstate
    · rw [Contract.wp_bind]
      apply wp_storeIpv6cpParams
      rw [Contract.wp_bind, wp_generateDuidFile, Contract.wp_bind]
      apply wp_sendDataToQ (.inr trivial)
      intro r hr
      obtain rfl := eq_true_of_sends hr
      rw [if_pos rfl, Contract.wp_bind]
      apply wp_getIfaceDataRelease (l := s.locks j)
      · simp
      · rw [Sys.setEntry_setLock, Sys.emit_setLock, Sys.sent_setLock, Sys.setLock_setLock,
          Sys.setLock_self _ _ (by simp)]
        apply Ipv6cpOutcome.completed _ _ hstate
    · rw [Contract.wp_bind, wp_removeDuidFile, Contract.wp_bind]
      apply wp_sendDataToQ (.inr trivial)
      intro r hr
      obtain rfl := eq_true_of_sends hr
      rw [Contract.wp_bind]
      apply wp_getIfaceDataRelease (l := s.locks j)
      · simp
      · rw [Sys.emit_setLock, Sys.sent_setLock, Sys.setLock_setLock, Sys.setLock_self _ _ (by simp)]
        apply Ipv6cpOutcome.failed hstate

/-- A state message is ignored, or handled for an entry that the PSM count covers. -/
theorem wp_processPppState_of_dispatch {m : IpcMsgPayload} {Q : Sys → Prop} (hs : Numbered s)
    (hignored : Q s)
    (hdispatch : ∀ i < s.pppIfCount.toNat, (s.table i).info.pppPid = m.pppEventMsg.pid →
      (contract t A F).wp (dispatchPppState b (i + 1 : ℕ) m.pppEventMsg) (fun _ => Q) s) :
  (contract t A F).wp (processPppState b m) (fun _ => Q) s
  := by
  rw [processPppState]
  split_ifs
  · apply hignored
  · rw [Contract.wp_bind]
    apply wp_getIfaceDataWithPid
    · intro _
      apply hignored
    · intro i _ hi hpid _
      rw [hs.toInt_instanceNumber hi, if_neg (by omega)]
      apply hdispatch i hi hpid

end

/-! ### Entries and their sessions -/

/-- Where the link of an entry is. -/
def DmlPppIfFull.linkPhase (e : DmlPppIfFull) : LinkPhase :=
  if e.info.status = .up then .up
  else if e.info.connectionStatus.isChanging then .changing
  else .down

/-- The session describes the entry: the link is where the session says, and if the session has
parameters, they were accepted, and their addresses are those of the entry. -/
structure Session.Describes (x : Session PppIpcpMsg) (e : DmlPppIfFull) : Prop where
  link : e.linkPhase = x.link
  parameters : ∀ msg, x.parameters = some msg → msg.IsAccepted ∧ e.addresses = msg.stored.1

instance (msg : PppIpcpMsg) : Decidable msg.IsAccepted :=
  decidable_of_iff ((¬ (msg.ip = [] ∨ msg.gateway = [] ∨ msg.nameserver = [])) ∧
      (strtok '.' msg.ip).length ≤ 4 ∧ (strtok '.' msg.gateway).length ≤ 4 ∧
        strtok ',' msg.nameserver ≠ [])
    ⟨fun ⟨hpresent, hip, hgateway, hnameserver⟩ => ⟨hpresent, hip, hgateway, hnameserver⟩,
      fun ⟨hpresent, hip, hgateway, hnameserver⟩ => ⟨hpresent, hip, hgateway, hnameserver⟩⟩

/-- What can happen to a session where the client reports a state. -/
def IpcPppEventMsg.happenings (msg : IpcPppEventMsg) : List (Happening PppIpcpMsg) :=
  match msg.pppState with
  | .interfaceUp => [.linkUp]
  | .interfaceConnecting => [.linkChanges]
  | .interfaceAuthenticating => [.linkChanges]
  | .interfaceDisconnecting => [.linkChanges]
  | .lcpAuthCompleted => []
  | .ipcpCompleted =>
    if msg.pppIpcpMsg.IsAccepted then [.ipcpUp msg.pppIpcpMsg] else [.ipcpDown]
  | .ipcpFailed => [.ipcpDown]
  | .ipv6cpCompleted => [.ipv6cpUp]
  | .ipv6cpFailed => [.ipv6cpDown]
  | .unknown _ => []
  | _ => [.linkDown]

/-- The call can make it happen to the session of the entry `i`. -/
def Call.MakesHappen (i : ℕ) (s : Sys) : Call → Happening PppIpcpMsg → Prop
  | .message m, h => (s.table i).info.pppPid = m.pppEventMsg.pid ∧ h ∈ m.pppEventMsg.happenings
  | .enable j bValue, h => j = i ∧ bValue = false ∧ h = .stop
  | .reset j _, h => j = i ∧ h = .stop
  | .stop n, h => n = i + 1 ∧ h = .stop
  | _, _ => False

/-- The text of a status. -/
def statusText (isUp : Bool) : CStr :=
  if isUp then up else down

/-- What the manager does for a report about the instance `n`, where `name` is the name whose DUID is
watched, if any is. -/
def Report.act? (b : Build) (n : ℤ) (name : Option CStr) : Report → Option Act
  | .lcp isUp => some (.post (busSetEvent n (pppLcpStatusParamName b) (statusText isUp)))
  | .link isUp => some (.post (busSetEvent n (pppLinkStatusParamName b) (statusText isUp)))
  | .ipcp isUp => some (.post (busSetEvent n (pppIpcpStatusParamName b) (statusText isUp)))
  | .ipv6cp isUp => some (.post (busSetEvent n (pppIpv6cpStatusParamName b) (statusText isUp)))
  | .duid isKept => name.map fun name =>
      if isKept then .generateDuidFile name else .removeDuidFile name

/-- The act is a report about the instance `n`, or about the DUID that is watched. -/
def Act.isReport (n : ℤ) (name : Option CStr) : Act → Bool
  | .post ev => ev.action = .busSet && ev.pppIfInstance = n
  | .generateDuidFile wanName => name = some wanName
  | .removeDuidFile wanName => name = some wanName
  | _ => false

/-- The name whose DUID an act is about. -/
def Act.duidName : Act → Option CStr
  | .generateDuidFile wanName => some wanName
  | .removeDuidFile wanName => some wanName
  | _ => none

/-- The acts are about the DUIDs of entries below the PSM count only. -/
def Sys.OwnDuids (s : Sys) (acts : List Act) : Prop :=
  ∀ a ∈ acts, ∀ w, a.duidName = some w → ∃ j < s.pppIfCount.toNat, (s.table j).info.name = w

/-- The reports in a list of acts. -/
def reported (n : ℤ) (name : Option CStr) (acts : List Act) : List Act :=
  acts.filter (Act.isReport n name)

/-- The DUID that is watched, if any is, is that of the entry `i`, and of no other entry below the PSM
count. -/
def Sys.Watches (i : ℕ) (name : Option CStr) (s : Sys) : Prop :=
  ∀ w, name = some w → (s.table i).info.name = w ∧
    ∀ j < s.pppIfCount.toNat, i ≠ j → (s.table j).info.name ≠ w

/-- What a session depends on of its entry. -/
def DmlPppIfFull.sessionFields (e : DmlPppIfFull) :
    CStr × (DmlIfStatus × DmlPppConnStatus) × SessionAddresses :=
  (e.info.name, e.statuses, e.addresses)

/-- In a step from `s` to `s'`, the things `hs` happen to the session of the entry `i`. -/
structure Follows (b : Build) (i : ℕ) (name : Option CStr) (hs : List (Happening PppIpcpMsg))
    (s s' : Sys) : Prop where
  describes : ∀ x : Session PppIpcpMsg, x.Describes (s.table i) →
    (sessions.after hs x).Describes (s'.table i)
  reports : reported (i + 1 : ℕ) name s'.acts = reported (i + 1 : ℕ) name s.acts ++
    (hs.flatMap Happening.reports).filterMap (Report.act? b (i + 1 : ℕ) name)
  names : ∀ j, (s'.table j).info.name = (s.table j).info.name
  duids : ∃ added, s'.acts = s.acts ++ added ∧ s.OwnDuids added

section

variable {b : Build} {s s' : Sys} {i j : ℕ} {n k : ℤ} {name : Option CStr} {acts : List Act}
  {hs : List (Happening PppIpcpMsg)}

/-! ### Reports -/

theorem reported_append (acts acts' : List Act) :
  reported n name (acts ++ acts') = reported n name acts ++ reported n name acts'
  := List.filter_append acts acts'

/-- The acts that are added are no reports. -/
theorem reported_none {added : List Act} (h : ∀ a ∈ added, a.isReport n name = false) :
  reported n name (acts ++ added) = reported n name acts
  := by
  rw [reported_append]
  convert List.append_nil _
  apply List.filter_eq_nil_iff.mpr
  intro a ha
  rw [h a ha]
  apply Bool.false_ne_true

/-- The reports about an instance, as far as its DUID is watched. -/
theorem reported_acts {w : CStr} (hname : ∀ w', name = some w' → w' = w) (rs : List Report) :
  reported n name (rs.filterMap (Report.act? b n (some w))) = rs.filterMap (Report.act? b n name)
  := by
  rw [reported, List.filter_filterMap]
  congr 1
  funext r
  cases r with
  | duid isKept =>
      cases name with
      | none => cases isKept <;> rfl
      | some w' =>
          obtain rfl := hname w' rfl
          cases isKept <;> simp [Report.act?, Act.isReport]
  | _ => simp [Report.act?, Act.isReport, busSetEvent]

/-- The reports about another instance, whose DUID is not watched. -/
theorem reported_acts_of_ne {w : CStr} (hk : k ≠ n) {rs : List Report}
    (hname : (∀ r ∈ rs, r.duid? = none) ∨ name ≠ some w) :
  reported n name (rs.filterMap (Report.act? b k (some w))) = []
  := by
  rw [reported, List.filter_filterMap, List.filterMap_eq_nil_iff]
  intro r hr
  cases r with
  | duid isKept =>
      have hne : name ≠ some w := hname.resolve_left (fun h => Option.some_ne_none _ (h _ hr))
      cases isKept <;> simp [Report.act?, Act.isReport, hne]
  | _ => simp [Report.act?, Act.isReport, busSetEvent, hk]

/-- Acts that are no reports are about no DUID. -/
theorem ownDuids_of_quiet {quiet : List Act} (h : ∀ a ∈ quiet, ∀ n name, a.isReport n name = false) :
  s.OwnDuids quiet
  := by
  intro a ha w hw
  have hquiet := h a ha 0 (some w)
  cases a with
  | generateDuidFile w' | removeDuidFile w' =>
      obtain rfl := Option.some.inj hw
      simp [Act.isReport] at hquiet
  | _ => cases hw

theorem Sys.OwnDuids.append {acts' : List Act} (h : s.OwnDuids acts) (h' : s.OwnDuids acts') :
  s.OwnDuids (acts ++ acts')
  := by
  intro a ha
  rcases List.mem_append.mp ha with ha | ha
  · apply h a ha
  · apply h' a ha

/-- The reports about an entry are about its DUID. -/
theorem ownDuids_reports {rs : List Report}
    (h : (∀ r ∈ rs, r.duid? = none) ∨ j < s.pppIfCount.toNat) :
  s.OwnDuids (rs.filterMap (Report.act? b n (some (s.table j).info.name)))
  := by
  intro a ha w hw
  obtain ⟨r, hr, hact⟩ := List.mem_filterMap.mp ha
  cases r with
  | duid isKept =>
      have hj := h.resolve_left (fun hnone => Option.some_ne_none _ (hnone _ hr))
      refine ⟨j, hj, ?_⟩
      obtain rfl := Option.some.inj hact
      cases isKept <;> exact Option.some.inj hw
  | _ =>
      obtain rfl := Option.some.inj hact
      cases hw

theorem isReport_stopAct (e : DmlPppIfFull) :
  (stopAct b e).isReport n name = false
  := by
  rw [stopAct]
  split_ifs <;> rfl

/-! ### Steps -/

/-- Nothing happens to a session whose entry and reports stay as they are. -/
theorem follows_nil (quiet : List Act)
    (hentries : ∀ j, (s'.table j).sessionFields = (s.table j).sessionFields)
    (hacts : s'.acts = s.acts ++ quiet) (hquiet : ∀ a ∈ quiet, ∀ n name, a.isReport n name = false) :
  Follows b i name [] s s'
  := by
  obtain ⟨-, hrest⟩ := Prod.mk.inj (hentries i)
  obtain ⟨hstatuses, haddresses⟩ := Prod.mk.inj hrest
  obtain ⟨hstatus, hconnection⟩ := Prod.mk.inj hstatuses
  constructor
  · intro x hx
    constructor
    · rw [DmlPppIfFull.linkPhase, hstatus, hconnection]
      apply hx.link
    · rw [haddresses]
      apply hx.parameters
  · rw [hacts, reported_none]
    · symm
      apply List.append_nil
    · intro a ha
      apply hquiet a ha
  · intro j
    apply congrArg Prod.fst (hentries j)
  · exact ⟨quiet, hacts, ownDuids_of_quiet hquiet⟩

/-- Nothing happens to a session where nothing is done. -/
theorem follows_rfl :
  Follows b i name [] s s
  := by
  apply follows_nil [] (fun _ => rfl) (List.append_nil _).symm
  rintro a ⟨⟩

theorem Follows.trans {s₁ : Sys} {hs' : List (Happening PppIpcpMsg)} (h : Follows b i name hs s s₁)
    (hpsm : s₁.psm = s.psm) (h' : Follows b i name hs' s₁ s') :
  Follows b i name (hs ++ hs') s s'
  where
    describes := by
      intro x hx
      rw [Transducer.after_append]
      apply h'.describes _ (h.describes x hx)
    reports := by
      rw [h'.reports, h.reports, List.flatMap_append, List.filterMap_append, List.append_assoc]
    names := fun j => (h'.names j).trans (h.names j)
    duids := by
      obtain ⟨added, hacts, hduids⟩ := h.duids
      obtain ⟨added', hacts', hduids'⟩ := h'.duids
      refine ⟨added ++ added', ?_, hduids.append ?_⟩
      · rw [hacts', hacts, List.append_assoc]
      · intro a ha w hw
        obtain ⟨j, hj, hname⟩ := hduids' a ha w hw
        rw [Sys.pppIfCount, hpsm] at hj
        rw [h.names] at hname
        exact ⟨j, hj, hname⟩

/-- The entry `j` becomes `e`, and the manager makes the reports of `hs`, beside acts that are no
reports. -/
theorem follows_step (hwatched : s.Watches i name) (j : ℕ) (e : DmlPppIfFull) (quiet : List Act)
    (hs : List (Happening PppIpcpMsg)) (htable : s'.table = update s.table j e)
    (hacts : s'.acts = s.acts ++ quiet ++ (hs.flatMap Happening.reports).filterMap
      (Report.act? b (j + 1 : ℕ) (some (s.table j).info.name)))
    (hquiet : ∀ a ∈ quiet, ∀ n name, a.isReport n name = false)
    (hname : e.info.name = (s.table j).info.name)
    (hdescribes : ∀ x : Session PppIpcpMsg, x.Describes (s.table j) →
      (sessions.after hs x).Describes e)
    (hduid : (∀ r ∈ hs.flatMap Happening.reports, r.duid? = none) ∨ j < s.pppIfCount.toNat) :
  ∃ hs', (∀ h ∈ hs', i = j ∧ h ∈ hs) ∧ Follows b i name hs' s s'
  := by
  have hnames : ∀ k, (s'.table k).info.name = (s.table k).info.name := by
    intro k
    rw [htable]
    by_cases hkj : k = j
    · rw [hkj, update_self, hname]
    · rw [update_of_ne hkj]
  have hduids : ∃ added, s'.acts = s.acts ++ added ∧ s.OwnDuids added := by
    refine ⟨quiet ++ (hs.flatMap Happening.reports).filterMap
      (Report.act? b (j + 1 : ℕ) (some (s.table j).info.name)), ?_, ?_⟩
    · rw [hacts, List.append_assoc]
    · apply (ownDuids_of_quiet hquiet).append (ownDuids_reports hduid)
  by_cases hij : i = j
  · obtain rfl := hij
    refine ⟨hs, fun h hh => ⟨rfl, hh⟩, ?_, ?_, hnames, hduids⟩
    · rw [htable, update_self]
      apply hdescribes
    · rw [hacts, reported_append, reported_none, reported_acts]
      · intro w hw
        apply (hwatched w hw).1.symm
      · intro a ha
        apply hquiet a ha
  · refine ⟨[], ?_, ?_, ?_, hnames, hduids⟩
    · rintro h ⟨⟩
    · rw [htable, update_of_ne hij]
      intro x hx
      apply hx
    · rw [hacts, reported_append, reported_none, reported_acts_of_ne]
      · rfl
      · omega
      · apply hduid.imp_right
        intro hj hw
        apply (hwatched _ hw).2 j hj hij rfl
      · intro a ha
        apply hquiet a ha

/-- The entry `j` becomes `e`, with the same session, and nothing is reported. -/
theorem follows_quiet (j : ℕ) (e : DmlPppIfFull) (quiet : List Act)
    (htable : s'.table = update s.table j e) (hacts : s'.acts = s.acts ++ quiet)
    (hquiet : ∀ a ∈ quiet, ∀ n name, a.isReport n name = false)
    (he : e.sessionFields = (s.table j).sessionFields) :
  Follows b i name [] s s'
  := by
  apply follows_nil quiet _ hacts hquiet
  intro k
  rw [htable]
  by_cases hkj : k = j
  · rw [hkj, update_self, he]
  · rw [update_of_ne hkj]

theorem EnqueueEnds.follows {n : ℕ} {q : AnscStatus} {A : (o : Op) → o.Ans → Prop}
    (h : EnqueueEnds A s n q s') (i : ℕ) :
  Follows b i name [] s s'
  := by
  cases h with
  | noEntry | refused => apply follows_rfl
  | posted j =>
      apply follows_quiet j ((s.table j).setBEnabled true) _ rfl rfl _ rfl
      intro a ha n name
      rw [List.mem_singleton.mp ha]
      rfl

theorem StartEnds.follows {n : ℕ} {q : AnscStatus} {A : (o : Op) → o.Ans → Prop}
    (h : StartEnds A b s n q s') (i : ℕ) :
  Follows b i name [] s s'
  := by
  cases h with
  | noWanIface | alreadyRunning => apply follows_rfl
  | rejected j e hn hj hstopped he =>
      obtain ⟨u, p, -, rfl⟩ := he
      apply follows_quiet j _ []
      · rfl
      · symm
        apply List.append_nil
      · rintro a ⟨⟩
      · rfl
  | launched j e cs command r w v hn hj hstopped he =>
      obtain ⟨u, p, -, rfl⟩ := he
      apply follows_quiet j
      · rfl
      · rfl
      · intro a ha n name
        obtain ⟨c, -, rfl⟩ := List.mem_map.mp ha
        rfl
      · rfl

theorem EventEnds.follows {ev : PppEventQData} {q : AnscStatus} {A : (o : Op) → o.Ans → Prop}
    (h : EventEnds A b s ev q s') (i : ℕ) :
  Follows b i name [] s s'
  := by
  cases h with
  | invalid => apply follows_rfl
  | busSet =>
      apply follows_nil [.busSet _ _ _ _]
      · intro _
        rfl
      · rfl
      · intro a ha n name
        rw [List.mem_singleton.mp ha]
        rfl
  | exec _ _ _ _ h => apply h.follows i

/-- A stop. -/
theorem StopEnds.follows {n : ℕ} {q : AnscStatus} (h : StopEnds SendsSucceed b s n q s')
    (hwatched : s.Watches i name) :
  ∃ hs, (∀ h ∈ hs, n = i + 1 ∧ h = .stop) ∧ Follows b i name hs s s'
  := by
  cases h with
  | noEntry =>
      refine ⟨[], ?_, follows_rfl⟩
      rintro h ⟨⟩
  | stopped j r₁ r₂ r₃ hn hj h₁ h₂ h₃ =>
      obtain rfl := hn
      obtain rfl := eq_true_of_sends h₁
      obtain rfl := eq_true_of_sends h₂
      obtain rfl := eq_true_of_sends h₃
      have hacts : (stoppedState b j (j + 1) true true true s).acts =
          s.acts ++ [stopAct b (s.table j)] ++
            (([.stop] : List (Happening PppIpcpMsg)).flatMap Happening.reports).filterMap
              (Report.act? b (j + 1 : ℕ) (some (s.table j).info.name)) := by
        rw [← toInt_eq hj, List.append_assoc]
        simp [stoppedState, Happening.reports, Report.act?, statusText, Sys.sent]
      obtain ⟨hs, hmem, hfollows⟩ : ∃ hs', (∀ h ∈ hs', i = j ∧ h ∈ [.stop]) ∧
          Follows b i name hs' s (stoppedState b j (j + 1) true true true s) := by
        apply follows_step hwatched j (stoppedEntry b (s.table j)) _ _ rfl hacts
        · intro a ha n name
          rw [List.mem_singleton.mp ha]
          apply isReport_stopAct
        · rw [stoppedEntry]
          split_ifs <;> rfl
        · intro x _
          rw [stoppedEntry]
          constructor
          · split_ifs <;> rfl
          · rintro msg ⟨⟩
        · left
          simp [Happening.reports, Report.duid?]
      refine ⟨hs, ?_, hfollows⟩
      intro h hh
      obtain ⟨rfl, hstop⟩ := hmem h hh
      exact ⟨rfl, List.mem_singleton.mp hstop⟩

theorem ResetEnds.follows {n : ℕ} {r : Bool} (h : ResetEnds SendsSucceed b s n r s')
    (hwatched : s.Watches i name) :
  ∃ hs, (∀ h ∈ hs, n = i + 1 ∧ h = .stop) ∧ Follows b i name hs s s'
  := by
  cases h with
  | notStopped h => apply h.follows hwatched
  | stopped h h' =>
      obtain ⟨hs, hmem, hfollows⟩ := h.follows hwatched
      refine ⟨hs ++ [], ?_, hfollows.trans h.psm (h'.follows i)⟩
      rw [List.append_nil]
      apply hmem

/-! ### State messages -/

theorem sessionFields_switchEntry (msg : IpcPppEventMsg) (uptime : ULong) (id : Option ULong)
    (e : DmlPppIfFull) :
  (switchEntry msg uptime id e).info.name = e.info.name ∧
    (switchEntry msg uptime id e).addresses = e.addresses
  := by
  rw [switchEntry]
  cases msg.pppState with
  | interfaceUp => cases id <;> exact ⟨rfl, rfl⟩
  | lcpAuthCompleted =>
      dsimp only
      split_ifs <;> exact ⟨rfl, rfl⟩
  | _ => exact ⟨rfl, rfl⟩

/-- A state of the link leads the session where it leads the entry. -/
theorem describes_switchEntry {msg : IpcPppEventMsg} (hkind : handlerOf msg.pppState = .stateChanged)
    (uptime : ULong) (id : Option ULong) {e : DmlPppIfFull} {x : Session PppIpcpMsg}
    (hx : x.Describes e) :
  (sessions.after msg.happenings x).Describes (switchEntry msg uptime id e)
  := by
  obtain ⟨hlink, hparameters⟩ := hx
  have hstatuses := statuses_switchEntry msg uptime id e
  obtain ⟨hstatus, hconnection⟩ := Prod.mk.inj hstatuses
  constructor
  · rw [DmlPppIfFull.linkPhase, hstatus, hconnection, IpcPppEventMsg.happenings]
    cases hstate : msg.pppState with
    | lcpAuthCompleted => apply hlink
    | ipcpCompleted | ipcpFailed | ipv6cpCompleted | ipv6cpFailed | unknown =>
        rw [hstate] at hkind
        cases hkind
    | _ => rfl
  · rw [(sessionFields_switchEntry msg uptime id e).2, IpcPppEventMsg.happenings]
    cases hstate : msg.pppState with
    | ipcpCompleted | ipcpFailed | ipv6cpCompleted | ipv6cpFailed | unknown =>
        rw [hstate] at hkind
        cases hkind
    | _ => apply hparameters

/-- What the switch does beside its writes to the entry and the database. -/
def switchActs (msg : IpcPppEventMsg) : List Act :=
  match msg.pppState with
  | .interfaceAuthFailed => [.system pppoeStop]
  | _ => []

theorem switchState_acts (j : ℕ) (msg : IpcPppEventMsg) (uptime : ULong) (id : Option ULong)
    (w : Bool) (s : Sys) :
  (switchState j msg uptime id w s).acts = s.acts ++ switchActs msg
  := by
  rw [switchState, switchActs]
  cases msg.pppState with
  | interfaceUp => cases w <;> apply (List.append_nil _).symm
  | interfaceAuthFailed => rfl
  | _ => apply (List.append_nil _).symm

theorem not_isReport_switchActs {msg : IpcPppEventMsg} :
  ∀ a ∈ switchActs msg, ∀ n name, a.isReport n name = false
  := by
  intro a ha n name
  rw [switchActs] at ha
  cases hstate : msg.pppState with
  | interfaceAuthFailed =>
      rw [hstate] at ha
      rw [List.mem_singleton.mp ha]
      rfl
  | _ =>
      rw [hstate] at ha
      cases ha

/-- The reports of a state of the link, for which the WAN manager is told nothing or a status. -/
theorem reports_happenings {msg : IpcPppEventMsg} (hkind : handlerOf msg.pppState = .stateChanged) :
  (linkStatus msg.pppState = none → msg.happenings.flatMap Happening.reports = []) ∧
    ∀ v, linkStatus msg.pppState = some v → ∃ isUp, v = statusText isUp ∧
      msg.happenings.flatMap Happening.reports = [.lcp isUp, .link isUp]
  := by
  rw [IpcPppEventMsg.happenings]
  cases hstate : msg.pppState with
  | interfaceUp =>
      constructor
      · rintro ⟨⟩
      · rintro v ⟨⟩
        exact ⟨true, rfl, rfl⟩
  | interfaceConnecting | interfaceAuthenticating | interfaceDisconnecting | lcpAuthCompleted =>
      constructor
      · intro _
        rfl
      · rintro v ⟨⟩
  | ipcpCompleted | ipcpFailed | ipv6cpCompleted | ipv6cpFailed | unknown =>
      rw [hstate] at hkind
      cases hkind
  | _ =>
      constructor
      · rintro ⟨⟩
      · rintro v ⟨⟩
        exact ⟨false, rfl, rfl⟩

/-- The handling of a state of the link. -/
theorem StateChangedEnds.follows {msg : IpcPppEventMsg} {q : AnscStatus} (hnumbered : Numbered s)
    (hkind : handlerOf msg.pppState = .stateChanged) {k : ℕ} (hk : k < s.pppIfCount.toNat)
    (h : StateChangedEnds SendsSucceed b s (k + 1 : ℕ) msg q s') (hwatched : s.Watches i name) :
  ∃ hs, (∀ h ∈ hs, i = k ∧ h ∈ msg.happenings) ∧ Follows b i name hs s s'
  := by
  obtain ⟨hquiet, htold⟩ := reports_happenings hkind
  cases h with
  | noEntry =>
      refine ⟨[], ?_, follows_rfl⟩
      rintro h ⟨⟩
  | quiet j uptime id w hn hj hlink =>
      obtain rfl : k = j := by
        omega
      apply follows_step hwatched k (switchEntry msg uptime id (s.table k)) (switchActs msg)
      · apply switchState_table
      · rw [switchState_acts, hquiet hlink]
        symm
        apply List.append_nil
      · apply not_isReport_switchActs
      · apply (sessionFields_switchEntry msg uptime id (s.table k)).1
      · intro x hx
        apply describes_switchEntry hkind uptime id hx
      · left
        rw [hquiet hlink]
        rintro r ⟨⟩
  | refused j uptime id w v hn hj hlink hw hfail => apply absurd hfail (not_canFail _)
  | told j uptime id w v r hn hj hlink hw hr =>
      obtain rfl : k = j := by
        omega
      obtain rfl := eq_true_of_sends hr
      obtain ⟨isUp, rfl, hreports⟩ := htold v hlink
      apply follows_step hwatched k (switchEntry msg uptime id (s.table k)) (switchActs msg)
      · rw [Sys.sent_table, Sys.post_table, switchState_table]
      · rw [hreports, ← switchState_acts k _ uptime id w s, Sys.sent_acts, if_pos rfl,
          Sys.post_acts, lcpEvent, linkEvent, hnumbered.toInt_instanceNumber hk, List.append_assoc]
        rfl
      · apply not_isReport_switchActs
      · apply (sessionFields_switchEntry msg uptime id (s.table k)).1
      · intro x hx
        apply describes_switchEntry hkind uptime id hx
      · left
        rw [hreports]
        simp [Report.duid?]

/-- The handling of an IPCP message. -/
theorem IpcpOutcome.follows {msg : IpcPppEventMsg} (hkind : handlerOf msg.pppState = .ipcp)
    (h : IpcpOutcome b s msg j s') (hwatched : s.Watches i name) :
  ∃ hs, (∀ h ∈ hs, i = j ∧ h ∈ msg.happenings) ∧ Follows b i name hs s s'
  := by
  have hdown : (msg.pppState = .ipcpCompleted → ¬ msg.pppIpcpMsg.IsAccepted) →
      .ipcpDown ∈ msg.happenings := by
    intro hmsg
    rw [IpcPppEventMsg.happenings]
    cases hstate : msg.pppState with
    | ipcpCompleted =>
        dsimp only
        rw [if_neg (hmsg hstate)]
        apply List.mem_cons_self
    | ipcpFailed => apply List.mem_cons_self
    | _ =>
        rw [hstate] at hkind
        cases hkind
  have hquiet : ∀ a ∈ ([] : List Act), ∀ n name, a.isReport n name = false := by
    rintro a ⟨⟩
  have hfollows : ∀ {h : Happening PppIpcpMsg}, h ∈ msg.happenings →
      (∃ hs', (∀ h' ∈ hs', i = j ∧ h' ∈ [h]) ∧ Follows b i name hs' s s') →
      ∃ hs, (∀ h ∈ hs, i = j ∧ h ∈ msg.happenings) ∧ Follows b i name hs s s' := by
    rintro h hmem ⟨hs, hhs, hfollows⟩
    refine ⟨hs, ?_, hfollows⟩
    intro h' hh'
    obtain ⟨hij, hsingle⟩ := hhs h' hh'
    rw [List.mem_singleton.mp hsingle]
    exact ⟨hij, hmem⟩
  cases h with
  | ignored =>
      refine ⟨[], ?_, follows_rfl⟩
      rintro h ⟨⟩
  | down hmsg =>
      apply hfollows (hdown hmsg)
      apply follows_step hwatched j (s.table j) []
      · symm
        apply update_eq_self
      · rw [List.append_nil]
        rfl
      · apply hquiet
      · rfl
      · intro x hx
        use hx.link
        rintro msg ⟨⟩
      · left
        simp [Happening.reports, Report.duid?]
  | accepted hstate hmsg =>
      have hup : .ipcpUp msg.pppIpcpMsg ∈ msg.happenings := by
        rw [IpcPppEventMsg.happenings, hstate]
        dsimp only
        rw [if_pos hmsg]
        apply List.mem_cons_self
      apply hfollows hup
      apply follows_step hwatched j ((s.table j).setAddresses msg.pppIpcpMsg.stored.1) []
      · rfl
      · rw [List.append_nil]
        rfl
      · apply hquiet
      · rfl
      · intro x hx
        use hx.link
        rintro _ ⟨⟩
        exact ⟨hmsg, rfl⟩
      · left
        simp [Happening.reports, Report.duid?]
  | rejected hmsg =>
      apply hfollows (hdown fun _ => hmsg)
      apply follows_step hwatched j ((s.table j).setAddresses msg.pppIpcpMsg.stored.1) []
      · rfl
      · rw [List.append_nil]
        rfl
      · apply hquiet
      · rfl
      · intro x hx
        use hx.link
        rintro msg ⟨⟩
      · left
        simp [Happening.reports, Report.duid?]

/-- The handling of an IPv6CP message. -/
theorem Ipv6cpOutcome.follows {msg : IpcPppEventMsg} (hkind : handlerOf msg.pppState = .ipv6cp)
    (hj : j < s.pppIfCount.toNat) (h : Ipv6cpOutcome b s msg j s') (hwatched : s.Watches i name) :
  ∃ hs, (∀ h ∈ hs, i = j ∧ h ∈ msg.happenings) ∧ Follows b i name hs s s'
  := by
  have hquiet : ∀ a ∈ ([] : List Act), ∀ n name, a.isReport n name = false := by
    rintro a ⟨⟩
  cases h with
  | ignored =>
      refine ⟨[], ?_, follows_rfl⟩
      rintro h ⟨⟩
  | completed l g hstate =>
      have hup : msg.happenings = [.ipv6cpUp] := by
        rw [IpcPppEventMsg.happenings, hstate]
      rw [hup]
      apply follows_step hwatched j (identified l g (s.table j)) []
      · rfl
      · rw [List.append_nil, Sys.post_acts, Sys.emit_acts, List.append_assoc]
        rfl
      · apply hquiet
      · rfl
      · intro x hx
        exact ⟨hx.link, hx.parameters⟩
      · right
        apply hj
  | failed hstate =>
      have hdown : msg.happenings = [.ipv6cpDown] := by
        rw [IpcPppEventMsg.happenings]
        cases hcase : msg.pppState with
        | ipv6cpFailed => rfl
        | ipv6cpCompleted => apply absurd hcase hstate
        | _ =>
            rw [hcase] at hkind
            cases hkind
      rw [hdown]
      apply follows_step hwatched j (s.table j) []
      · symm
        apply update_eq_self
      · rw [List.append_nil, Sys.post_acts, Sys.emit_acts, List.append_assoc]
        rfl
      · apply hquiet
      · rfl
      · intro x hx
        exact ⟨hx.link, hx.parameters⟩
      · right
        apply hj

/-- The handling of a state message. -/
theorem wp_processPppState_follows {t : Thread} {m : IpcMsgPayload} (hnumbered : Numbered s)
    (hwatched : s.Watches i name) :
  (contract t SendsSucceed True).wp (processPppState b m) (fun _ s' =>
    ∃ hs, (∀ h ∈ hs, (s.table i).info.pppPid = m.pppEventMsg.pid ∧ h ∈ m.pppEventMsg.happenings) ∧
      Follows b i name hs s s') s
  := by
  apply wp_processPppState_of_dispatch hnumbered
  · refine ⟨[], ?_, follows_rfl⟩
    rintro h ⟨⟩
  · intro k hk hpid
    have hdone : ∀ s', (∃ hs, (∀ h ∈ hs, i = k ∧ h ∈ m.pppEventMsg.happenings) ∧
        Follows b i name hs s s') →
        ∃ hs, (∀ h ∈ hs, (s.table i).info.pppPid = m.pppEventMsg.pid ∧
          h ∈ m.pppEventMsg.happenings) ∧ Follows b i name hs s s' := by
      rintro s' ⟨hs, hmem, hfollows⟩
      refine ⟨hs, ?_, hfollows⟩
      intro h hh
      obtain ⟨rfl, hhappening⟩ := hmem h hh
      exact ⟨hpid, hhappening⟩
    rw [dispatchPppState]
    have hchanged : handlerOf m.pppEventMsg.pppState = .stateChanged →
        (contract t SendsSucceed True).wp (processStateChangedMsg b (k + 1 : ℕ) m.pppEventMsg)
          (fun _ s' => ∃ hs, (∀ h ∈ hs, (s.table i).info.pppPid = m.pppEventMsg.pid ∧
            h ∈ m.pppEventMsg.happenings) ∧ Follows b i name hs s s') s := by
      intro hkind
      apply wp_processStateChangedMsg (.inr (.inr trivial))
      intro q s' hends
      apply hdone s' (hends.follows hnumbered hkind hk hwatched)
    have hipcp : handlerOf m.pppEventMsg.pppState = .ipcp →
        (contract t SendsSucceed True).wp (processIpcpParams b (k + 1 : ℕ) m.pppEventMsg)
          (fun _ s' => ∃ hs, (∀ h ∈ hs, (s.table i).info.pppPid = m.pppEventMsg.pid ∧
            h ∈ m.pppEventMsg.happenings) ∧ Follows b i name hs s s') s := by
      intro hkind
      apply Contract.wp_mono _ (wp_processIpcpParams_outcome hnumbered hk)
      intro q s' houtcome
      apply hdone s' (houtcome.follows hkind hwatched)
    have hipv6cp : handlerOf m.pppEventMsg.pppState = .ipv6cp →
        (contract t SendsSucceed True).wp (processIpv6cpParams b (k + 1 : ℕ) m.pppEventMsg)
          (fun _ s' => ∃ hs, (∀ h ∈ hs, (s.table i).info.pppPid = m.pppEventMsg.pid ∧
            h ∈ m.pppEventMsg.happenings) ∧ Follows b i name hs s s') s := by
      intro hkind
      apply Contract.wp_mono _ (wp_processIpv6cpParams_outcome hnumbered hk)
      intro q s' houtcome
      apply hdone s' (houtcome.follows hkind hk hwatched)
    cases hstate : m.pppEventMsg.pppState with
    | ipcpCompleted | ipcpFailed =>
        apply hipcp
        rw [hstate]
        rfl
    | ipv6cpCompleted | ipv6cpFailed =>
        apply hipv6cp
        rw [hstate]
        rfl
    | unknown code =>
        refine ⟨[], ?_, follows_rfl⟩
        rintro h ⟨⟩
    | _ =>
        apply hchanged
        rw [hstate]
        rfl

/-! ### Runs -/

/-- What the rules say about the call of a turn holds of the turn. -/
theorem Turn.next_of_wp {A : (o : Op) → o.Ans → Prop} {l : Turn} (hl : l.Allowed A) {Q : Sys → Prop}
    (hwp : (contract l.call.thread A True).wp (l.call.code b) (fun _ => Q) s)
    (h : l.next b s = some s') :
  Q s'
  := by
  obtain ⟨⟨r, s₁⟩, htake, rfl⟩ := Option.map_eq_some_iff.mp h
  rw [Turn.take] at htake
  cases hexec : (machine l.call.thread).exec l.answers (l.call.code b) 0 s with
  | error e =>
      rw [hexec] at htake
      cases htake
  | ok q =>
      rw [hexec] at htake
      obtain ⟨rfl, rfl⟩ := Prod.mk.inj (Option.some.inj htake)
      apply Contract.wp_exec_ok (C := contract l.call.thread A True) hl hwp hexec

/-- What happens to the sessions in a turn. -/
theorem Turn.follows {l : Turn} (hl : l.Allowed SendsSucceed) (hnumbered : Numbered s)
    (hcall : l.call.Handles s) (h : l.next b s = some s') (hwatched : s.Watches i name) :
  ∃ hs, (∀ h ∈ hs, l.call.MakesHappen i s h) ∧ Follows b i name hs s s'
  := by
  obtain ⟨r, hends⟩ := Turn.next_ends hl h
  obtain ⟨call, x⟩ := l
  dsimp only at hends
  have hnothing : Follows b i name [] s s' →
      ∃ hs, (∀ h ∈ hs, call.MakesHappen i s h) ∧ Follows b i name hs s s' := by
    intro hfollows
    refine ⟨[], ?_, hfollows⟩
    rintro h ⟨⟩
  cases hends with
  | enable hends =>
      cases hends with
      | start hends => apply hnothing (hends.follows i)
      | stop hends =>
          obtain ⟨hs, hmem, hfollows⟩ := hends.follows hwatched
          refine ⟨hs, ?_, hfollows⟩
          intro h hh
          obtain ⟨hn, hstop⟩ := hmem h hh
          rw [hnumbered.instanceNumber _ hcall] at hn
          exact ⟨Nat.succ.inj hn, rfl, hstop⟩
  | resetIgnored => apply hnothing follows_rfl
  | reset henabled hends =>
      obtain ⟨hs, hmem, hfollows⟩ := hends.follows hwatched
      refine ⟨hs, ?_, hfollows⟩
      intro h hh
      obtain ⟨hn, hstop⟩ := hmem h hh
      rw [hnumbered.instanceNumber _ hcall] at hn
      exact ⟨Nat.succ.inj hn, hstop⟩
  | @message m q s' hends =>
      apply Turn.next_of_wp hl _ h
      rw [Call.code, Contract.wp_map]
      apply wp_processPppState_follows hnumbered hwatched
  | queueEmpty => apply hnothing follows_rfl
  | queueEvent hqueue hends =>
      apply hnothing
      obtain ⟨hdescribes, hreports, hnames, hduids⟩ := hends.follows (b := b) (i := i)
      exact ⟨hdescribes, hreports, hnames, hduids⟩
  | start hends => apply hnothing (hends.follows i)
  | stop hends => apply hends.follows hwatched

end

end PppManager
