import PppManager.Manager.LostEvents

/-!
# Resets

`PppDmlIfReset` stops the client of an interface and then asks for a start.  The stop disables the
interface, and only a request that goes through enables it again, so a reset whose request fails
leaves the interface stopped and disabled (`keepsEnabled_iff`).
-/

namespace PppManager

open Effect Effect.Program Function CText

/-! ### The moments of a reset -/

/-- The moment a stop that begins at `k` ends: the lookup takes two operations, the stop of the client
one or three, the writes to the entry and the release another three, and then three events are sent. -/
def afterStop (b : Build) (ω : Answers) (k : ℕ) : ℕ :=
  afterSend ω (afterSend ω (afterSend ω (k + if b.usePppDaemon then 8 else 6)))

/-- A start request for the instance `n` that begins at `k` goes through: the number of interfaces is
read, and the event sent. -/
def StartAsked (ω : Answers) (n : ℕ) (k : ℕ) : Prop :=
  ω k (.psmGet psmPppManagerPppIfCount) = true ∧ IsSent ω (execEvent n) (k + 3)

/-- A reset of the instance `n` by a setter that begins at `k` does not get as far as its stop, or its
start request goes through. -/
def ResetAnswered (b : Build) (ω : Answers) (n k : ℕ) : Prop :=
  ω (k + 2) (.psmGet psmPppManagerPppIfCount) = false ∨ StartAsked ω n (afterStop b ω (k + 2))

section

variable {t : Thread} {b : Build} {ω : Answers} {i k k' : ℕ} {s s' : Sys}

/-! ### The stop -/

theorem exec_stopClient (hi : i < pppTableLength) :
  ∃ s', (machine t).exec ω (stopClient b i) k s = .ok ((), s', k + if b.usePppDaemon then 3 else 1) ∧
    s'.locks = s.locks ∧ s'.psm = s.psm ∧ (s'.table i).cfg = (s.table i).cfg
  := by
  rw [stopClient]
  split_ifs
  · rw [Machine.exec_bind, exec_load hi]
    dsimp only [Except.bind]
    rw [Machine.exec_bind, stopPppProcess, Machine.exec_bind, exec_kill]
    dsimp only [Except.bind]
    change ∃ s', (machine t).exec ω (store i _) (k + 2) _ = _ ∧ _
    rw [exec_store hi]
    refine ⟨_, rfl, rfl, rfl, ?_⟩
    rw [Sys.setEntry_table, update_self]
    rfl
  · rw [Machine.exec_bind, stopPppoe, Machine.exec_bind, exec_system]
    exact ⟨_, rfl, rfl, rfl, rfl⟩

/-- What a send leaves as it is. -/
structure Unmoved (s s' : Sys) : Prop where
  table : s'.table = s.table
  locks : s'.locks = s.locks
  psm : s'.psm = s.psm

theorem Unmoved.trans {s₁ : Sys} (h : Unmoved s s₁) (h' : Unmoved s₁ s') :
  Unmoved s s'
  := ⟨h'.table.trans h.table, h'.locks.trans h.locks, h'.psm.trans h.psm⟩

theorem unmoved_sendDataToQ {ev : PppEventQData} {q : AnscStatus}
    (hexec : (machine t).exec ω (sendDataToQ ev) k s = .ok (q, s', k')) :
  Unmoved s s' ∧ k' = afterSend ω k
  := by
  obtain ⟨⟨-, -, rfl⟩ | ⟨-, -, rfl⟩, hk⟩ := exec_sendDataToQ_ends hexec
  · exact ⟨⟨rfl, rfl, rfl⟩, hk⟩
  · exact ⟨⟨rfl, rfl, rfl⟩, hk⟩

/-- A stop of an interface disables it. -/
theorem exec_stopPppClient {q : AnscStatus}
    (hω : ω k (.psmGet psmPppManagerPppIfCount) = true) (hi : i < pppTableLength)
    (hcount : i < s.pppIfCount.toNat) (hfree : ∀ t' ∈ s.locks i, t' = t)
    (hexec : (machine t).exec ω (stopPppClient b (i + 1)) k s = .ok (q, s', k')) :
  q = .success ∧ s'.locks = s.locks ∧ s'.psm = s.psm ∧ (s'.table i).cfg.bEnabled = false ∧
    (s'.table i).cfg.instanceNumber = (s.table i).cfg.instanceNumber ∧ k' = afterStop b ω k
  := by
  rw [stopPppClient, Machine.exec_bind, exec_getIfaceDataLocked hω hi hcount hfree] at hexec
  dsimp only [Except.bind] at hexec
  rw [Machine.exec_bind, exec_store hi] at hexec
  dsimp only [Except.bind] at hexec
  obtain ⟨s₁, hstop, hlocks, hpsm, hcfg⟩ := exec_stopClient (t := t) (b := b) (ω := ω) (k := k + 3)
    (s := (s.setLock i (t :: s.locks i)).setEntry i ((s.table i).setBEnabled false)) hi
  obtain ⟨_, s₂, k₂, hclient, hexec⟩ := Machine.exec_bind_ok hexec
  cases hstop.symm.trans hclient
  have hlock : (s₁.setEntry i (s₁.table i).resetSession).locks i = t :: s.locks i := by
    rw [Sys.setEntry_locks, hlocks]
    simp
  rw [exec_store_bind hi, Machine.exec_bind, getIfaceDataRelease, exec_unlock hlock] at hexec
  dsimp only [Except.bind] at hexec
  obtain ⟨_, s₂, k₂, hlink, hexec⟩ := Machine.exec_bind_ok hexec
  obtain ⟨_, s₃, k₃, hipcp, hexec⟩ := Machine.exec_bind_ok hexec
  obtain ⟨_, s₄, k₄, hipv6cp, hexec⟩ := Machine.exec_bind_ok hexec
  cases hexec
  obtain ⟨h₂, rfl⟩ := unmoved_sendDataToQ hlink
  obtain ⟨h₃, rfl⟩ := unmoved_sendDataToQ hipcp
  obtain ⟨h₄, rfl⟩ := unmoved_sendDataToQ hipv6cp
  have hkept := (h₂.trans h₃).trans h₄
  have hcfg' : (s'.table i).cfg = ((s.table i).setBEnabled false).cfg := by
    rw [hkept.table, Sys.setLock_table, Sys.setEntry_table, update_self]
    change (s₁.table i).cfg = _
    rw [hcfg, Sys.setEntry_table, update_self]
  refine ⟨rfl, ?_, ?_, ?_, ?_, ?_⟩
  · rw [hkept.locks]
    change update s₁.locks i (s.locks i) = s.locks
    rw [hlocks]
    change update (update s.locks i _) i (s.locks i) = s.locks
    rw [update_idem, update_eq_self]
  · rw [hkept.psm]
    apply hpsm
  · rw [hcfg']
    rfl
  · rw [hcfg']
    rfl
  · rw [afterStop]
    congr 3
    split_ifs <;> rfl

/-! ### The request -/

/-- A start request enables the interface if it goes through, and leaves it as it is otherwise. -/
theorem exec_sendPppdStartEventToQ {q : AnscStatus} (hi : i < pppTableLength)
    (hcount : i < s.pppIfCount.toNat) (hfree : ∀ t' ∈ s.locks i, t' = t)
    (hn : toInt (s.table i).cfg.instanceNumber = (i + 1 : ℕ))
    (hexec : (machine t).exec ω (sendPppdStartEventToQ (i + 1)) k s = .ok (q, s', k')) :
  s'.locks = s.locks ∧
    (¬ StartAsked ω (i + 1) k ∧ q = .failure ∧ s'.table i = s.table i ∨
      StartAsked ω (i + 1) k ∧ q = .success ∧ (s'.table i).cfg.bEnabled = true)
  := by
  rw [StartAsked]
  cases hω : ω k (.psmGet psmPppManagerPppIfCount) with
  | false =>
      rw [sendPppdStartEventToQ, Machine.exec_bind, exec_getIfaceDataLocked_none (.inl hω)] at hexec
      cases hexec
      exact ⟨rfl, .inl ⟨fun h => Bool.false_ne_true h.1, rfl, rfl⟩⟩
  | true =>
      rw [sendPppdStartEventToQ, Machine.exec_bind, exec_getIfaceDataLocked hω hi hcount hfree] at hexec
      dsimp only [Except.bind] at hexec
      rw [Machine.exec_bind, exec_load hi] at hexec
      dsimp only [Except.bind] at hexec
      rw [Sys.setLock_table, hn] at hexec
      obtain ⟨q', s₁, k₁, hsend, hexec⟩ := Machine.exec_bind_ok hexec
      obtain ⟨⟨hnot, rfl, rfl⟩ | ⟨hsent, rfl, rfl⟩, rfl⟩ := exec_sendDataToQ_ends hsend
      · have hlock : (s.setLock i (t :: s.locks i)).locks i = t :: s.locks i := by
          simp
        dsimp only at hexec
        rw [Machine.exec_bind, getIfaceDataRelease, exec_unlock hlock, Sys.setLock_setLock,
          Sys.setLock_self _ _ rfl] at hexec
        cases hexec
        exact ⟨rfl, .inl ⟨fun h => hnot h.2, rfl, rfl⟩⟩
      · dsimp only at hexec
        rw [exec_store_bind hi, Sys.post_table, Sys.setLock_table] at hexec
        have hlock : (((s.setLock i (t :: s.locks i)).post (execEvent (i + 1 : ℕ))).setEntry i
            ((s.table i).setBEnabled true)).locks i = t :: s.locks i := by
          simp
        rw [Machine.exec_bind, getIfaceDataRelease, exec_unlock hlock] at hexec
        cases hexec
        refine ⟨?_, .inr ⟨⟨rfl, hsent⟩, rfl, ?_⟩⟩
        · change update (update s.locks i _) i (s.locks i) = s.locks
          rw [update_idem, update_eq_self]
        · change (update s.table i _ i).cfg.bEnabled = true
          rw [update_self]
          rfl

/-! ### The reset -/

/-- A reset does nothing if it does not get as far as its stop.  Otherwise the interface ends enabled
exactly if the start request goes through. -/
theorem exec_pppDmlIfReset {r : Bool} (hi : i < pppTableLength) (hcount : i < s.pppIfCount.toNat)
    (hheld : ∀ t' ∈ s.locks i, t' = t) (hn : toInt (s.table i).cfg.instanceNumber = (i + 1 : ℕ))
    (hexec : (machine t).exec ω (pppDmlIfReset b (i + 1)) k s = .ok (r, s', k')) :
  s'.locks = s.locks ∧
    (ω k (.psmGet psmPppManagerPppIfCount) = false ∧ r = false ∧ s' = s ∨
      ω k (.psmGet psmPppManagerPppIfCount) = true ∧
        (¬ StartAsked ω (i + 1) (afterStop b ω k) ∧ (s'.table i).cfg.bEnabled = false ∨
          StartAsked ω (i + 1) (afterStop b ω k) ∧ r = true ∧ (s'.table i).cfg.bEnabled = true))
  := by
  rw [pppDmlIfReset] at hexec
  cases hω : ω k (.psmGet psmPppManagerPppIfCount) with
  | false =>
      rw [Machine.exec_bind, stopPppClient, Machine.exec_bind,
        exec_getIfaceDataLocked_none (.inl hω)] at hexec
      cases hexec
      exact ⟨rfl, .inl ⟨rfl, rfl, rfl⟩⟩
  | true =>
      obtain ⟨q, s₁, k₁, hstop, hexec⟩ := Machine.exec_bind_ok hexec
      obtain ⟨rfl, hlocks, hpsm, hdisabled, hnumber, rfl⟩ := exec_stopPppClient hω hi hcount hheld hstop
      obtain ⟨q, s₂, k₂, hstart, hexec⟩ := Machine.exec_bind_ok hexec
      have hcount₁ : i < s₁.pppIfCount.toNat := by
        rw [Sys.pppIfCount, hpsm]
        apply hcount
      have hheld₁ : ∀ t' ∈ s₁.locks i, t' = t := by
        rw [hlocks]
        apply hheld
      have hn₁ : toInt (s₁.table i).cfg.instanceNumber = (i + 1 : ℕ) := by
        rw [hnumber]
        apply hn
      obtain ⟨hlocks₂, hends⟩ := exec_sendPppdStartEventToQ hi hcount₁ hheld₁ hn₁ hstart
      rcases hends with ⟨hnot, rfl, htable⟩ | ⟨hasked, rfl, henabled⟩
      · cases hexec
        refine ⟨hlocks₂.trans hlocks, .inr ⟨rfl, .inl ⟨hnot, ?_⟩⟩⟩
        rw [htable, hdisabled]
      · cases hexec
        exact ⟨hlocks₂.trans hlocks, .inr ⟨rfl, .inr ⟨hasked, rfl, henabled⟩⟩⟩

/-! ### The setter -/

/-- A reset that reports no success leaves the client running and the session as it is, and every reset
leaves the interface enabled. -/
def KeepsEnabled (b : Build) (i : ℕ) (s s' : Sys) (r : Bool) : Prop :=
  (s'.table i).cfg.bEnabled = true ∧
    (r = false → stopAct b (s.table i) ∉ s'.acts.drop s.acts.length ∧
      (s'.table i).info = (s.table i).info)

variable {s₀ : Sys} {ls : List Access} {r : Bool}

/-- In every state the manager reaches, a reset of an enabled interface keeps it enabled, and is all or
nothing, exactly if it does not get as far as its stop, or its start request goes through. -/
theorem keepsEnabled_iff (hs₀ : Initial s₀) (hrun : run (Access.next b) ls s₀ = some s)
    (hi : i < s.pppIfCount.toNat) (henabled : (s.table i).cfg.bEnabled = true)
    (hexec : (machine .dataModel).exec ω (interfaceSetParamBoolValue b i "Reset".toList true) k s =
      .ok (r, s', k')) :
  KeepsEnabled b i s s' r ↔ ResetAnswered b ω (i + 1) k
  := by
  have hs := atRest_of_run hs₀ hrun
  have hlt : i < pppTableLength := Nat.lt_of_lt_of_le hi hs.count_le
  have hn := hs.instanceNumber i hi
  have hfree : ∀ t' ∈ s.locks i, t' = Thread.dataModel := owned_of_free (hs.locks i)
  have hheld : ∀ t' ∈ (s.setLock i [Thread.dataModel]).locks i, t' = Thread.dataModel := by
    simp
  rw [interfaceSetParamBoolValue, Machine.exec_bind, exec_lock hlt hfree, hs.locks i] at hexec
  dsimp only [Except.bind] at hexec
  obtain ⟨r', s₁, k₁, hwrite, hexec⟩ := Machine.exec_bind_ok hexec
  rw [writeBoolParam, if_neg (by decide), if_neg (by decide), if_neg (by decide), if_pos rfl,
    Machine.exec_bind, exec_load hlt] at hwrite
  dsimp only [Except.bind] at hwrite
  rw [Sys.setLock_table, henabled, Bool.and_self, if_pos rfl, hn] at hwrite
  obtain ⟨hlocks, hends⟩ :=
    exec_pppDmlIfReset (s := s.setLock i [Thread.dataModel]) hlt hi hheld
      (hs.toInt_instanceNumber hi) hwrite
  have hlock : s₁.locks i = [Thread.dataModel] := by
    rw [hlocks]
    simp
  rw [Machine.exec_bind, exec_unlock hlock] at hexec
  cases hexec
  rw [ResetAnswered]
  rcases hends with ⟨hω, rfl, rfl⟩ | ⟨hω, ⟨hnot, hdisabled⟩ | ⟨hasked, rfl, henabled'⟩⟩
  · apply iff_of_true _ (.inl hω)
    use henabled
    intro _
    rw [Sys.setLock_acts, Sys.setLock_acts, List.drop_length]
    exact ⟨List.not_mem_nil, rfl⟩
  · apply iff_of_false
    · rintro ⟨henabled', -⟩
      rw [Sys.setLock_table, hdisabled] at henabled'
      cases henabled'
    · rintro (hno | hasked)
      · rw [hω] at hno
        cases hno
      · apply hnot hasked
  · apply iff_of_true _ (.inr hasked)
    use henabled'
    intro h
    cases h

end

/-! ### A queue that cannot be opened -/

/-- What a reset after the interface is enabled says, and whether the interface is enabled then. -/
def resetAfterEnable (ω : Answers) : Option (Bool × Bool) :=
  (run (Access.next (plainBuild false)) [enabling] (freshState 1)).bind fun s =>
    if (s.table 0).cfg.bEnabled ∧ 0 < s.pppIfCount.toNat then
      ((machine .dataModel).exec ω
        (interfaceSetParamBoolValue (plainBuild false) 0 "Reset".toList true) 0 s).toOption.map
          fun x => (x.1, (x.2.1.table 0).cfg.bEnabled)
    else none

theorem exists_resetAfterEnable {ω : Answers} {r e : Bool}
    (h : resetAfterEnable ω = some (r, e)) :
  ∃ s s' k', run (Access.next (plainBuild false)) [enabling] (freshState 1) = some s ∧
    (s.table 0).cfg.bEnabled = true ∧ 0 < s.pppIfCount.toNat ∧
    (machine .dataModel).exec ω
      (interfaceSetParamBoolValue (plainBuild false) 0 "Reset".toList true) 0 s = .ok (r, s', k') ∧
    (s'.table 0).cfg.bEnabled = e
  := by
  obtain ⟨s, hrun, h⟩ := Option.bind_eq_some_iff.mp h
  split_ifs at h with hs
  obtain ⟨⟨r', s', k'⟩, hexec, hend⟩ := Option.map_eq_some_iff.mp h
  obtain ⟨rfl, rfl⟩ := Prod.mk.inj hend
  exact ⟨s, s', k', hrun, hs.1, hs.2, eq_ok_of_toOption hexec, rfl⟩

/-- A reset where everything works. -/
theorem keepsEnabled_iff_working :
  ∃ s s' k', (machine .dataModel).exec (workingOutside 1 none []).answers
      (interfaceSetParamBoolValue (plainBuild false) 0 "Reset".toList true) 0 s =
        .ok (true, s', k') ∧
    (KeepsEnabled (plainBuild false) 0 s s' true ↔
      ResetAnswered (plainBuild false) (workingOutside 1 none []).answers (0 + 1) 0)
  := by
  have hreset : resetAfterEnable (workingOutside 1 none []).answers = some (true, true) := by
    decide +kernel
  obtain ⟨s, s', k', hrun, henabled, hi, hexec, -⟩ := exists_resetAfterEnable hreset
  use s, s', k', hexec
  apply keepsEnabled_iff (initial_freshState (by decide +kernel)) hrun hi henabled hexec

/-- A reset whose request is refused leaves the interface disabled. -/
theorem refused_reset_disables :
  ∃ s s' k', run (Access.next (plainBuild false)) [enabling] (freshState 1) = some s ∧
    (s.table 0).cfg.bEnabled = true ∧
    (machine .dataModel).exec closedQueue
      (interfaceSetParamBoolValue (plainBuild false) 0 "Reset".toList true) 0 s =
        .ok (false, s', k') ∧
    ¬ KeepsEnabled (plainBuild false) 0 s s' false
  := by
  have hreset : resetAfterEnable closedQueue = some (false, false) := by
    decide +kernel
  obtain ⟨s, s', k', hrun, henabled, -, hexec, hdisabled⟩ := exists_resetAfterEnable hreset
  use s, s', k', hrun, henabled, hexec
  rintro ⟨henabled', -⟩
  rw [hdisabled] at henabled'
  cases henabled'

end PppManager
