import PppManager.Manager.EventSteps
import PppManager.Manager.LockDiscipline

/-!
# The WAN manager and the mutexes

A thread that reads or writes the WAN manager while it holds a mutex can end in a deadlock with the
mutex of the WAN manager.  `PppMgr_StartPppClient` does so in one place, where it reads the VLAN of a
PPPoE interface; nothing else does, whatever the other threads do while a mutex is waited for
(`wanUnlocked_iff`).
-/

namespace PppManager

open Effect Effect.Program Function CText

/-- The other threads do what `R` says while a mutex is waited for. -/
def Meanwhile.Answers {t : Thread} (R : Meanwhile t) (ω : (waitingMachine t).Oracle) : Prop :=
  ∀ k o i s, R.leads i s ((ω k o).2 i s)

/-- The thread gets each mutex it waits for. -/
structure Meanwhile.GivesBack {t : Thread} (R : Meanwhile t) : Prop where
  leads : ∀ i s, ∃ s', R.leads i s s'
  given : ∀ i s s', R.leads i s s' → ∀ t' ∈ s'.locks i, t' = t

/-- Each time the entry point reads or writes the WAN manager, its thread holds no mutex. -/
def WanUnlocked (b : Build) (p : EntryPoint) (ω : (waitingMachine p.thread).Oracle) (s : Sys) : Prop :=
  ¬ (waitingMachine p.thread).Performs ω (fun o s' => o.AsksWan ∧ ¬ HoldsNone p.thread s')
    (p.code b) 0 s

/-- The entry point starts an interface that is found, and the VLAN of its entry is read from the WAN
manager in a state in which its mutex is got. -/
def StartAsksVlan (b : Build) (p : EntryPoint) (R : Meanwhile p.thread) (s : Sys) : Prop :=
  ∃ i s', p.starts s = some (i + 1) ∧ i < pppTableLength ∧ i < s.pppIfCount.toNat ∧
    R.leads i (p.taken s) s' ∧ (s'.table i).AsksVlan b

/-! ### Runs that ask for the VLAN -/

/-- The answers of an outside where everything works, the HAL gives credentials, and a start of the
PPP interface `n` begins at the moment `m`. -/
def askingAnswers (n m : ℕ) : Answers
  | _, .halGetPppUserName => some "user".toList
  | _, .halGetPppPassword => some "secret".toList
  | k, .busGet _ _ _ => startReads n (k + 1 - m)
  | k, o => (workingOutside n none []).answers k o

/-- The WAN manager has one interface with one virtual interface, the PPP interface `n`, for a start
that begins at the moment `m`, the number of PPP interfaces can be read, and no process is listed. -/
structure AnswersStart (ω : Answers) (n m : ℕ) : Prop where
  bus : ∀ k component bus name, ω k (.busGet component bus name) = startReads n (k + 1 - m)
  count : ∀ k, ω k (.psmGet psmPppManagerPppIfCount) = true
  processes : ∀ k command, ω k (.popen command) = none

/-- The HAL gives the credentials. -/
structure GivesCredentials (ω : Answers) (u p : CStr) : Prop where
  username : ∀ k, ω k .halGetPppUserName = some u
  password : ∀ k, ω k .halGetPppPassword = some p

theorem answersStart_askingAnswers (n m : ℕ) :
  AnswersStart (askingAnswers n m) n m
  := ⟨fun _ _ _ _ => rfl, fun _ => rfl, fun _ _ => rfl⟩

section

variable {t : Thread} {s s' : Sys} {b : Build} {ω : Answers} {k m n i : ℕ} {B : Op → Sys → Prop}

theorem exec_dmlPppMgrGetParamValues {component bus name v pReturnVal : CStr}
    {size : ℕ} (hω : ω k (.busGet component bus name) = some (some v)) (hv : v.length < size) :
  (machine t).exec ω (dmlPppMgrGetParamValues component bus name size pReturnVal) k s =
    .ok (some v, s, k + 1)
  := by
  rw [dmlPppMgrGetParamValues, Machine.exec_bind, exec_busGet, hω]
  dsimp only [Except.bind]
  rw [if_pos hv]
  rfl

theorem exec_dmlPppMgrGetParamValues_none {component bus name pReturnVal : CStr} {size : ℕ}
    (hω : ω k (.busGet component bus name) = none) :
  (machine t).exec ω (dmlPppMgrGetParamValues component bus name size pReturnVal) k s =
    .ok (none, s, k + 1)
  := by
  rw [dmlPppMgrGetParamValues, Machine.exec_bind, exec_busGet, hω]
  rfl

/-- The WAN manager has one interface with one virtual interface, the PPP interface `n`. -/
theorem exec_getWanIfaceInstance (hω : AnswersStart ω n m) (hn : 0 < n) (hle : n ≤ pppTableLength) :
  (machine t).exec ω (getWanIfaceInstance b n (-1, -1)) m s =
    .ok ((.success, 1, 1), s, m + 3)
  := by
  have hone : atoi "1".toList = 1 := by
    decide +kernel
  have hlength : (snprintf 128 pppIfacePath [.int n]).length < 256 := by
    rw [snprintf]
    apply Nat.lt_of_le_of_lt (List.length_take_le _ _)
    decide
  have hread : ∀ {k v name buf}, startReads n (k + 1 - m) = some (some v) → v.length < 256 →
      (machine t).exec ω (dmlPppMgrGetParamValues wanComponentName wanDbusPath name 256 buf) k s =
        .ok (some v, s, k + 1) := by
    intro k v name buf hv
    rw [← hω.bus] at hv
    apply exec_dmlPppMgrGetParamValues hv
  have h₁ : startReads n (m + 1 - m) = some (some "1".toList) := by
    rw [Nat.add_sub_cancel_left]
    rfl
  have h₂ : startReads n (m + 1 + 1 - m) = some (some "1".toList) := by
    rw [Nat.add_assoc, Nat.add_sub_cancel_left]
    rfl
  have h₃ : startReads n (m + 1 + 1 + 1 - m) = some (some (snprintf 128 pppIfacePath [.int n])) := by
    rw [Nat.add_assoc, Nat.add_assoc, Nat.add_sub_cancel_left]
    rfl
  rw [getWanIfaceInstance, if_neg (Nat.ne_of_gt hn), Machine.exec_bind, hread h₁ (by decide)]
  dsimp only [Except.bind]
  rw [hone, if_neg (by decide), Machine.exec_bind, toInt_eq hle, Int.toNat_one, wanIfaceLoop,
    Machine.exec_bind, hread h₂ (by decide)]
  dsimp only [Except.bind]
  rw [hone, Int.toNat_one, Machine.exec_bind, wanVirtIfaceLoop, Machine.exec_bind,
    hread h₃ hlength]
  dsimp only [Except.bind]
  rw [if_pos rfl]
  rfl

/-- An operation that takes no mutex is performed as without waiting. -/
theorem step_waiting (ω : (waitingMachine t).Oracle) (o : Op) (k : ℕ) (s : Sys) (ho : o.TakesNoMutex) :
  (waitingMachine t).step o (ω k o) s = (machine t).step o (ω k o).1 s
  := by
  show step t o (ω k o).1 (o.waited (ω k o).2 s) = _
  rw [ho.waited]

/-- A lookup waits for the mutex of the entry it finds. -/
theorem exec_getIfaceDataLocked_waiting {ω : (waitingMachine t).Oracle}
    (hω : (ω k (.psmGet psmPppManagerPppIfCount)).1 = true) (hi : i < pppTableLength)
    (hcount : i < s.pppIfCount.toNat) (hgiven : ∀ t' ∈ ((ω (k + 1) (.lock i)).2 i s).locks i, t' = t) :
  (waitingMachine t).exec ω (getIfaceDataLocked (i + 1)) k s =
    .ok (some i, ((ω (k + 1) (.lock i)).2 i s).setLock i (t :: ((ω (k + 1) (.lock i)).2 i s).locks i),
      k + 2)
  := by
  have hneutral : Only (Op.IsNeutral True) dmlGetTotalNoOfPPPInterfaces :=
    neutral_dmlGetTotalNoOfPPPInterfaces
  have htotal : (waitingMachine t).exec ω dmlGetTotalNoOfPPPInterfaces k s =
      .ok (s.pppIfCount, s, k + 1) := by
    rw [Machine.exec_alike (step_waiting ω) (hneutral.mono (fun _ => Op.IsNeutral.takesNoMutex)),
      exec_dmlGetTotalNoOfPPPInterfaces, if_pos hω]
  have hlock : (waitingMachine t).exec ω (lock i) (k + 1) s =
      .ok ((), ((ω (k + 1) (.lock i)).2 i s).setLock i
        (t :: ((ω (k + 1) (.lock i)).2 i s).locks i), k + 2) := by
    apply Machine.exec_perform
    show step t (.lock i) () ((ω (k + 1) (.lock i)).2 i s) = _
    rw [step, if_neg (Nat.not_le.mpr hi), if_pos hgiven]
  rw [getIfaceDataLocked, if_neg (Nat.succ_ne_zero i), Machine.exec_bind, htotal]
  dsimp only [Except.bind]
  rw [if_neg (Nat.not_lt.mpr hcount), Nat.add_sub_cancel, Machine.exec_bind, hlock]
  rfl

theorem takesNoMutex_getWanIfaceInstance :
  Only Op.TakesNoMutex (getWanIfaceInstance b n (-1, -1))
  := by
  apply (reads_getWanIfaceInstance _ _ _).mono
  intro o ho
  apply ho.isRead.takesNoMutex

theorem takesNoMutex_checkPidExist (pid : ℤ) :
  Only Op.TakesNoMutex (checkPidExist pid)
  := by
  apply (reads_checkPidExist pid).mono
  intro o ho
  apply ho.isRead.takesNoMutex

theorem takesNoMutex_launchPppClient (w v : ℤ) :
  Only Op.TakesNoMutex (launchPppClient b i w v)
  := by
  apply (launchStep_launchPppClient w v).mono
  rintro o ho j rfl
  apply ho

/-- No process is listed, and the client is found to have ended. -/
theorem exec_checkPidExist_failure (hω : AnswersStart ω n m) (pid : ℤ) (k : ℕ) (s : Sys) :
  ∃ k', (machine t).exec ω (checkPidExist pid) k s = .ok (.failure, s, k')
  := by
  rw [checkPidExist]
  split_ifs
  · exact ⟨k, rfl⟩
  · use k + 1
    rw [Machine.exec_bind, exec_popen, hω.processes]
    rfl

/-- A start waits for the mutex of its entry, and gets to the part after the check that no client is
running. -/
theorem performs_startPppClient_waiting {ω : (waitingMachine t).Oracle}
    (hω : AnswersStart (fun k o => (ω k o).1) (i + 1) m) (hi : i < pppTableLength)
    (hcount : i < s.pppIfCount.toNat) (hwait : ∀ k, (ω k (.lock i)).2 i s = s')
    (hgiven : ∀ t' ∈ s'.locks i, t' = t)
    (h : ∀ k, (machine t).Performs (fun k o => (ω k o).1) B (launchPppClient b i 1 1) k
      (s'.setLock i (t :: s'.locks i))) :
  (waitingMachine t).Performs ω B (startPppClient b (i + 1)) m s
  := by
  have hlookup := exec_getIfaceDataLocked_waiting (k := m + 3) (ω := ω) (hω.count _) hi hcount
    (by rw [hwait]; apply hgiven)
  rw [hwait] at hlookup
  rw [startPppClient_eq]
  apply Machine.performs_bind.mpr
  right
  refine ⟨(.success, 1, 1), s, m + 3, ?_, ?_⟩
  · rw [Machine.exec_alike (step_waiting ω) takesNoMutex_getWanIfaceInstance]
    apply exec_getWanIfaceInstance hω (Nat.succ_pos i) hi
  · rw [startFrom, if_neg (by decide)]
    apply Machine.performs_bind.mpr
    right
    refine ⟨_, _, _, hlookup, ?_⟩
    apply (Machine.performs_alike (step_waiting ω) _ _ _).mpr
    · apply Machine.performs_bind.mpr
      right
      refine ⟨_, _, _, exec_load hi, ?_⟩
      obtain ⟨k', hk'⟩ := exec_checkPidExist_failure (t := t) hω (s'.table i).info.pppPid
        (m + 3 + 2 + 1) (s'.setLock i (t :: s'.locks i))
      apply Machine.performs_bind.mpr
      right
      refine ⟨_, _, _, hk', ?_⟩
      apply h
    · apply only_bind (reads_op (P := Op.TakesNoMutex) (o := .load i) (by rintro _ ⟨⟩))
      intro pEntry
      apply only_bind (takesNoMutex_checkPidExist _)
      rintro (_ | _)
      · apply only_bind (reads_op (P := Op.TakesNoMutex) (o := .unlock i) (by rintro _ ⟨⟩))
        intro _
        apply only_pure
      · apply takesNoMutex_launchPppClient

/-- A start of an entry whose mutex is free. -/
theorem performs_startPppClient (hω : AnswersStart ω (i + 1) m) (hi : i < pppTableLength)
    (hcount : i < s.pppIfCount.toNat) (hfree : s.locks i = [])
    (h : ∀ k, (machine t).Performs ω B (launchPppClient b i 1 1) k (s.setLock i [t])) :
  (machine t).Performs ω B (startPppClient b (i + 1)) m s
  := by
  rw [Machine.performs_alike (step_unwaited ω) (only_of_forall (fun _ => trivial) _)]
  apply performs_startPppClient_waiting hω hi hcount _ (owned_of_free hfree)
  · intro k
    rw [hfree]
    apply h
  · intro _
    rfl

theorem exec_getCredentialsFromHal {u p : CStr} (hω : GivesCredentials ω u p)
    (hi : i < pppTableLength) :
  (machine t).exec ω (getCredentialsFromHal i) k s =
    .ok ((), s.setEntry i (((s.table i).setUsername (u.take 64)).setPassword (p.take 64)), k + 4)
  := by
  rw [getCredentialsFromHal, Machine.exec_bind, exec_halGetPppUserName, hω.username]
  dsimp only [Except.bind]
  rw [Machine.exec_bind, exec_store hi]
  dsimp only [Except.bind]
  rw [Machine.exec_bind, exec_halGetPppPassword, hω.password]
  dsimp only [Except.bind]
  rw [exec_store hi, Sys.setEntry_table, update_self, Sys.setEntry_setEntry]

/-- A start gets to the part after the credentials are read: those of the entry, or those of the
HAL. -/
theorem performs_launchPppClient {u p : CStr} (hi : i < pppTableLength) {w v : ℤ}
    (hpsm : b.pppUsernamePasswordFromPsm = true →
      u = (s.table i).cfg.username ∧ p = (s.table i).cfg.password)
    (hhal : b.pppUsernamePasswordFromPsm = false →
      GivesCredentials ω u p ∧ u.length ≤ 64 ∧ p.length ≤ 64)
    (h : ∀ k s', s'.locks = s.locks →
      s'.table i = (((s.table i).setPppPid 0).setUsername u).setPassword p →
      (machine t).Performs ω B (launchConfigured b i w v) k s') :
  (machine t).Performs ω B (launchPppClient b i w v) k s
  := by
  rw [launchPppClient_eq]
  apply Machine.performs_bind.mpr
  right
  refine ⟨_, _, _, exec_store hi, ?_⟩
  split_ifs with hfromPsm
  · obtain ⟨rfl, rfl⟩ := hpsm hfromPsm
    apply h _ (s.setEntry i ((s.table i).setPppPid 0)) rfl
    rw [Sys.setEntry_table, update_self]
    rfl
  · obtain ⟨hω, hu, hp⟩ := hhal (Bool.of_not_eq_true hfromPsm)
    apply Machine.performs_bind.mpr
    right
    refine ⟨_, _, _, exec_getCredentialsFromHal hω hi, ?_⟩
    apply h
    · rfl
    · rw [Sys.setEntry_table, Sys.setEntry_table, update_self, update_self, List.take_of_length_le hu,
        List.take_of_length_le hp]

/-- The VLAN of a PPPoE interface is read. -/
theorem performs_launchConfigured {u p : CStr} (hi : i < pppTableLength) {e : DmlPppIfFull}
    (hask : e.AsksVlan b) (hu : u ≠ []) (hp : p ≠ []) {w v : ℤ}
    (htable : s.table i = ((e.setPppPid 0).setUsername u).setPassword p)
    (hB : B (.busGet wanComponentName wanDbusPath e.vlanParamName) s) :
  (machine t).Performs ω B (launchConfigured b i w v) k s
  := by
  have hparams : (s.table i).hasPppParams = true := by
    rw [htable]
    simp only [DmlPppIfFull.hasPppParams, Bool.and_eq_true, decide_eq_true_eq]
    exact ⟨⟨⟨⟨hask.name, hask.serviceName⟩, hu⟩, hp⟩, hask.authenticationProtocol⟩
  have hlink : (s.table i).cfg.linkType = .pppoe := by
    rw [htable]
    apply hask.pppoe
  apply Machine.performs_bind.mpr
  right
  refine ⟨_, _, _, exec_load hi, ?_⟩
  rw [if_pos hparams]
  apply Machine.performs_bind.mpr
  left
  rw [configureClient, hlink]
  dsimp only
  rw [hask.noDaemon]
  apply Machine.performs_bind.mpr
  left
  apply Machine.performs_bind.mpr
  left
  apply Machine.performs_perform
  rw [htable]
  apply hB

/-- A PPPoE interface is started with its mutex held while its VLAN is read. -/
theorem performs_start_asksWan (hi : i < pppTableLength) (hheld : t ∈ s.locks i)
    (hask : (s.table i).AsksVlan b) {w v : ℤ} :
  (machine t).Performs (askingAnswers n m) (fun o s' => o.AsksWan ∧ ¬ HoldsNone t s')
    (launchPppClient b i w v) k s
  := by
  have hasks : ∀ u p s' k, u ≠ [] → p ≠ [] → s'.locks = s.locks →
      s'.table i = (((s.table i).setPppPid 0).setUsername u).setPassword p →
      (machine t).Performs (askingAnswers n m) (fun o s' => o.AsksWan ∧ ¬ HoldsNone t s')
        (launchConfigured b i w v) k s' := by
    intro u p s' k hu hp hlocks htable
    apply performs_launchConfigured hi hask hu hp htable
    use rfl
    intro hnone
    apply hnone i
    rw [hlocks]
    apply hheld
  by_cases hfromPsm : b.pppUsernamePasswordFromPsm = true
  · obtain ⟨husername, hpassword⟩ := hask.credentials hfromPsm
    apply performs_launchPppClient hi (fun _ => ⟨rfl, rfl⟩) (fun h => by rw [hfromPsm] at h; cases h)
    intro k s' hlocks htable
    apply hasks _ _ s' k husername hpassword hlocks htable
  · apply performs_launchPppClient (u := "user".toList) (p := "secret".toList) hi
      (fun h => absurd h hfromPsm) (fun _ => ⟨⟨fun _ => rfl, fun _ => rfl⟩, by decide, by decide⟩)
    intro k s' hlocks htable
    apply hasks _ _ s' k (by decide) (by decide) hlocks htable

/-- An entry point that starts a client performs what the start performs. -/
theorem performs_starts {p : EntryPoint} {ω : (waitingMachine p.thread).Oracle} {B : Op → Sys → Prop}
    (hstarts : p.starts s = some n)
    (h : (waitingMachine p.thread).Performs ω B (startPppClient b n) p.moment (p.taken s)) :
  (waitingMachine p.thread).Performs ω B (p.code b) 0 s
  := by
  cases p with
  | start n' =>
      obtain rfl := Option.some.inj hstarts
      apply Machine.performs_map.mpr h
  | event ev =>
      apply Machine.performs_map.mpr
      rw [processPppEvent_of_starts hstarts]
      apply Machine.performs_bind.mpr (.inl h)
  | takeEvent =>
      obtain ⟨ev, hhead, hev⟩ := Option.bind_eq_some_iff.mp hstarts
      obtain ⟨table, locks, queue, psm, acts⟩ := s
      cases queue with
      | nil => cases hhead
      | cons ev' evs =>
          obtain rfl := Option.some.inj hhead
          rw [EntryPoint.code, handleQueue_eq]
          right
          apply Machine.performs_map.mpr
          rw [processPppEvent_of_starts hev]
          apply Machine.performs_bind.mpr (.inl h)
  | _ => cases hstarts

/-- In every run of an entry point, whatever the other threads do while it waits for a mutex, the WAN
manager is read and written with no mutex held, exactly if the entry point starts no interface whose
VLAN is read. -/
theorem wanUnlocked_iff {p : EntryPoint} {R : Meanwhile p.thread} (hR : R.GivesBack)
    (hs : HoldsNone p.thread s) :
  (∀ ω, R.Answers ω → WanUnlocked b p ω s) ↔ ¬ StartAsksVlan b p R s
  := by
  constructor
  · rintro h ⟨i, s', hstarts, hi, hcount, hleads, hask⟩
    choose after hafter using hR.leads
    classical
    -- the mutex of the entry is got in `s'`, every other one in some state it may be got in
    let wait : ℕ → Sys → Sys := fun j s₁ => if j = i ∧ s₁ = p.taken s then s' else after j s₁
    have hwait : wait i (p.taken s) = s' := if_pos ⟨rfl, rfl⟩
    apply h (fun k o => (askingAnswers (i + 1) p.moment k o, wait))
    · intro k o j s₁
      dsimp only [wait]
      split_ifs with hj
      · obtain ⟨rfl, rfl⟩ := hj
        apply hleads
      · apply hafter
    · apply performs_starts hstarts
      apply performs_startPppClient_waiting (answersStart_askingAnswers _ _) hi
      · have htaken : (p.taken s).pppIfCount = s.pppIfCount := by
          cases p <;> rfl
        rw [htaken]
        apply hcount
      · intro k
        apply hwait
      · apply hR.given i _ _ hleads
      · intro k
        apply performs_start_asksWan hi mem_setLock_self
        apply hask
  · intro h ω hω
    have hguarded : (guarded R (fun _ => True) False).wp (p.code b)
        (fun _ s' => owns p.thread s' = owns p.thread s) s := by
      apply guarded_point (fun _ _ => trivial) (.inr hs)
      · intro w _ _
        exact .inl fun _ => trivial
      · intro i s' hstarts hi hcount hleads hask
        apply h
        exact ⟨i, s', hstarts, hi, hcount, hleads, hask⟩
    apply Contract.wp_performs (C := guarded R (fun _ => True) False) hω _ hguarded
    rintro o s' hsafe ⟨hasks, hheld⟩
    apply hheld ((hsafe.2.2 hasks).resolve_left not_false)

end

/-- The other threads give the mutex back that is waited for, and do nothing else. -/
def Meanwhile.givingBack (t : Thread) : Meanwhile t where
  leads i s s' := s' = s.setLock i ((s.locks i).filter (· = t))
  keeps := by
    rintro i s s' rfl
    have hcount : ((s.locks i).filter (· = t)).count t = owns t s i :=
      List.count_filter (decide_eq_true rfl)
    rw [owns_setLock, hcount, update_eq_self]

theorem givesBack_givingBack (t : Thread) :
  (Meanwhile.givingBack t).GivesBack
  where
    leads := fun _ _ => ⟨_, rfl⟩
    given := by
      rintro i s s' rfl t' ht'
      rw [Sys.setLock_locks, update_self] at ht'
      apply of_decide_eq_true (List.mem_filter.mp ht').2

theorem wanUnlocked_iff_daemon :
  (∀ ω, (Meanwhile.givingBack .event).Answers ω →
      WanUnlocked (plainBuild true) (.event (execEvent 1)) ω (freshState 1)) ↔
    ¬ StartAsksVlan (plainBuild true) (.event (execEvent 1)) (.givingBack .event) (freshState 1)
  := wanUnlocked_iff (p := .event (execEvent 1)) (givesBack_givingBack .event)
    (fun _ => List.not_mem_nil)

instance : DecidablePred Op.AsksWan
  | .busGet component _ _ => inferInstanceAs (Decidable (component = wanComponentName))
  | .busSet component _ _ _ => inferInstanceAs (Decidable (component = wanComponentName))
  | .lock _ | .unlock _ | .load _ | .store _ _ | .undefined _ | .mqOpen | .mqSend _ | .mqReceive
  | .nnRecv | .psmGet _ | .psmSet _ _ | .halGetPppUserName | .halGetPppPassword | .readFile _
  | .popen _ | .readProc | .syscfgGet _ | .syseventGet _ | .getIfAddr _ | .generateDuidFile _
  | .removeDuidFile _ | .system _ | .kill _ => .isFalse not_false

/-- The answers of an outside where a start that is taken from no queue can succeed, and the other
threads give the mutex back that is waited for. -/
def waitingAnswers : (waitingMachine .event).Oracle :=
  fun k o => ({ workingOutside 1 none [] with bus := fun k => startReads 1 (k + 1) }.answers k o,
    fun i s => s.setLock i ((s.locks i).filter (· = .event)))

/-- The start of a PPPoE interface reads the VLAN with the mutex of the entry held. -/
theorem start_reads_vlan_locked :
  ¬ ∀ (b : Build) (p : EntryPoint) (R : Meanwhile p.thread) (ω : (waitingMachine p.thread).Oracle)
    (s : Sys), R.GivesBack → R.Answers ω → HoldsNone p.thread s → WanUnlocked b p ω s
  := by
  intro h
  have hperforms : (waitingMachine .event).Performs waitingAnswers
      (fun o s' => o.AsksWan ∧ Thread.event ∈ s'.locks 0)
      ((EntryPoint.event (execEvent 1)).code (plainBuild false)) 0 (freshState 1) := by
    decide +kernel
  apply h (plainBuild false) (.event (execEvent 1)) (.givingBack .event) waitingAnswers (freshState 1)
    (givesBack_givingBack .event) (fun _ _ _ _ => rfl) (fun _ => List.not_mem_nil)
  apply hperforms.mono
  rintro o s' ⟨hasks, hheld⟩
  use hasks
  intro hnone
  apply hnone 0 hheld

end PppManager
