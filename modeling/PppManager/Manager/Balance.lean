import PppManager.Manager.Locks

/-!
# The functions and the mutexes

Every function takes and gives back the mutex of one entry, as often as it takes it, and asks the WAN
manager only while it holds none, but for the part of `PppMgr_StartPppClient` that reads the VLAN of
a PPPoE interface.
-/

namespace PppManager

open Effect Effect.Program Function CText

section

variable {t : Thread} {R : Meanwhile t} {L : ℕ → Prop} {W : Prop} {i : ℕ} {s : Sys} {α β : Type}
  {b : Build}

/-! ### Work on an entry -/

theorem local_set (f : DmlPppIfFull → DmlPppIfFull) :
  Only (Op.OnEntry AnyWrite W True i) (store i f)
  := local_store trivial

theorem local_storeUnless {c : Prop} [Decidable c] (f : DmlPppIfFull → DmlPppIfFull) :
  Only (Op.OnEntry AnyWrite W True i) (storeUnless c i f)
  := only_ite (fun _ => only_pure ()) (fun _ => local_set f)

theorem local_system (command : CStr) :
  Only (Op.OnEntry AnyWrite W True i) (system command)
  := reads_op (P := Op.OnEntry AnyWrite W True i) (o := .system command) trivial

theorem local_systemIfFits (text : CStr) :
  Only (Op.OnEntry AnyWrite W True i) (systemIfFits text)
  := only_ite (fun _ => local_system _) (fun _ => only_pure ())

theorem local_changeStatus (status : DmlIfStatus) (conn : DmlPppConnStatus) :
  Only (Op.OnEntry AnyWrite W True i) (changeStatus i status conn)
  := by
  apply only_bind (local_set _)
  intro _
  apply only_bind local_getUptimeinSeconds
  intro uptime
  apply local_set

theorem local_getSessionId :
  Only (Op.OnEntry AnyWrite W True i) (getSessionId i)
  := by
  apply only_bind (only_findSessionId (fun _ ho => ho.isHostQuery.onEntry) rfl)
  rintro (_ | id)
  · apply only_pure
  · apply local_set

theorem local_stopPppoe :
  Only (Op.OnEntry AnyWrite W True i) stopPppoe
  := by
  apply only_bind (local_system _)
  intro _
  apply only_pure

theorem local_switchPppState (msg : IpcPppEventMsg) :
  Only (Op.OnEntry AnyWrite W True i) (switchPppState i msg)
  := by
  rw [switchPppState]
  cases msg.pppState with
  | interfaceConnecting =>
      apply only_bind (local_changeStatus _ _)
      intro _
      apply only_bind (local_set _)
      intro _
      apply only_pure
  | interfaceUp =>
      have hname : psmPppSessionid ≠ psmPppManagerPppIfCount := by
        decide
      apply only_bind (local_set _)
      intro _
      apply only_bind (local_set _)
      intro _
      apply only_bind local_getUptimeinSeconds
      intro uptime
      apply only_bind (local_set _)
      intro _
      apply only_bind local_getSessionId
      intro _
      apply only_bind local_load
      intro pEntry
      apply only_bind (reads_op (P := Op.OnEntry AnyWrite W True i) (o := .psmSet _ _) hname)
      intro _
      apply only_pure
  | interfaceDisconnected | interfaceDown =>
      apply only_bind (local_set _)
      intro _
      apply only_bind (local_changeStatus _ _)
      intro _
      apply only_bind (local_set _)
      intro _
      apply only_pure
  | lcpAuthCompleted =>
      apply only_bind
      · apply only_bind (local_set _)
        intro _
        apply only_bind (local_storeUnless _)
        intro _
        apply local_storeUnless
      · intro _
        apply only_pure
  | interfaceAuthFailed =>
      apply only_bind (local_set _)
      intro _
      apply only_bind local_stopPppoe
      intro _
      apply only_pure
  | _ =>
      apply only_bind (local_changeStatus _ _)
      intro _
      apply only_pure

theorem local_stopClient :
  Only (Op.OnEntry AnyWrite W True i) (stopClient b i)
  := by
  apply only_ite
  · intro _
    apply only_bind local_load
    intro pEntry
    apply only_bind
    · apply only_bind (reads_op (P := Op.OnEntry AnyWrite W True i) (o := .kill _) trivial)
      intro _
      apply only_pure
    · intro _
      apply local_set
  · intro _
    apply only_bind local_stopPppoe
    intro _
    apply only_pure

theorem local_storeIpv6cpParams (msg : PppIpv6cpMsg) :
  Only (Op.OnEntry AnyWrite W True i) (storeIpv6cpParams i msg)
  := by
  apply only_bind (local_storeUnless _)
  intro _
  apply local_storeUnless

theorem local_sendPadt (vlanInterfaceName : CStr) (e : DmlPppIfFull) :
  Only (Op.OnEntry AnyWrite W True i) (sendPadt vlanInterfaceName e)
  := by
  apply only_bind (reads_op (P := Op.OnEntry AnyWrite W True i) (o := .readFile _) trivial)
  rintro (_ | text)
  · apply only_pure
  · apply only_ite
    · intro _
      apply local_systemIfFits
    · intro _
      apply reads_undefined trivial

/-- Configuring the client asks the WAN manager for a PPPoE interface without a daemon only. -/
theorem local_configureClient {e : DmlPppIfFull}
    (hW : b.usePppDaemon = false → e.cfg.linkType = .pppoe → W) :
  Only (Op.OnEntry AnyWrite W True i) (configureClient b e)
  := by
  rw [configureClient]
  cases hlink : e.cfg.linkType with
  | unset | other v => apply only_pure
  | pppoa =>
      apply only_ite
      · intro _
        apply only_pure
      · intro _
        apply only_bind (local_systemIfFits _)
        intro _
        apply only_pure
  | pppoe =>
      apply only_ite
      · intro _
        apply only_pure
      · intro hdaemon
        have hwan : Op.OnEntry AnyWrite W True i (.busGet wanComponentName wanDbusPath e.vlanParamName) :=
          fun _ => hW (Bool.of_not_eq_true hdaemon) hlink
        apply only_bind (only_dmlPppMgrGetParamValues trivial hwan _ _)
        rintro (_ | vlanInterfaceName)
        · apply only_pure
        · apply only_bind (local_systemIfFits _)
          intro _
          apply only_bind (local_sendPadt _ _)
          intro _
          apply only_pure

theorem local_getCredentialsFromHal :
  Only (Op.OnEntry AnyWrite W True i) (getCredentialsFromHal i)
  := only_getCredentialsFromHal trivial trivial fun _ => ⟨rfl, trivial⟩

/-! ### Neutral functions -/

theorem neutral_local {K : (DmlPppIfFull → DmlPppIfFull) → Prop} {C : Prop} {p : Code α}
    (hp : Only (Op.OnEntry K W C i) p) :
  Only (Op.IsNeutral W) p
  := hp.mono (fun _ => Op.OnEntry.isNeutral)

theorem neutral_load :
  Only (Op.IsNeutral W) (load i)
  := neutral_local (K := AnyWrite) (C := True) local_load

theorem neutral_set (f : DmlPppIfFull → DmlPppIfFull) :
  Only (Op.IsNeutral W) (store i f)
  := neutral_local (local_set f)

theorem neutral_dmlGetTotalNoOfPPPInterfaces :
  Only (Op.IsNeutral W) dmlGetTotalNoOfPPPInterfaces
  := by
  apply only_bind
  · apply only_bind (reads_op (P := Op.IsNeutral W) (o := .psmGet _) False.elim)
    rintro (_ | paramValue) <;> apply only_pure
  · intro pppIfCount
    apply only_pure

theorem neutral_sendDataToQ (ev : PppEventQData) :
  Only (Op.IsNeutral W) (sendDataToQ ev)
  := by
  apply only_bind (reads_op (P := Op.IsNeutral W) (o := .mqOpen) False.elim)
  rintro (_ | _)
  · apply only_pure
  · apply only_bind (reads_op (P := Op.IsNeutral W) (o := .mqSend _) False.elim)
    rintro (_ | _) <;> apply only_pure

theorem neutral_validateLoop (name : CStr) (ulIndex k : ℕ) :
  Only (Op.IsNeutral W) (validateLoop i name ulIndex k)
  := by
  induction k generalizing ulIndex with
  | zero => apply only_pure
  | succ k ih =>
      apply only_ite
      · intro _
        apply ih
      · intro _
        apply only_bind neutral_load
        intro other
        apply only_ite
        · intro _
          apply only_pure
        · intro _
          apply ih

/-! ### Requests -/

/-- Giving the mutex back at the end of a function. -/
theorem releases_pure (a : α) :
  Releases R L W i (do getIfaceDataRelease i; pure a)
  := releases_release (only_pure a)

theorem balanced_stopPppClient {n : ℕ} (hi : i = n - 1) :
  Balanced R L W i (stopPppClient b n)
  := by
  apply balanced_getIfaceDataLocked hi
  · apply balanced_pure
  · apply Releases.after (neutral_set _)
    intro _
    apply Releases.after (neutral_local local_stopClient)
    intro _
    apply Releases.after (neutral_set _)
    intro _
    apply releases_release
    apply only_bind (neutral_sendDataToQ _)
    intro _
    apply only_bind (neutral_sendDataToQ _)
    intro _
    apply only_bind (neutral_sendDataToQ _)
    intro _
    apply only_pure

theorem balanced_sendPppdStartEventToQ {n : ℕ} (hi : i = n - 1) :
  Balanced R L W i (sendPppdStartEventToQ n)
  := by
  apply balanced_getIfaceDataLocked hi
  · apply balanced_pure
  · apply Releases.after neutral_load
    intro pEntry
    apply Releases.after (neutral_sendDataToQ _)
    rintro (_ | _)
    · apply Releases.after (neutral_set _)
      intro _
      apply releases_pure
    · apply releases_pure

theorem balanced_enableIf {n : ℕ} (hi : i = n - 1) (enable : Bool) :
  Balanced R L W i (enableIf b n enable)
  := by
  apply Balanced.ite
  · intro _
    apply (balanced_sendPppdStartEventToQ hi).bind
    rintro (_ | _) <;> apply balanced_pure
  · intro _
    apply (balanced_stopPppClient hi).bind
    rintro (_ | _) <;> apply balanced_pure

theorem balanced_pppDmlIfReset {n : ℕ} (hi : i = n - 1) :
  Balanced R L W i (pppDmlIfReset b n)
  := by
  apply (balanced_stopPppClient hi).bind
  rintro (_ | _)
  · apply (balanced_sendPppdStartEventToQ hi).bind
    rintro (_ | _) <;> apply balanced_pure
  · apply balanced_pure

/-! ### Messages -/

theorem releases_postLinkStatus (wanPppLinkStatus : CStr) :
  Releases R L W i (postLinkStatus b i wanPppLinkStatus)
  := by
  apply Releases.after neutral_load
  intro pEntry
  apply Releases.after (neutral_sendDataToQ _)
  rintro (_ | _)
  · apply Releases.after (neutral_sendDataToQ _)
    rintro (_ | _) <;> apply releases_pure
  · apply releases_pure

theorem balanced_processStateChangedMsg {n : ℤ} {msg : IpcPppEventMsg} (hi : i = n.toNat - 1) :
  Balanced R L W i (processStateChangedMsg b n msg)
  := by
  apply Balanced.ite
  · intro _
    apply balanced_pure
  · intro _
    apply balanced_getIfaceDataLocked hi
    · apply balanced_pure
    · apply Releases.after (neutral_local (local_switchPppState msg))
      rintro (_ | wanPppLinkStatus)
      · apply releases_pure
      · apply releases_postLinkStatus

theorem releases_rejectIpcpParams :
  Releases R L W i (rejectIpcpParams b i)
  := by
  apply Releases.after neutral_load
  intro pEntry
  apply Releases.after (neutral_sendDataToQ _)
  intro _
  apply releases_pure

theorem releases_acceptIpcpParams :
  Releases R L W i (acceptIpcpParams b i)
  := by
  apply Releases.after neutral_load
  intro pEntry
  apply Releases.after (neutral_sendDataToQ _)
  rintro (_ | _) <;> apply releases_pure

theorem releases_storeIpcpParams (msg : PppIpcpMsg) :
  Releases R L W i (storeIpcpParams b i msg)
  := by
  rw [storeIpcpParams]
  apply Releases.after (neutral_set _)
  intro _
  apply Releases.after (neutral_set _)
  intro _
  apply Releases.after (neutral_set _)
  intro _
  obtain ⟨ip, ret⟩ := dmlSetIp4Param msg.ip (fun _ => 0)
  apply Releases.after (neutral_set _)
  intro _
  cases ret with
  | failure => apply releases_rejectIpcpParams
  | success =>
      obtain ⟨gateway, ret⟩ := dmlSetIp4Param msg.gateway (fun _ => 0)
      apply Releases.after (neutral_set _)
      intro _
      cases ret with
      | failure => apply releases_rejectIpcpParams
      | success =>
          dsimp only
          cases dnsServersOf (strtok ',' msg.nameserver) with
          | none => apply releases_rejectIpcpParams
          | some dnsServers =>
              apply Releases.after (neutral_set _)
              intro _
              apply releases_acceptIpcpParams

theorem balanced_processIpcpParams {n : ℤ} {msg : IpcPppEventMsg} (hi : i = n.toNat - 1) :
  Balanced R L W i (processIpcpParams b n msg)
  := by
  have hdown : Balanced R L W i (do let _ ← setIPCPStatusDown b n; pure AnscStatus.failure) := by
    apply balanced_of_neutral
    apply only_bind (neutral_sendDataToQ _)
    intro _
    apply only_pure
  apply Balanced.ite
  · intro _
    apply balanced_pure
  · intro _
    apply Balanced.ite
    · intro _
      apply hdown
    · intro _
      apply Balanced.ite
      · intro _
        apply hdown
      · intro _
        apply balanced_getIfaceDataLocked hi
        · apply balanced_pure
        · apply releases_storeIpcpParams

theorem balanced_processIpv6cpParams {n : ℤ} {msg : IpcPppEventMsg} (hi : i = n.toNat - 1) :
  Balanced R L W i (processIpv6cpParams b n msg)
  := by
  apply Balanced.ite
  · intro _
    apply balanced_pure
  · intro _
    apply balanced_getIfaceDataLocked hi
    · apply balanced_pure
    · apply Releases.after neutral_load
      intro pEntry
      apply Releases.ite
      · intro _
        apply Releases.after (neutral_local (local_storeIpv6cpParams _))
        intro _
        apply Releases.after (reads_op (P := Op.IsNeutral W) (o := .generateDuidFile _) False.elim)
        intro _
        apply Releases.after (neutral_sendDataToQ _)
        rintro (_ | _) <;> apply releases_pure
      · intro _
        apply Releases.after (reads_op (P := Op.IsNeutral W) (o := .removeDuidFile _) False.elim)
        intro _
        apply Releases.after (neutral_sendDataToQ _)
        intro _
        apply releases_pure

/-- The mutexes a lookup by pid takes are given back one after the other, so that none but those in
`L` is held while the next one is taken. -/
theorem balanced_getIfaceDataWithPidLoop (pid : ℤ) (n k : ℕ) :
  ∀ s, (∀ j, t ∈ s.locks j → L j) →
    (guarded R L W).wp (getIfaceDataWithPidLoop pid n k) (fun _ s' => owns t s' = owns t s) s
  := by
  induction k generalizing n with
  | zero =>
      intro s _
      rfl
  | succ k ih =>
      intro s hheld
      have hone : ∀ i, HoldsOnly t L i s := fun i j hj => .inl (hheld j hj)
      rw [getIfaceDataWithPidLoop, Contract.wp_bind]
      apply guarded_getIfaceDataLocked (hone (n - 1)).not_two _ _ rfl
      · apply ih _ s hheld
      · intro s' _ _ _ hs' _
        have htaken := R.owns_taken hs'
        have htwo := ((hone (n - 1)).of_update htaken).not_two
        rw [Contract.wp_bind]
        apply guarded_load htwo
        have hrelease : ∀ {Q : Unit → Sys → Prop}, (∀ s₁, owns t s₁ = owns t s → Q () s₁) →
            (guarded R L W).wp (getIfaceDataRelease (n - 1)) Q
              (s'.setLock (n - 1) (t :: s'.locks (n - 1))) := by
          intro Q hQ
          apply guarded_unlock mem_setLock_self htwo
          intro s₁ hs₁
          apply hQ
          rw [hs₁, htaken, owns_released]
        split_ifs
        · rw [Contract.wp_bind]
          apply hrelease
          intro s₁ hs₁
          apply hs₁
        · rw [Contract.wp_bind]
          apply hrelease
          intro s₁ hs₁
          rw [← hs₁]
          apply ih _ s₁
          intro j hj
          rw [← owns_pos, hs₁, owns_pos] at hj
          apply hheld j hj

/-! ### Starting a client -/

/-- The entry is started with a read of its VLAN from the WAN manager, if the HAL gives the
credentials that do not come from the database. -/
structure DmlPppIfFull.AsksVlan (b : Build) (e : DmlPppIfFull) : Prop where
  noDaemon : b.usePppDaemon = false
  pppoe : e.cfg.linkType = .pppoe
  name : e.info.name ≠ []
  serviceName : e.info.interfaceServiceName ≠ []
  authenticationProtocol : e.info.authenticationProtocol ≠ .unset
  credentials : b.pppUsernamePasswordFromPsm = true → e.cfg.username ≠ [] ∧ e.cfg.password ≠ []

theorem Attempted.asksVlan {e e' : DmlPppIfFull} (h : Attempted b e e') (hparams : e'.hasPppParams)
    (hdaemon : b.usePppDaemon = false) (hlink : e'.cfg.linkType = .pppoe) :
  e.AsksVlan b
  := by
  obtain ⟨u, p, ⟨hfromPsm, -⟩, rfl⟩ := h
  simp only [DmlPppIfFull.hasPppParams, Bool.and_eq_true, decide_eq_true_eq] at hparams
  obtain ⟨⟨⟨⟨hname, hservice⟩, husername⟩, hpassword⟩, hauth⟩ := hparams
  refine ⟨hdaemon, hlink, hname, hservice, hauth, ?_⟩
  intro hb
  obtain ⟨rfl, rfl⟩ := hfromPsm hb
  exact ⟨husername, hpassword⟩

/-- The part of `PppMgr_StartPppClient` after the check that no client is running. -/
theorem guarded_launchPppClient {w v : ℤ} (hlock : t ∈ s.locks i) (hheld : HoldsOnly t L i s)
    (hask : (s.table i).AsksVlan b → W) :
  (guarded R L W).wp (launchPppClient b i w v)
    (fun _ s' => owns t s' = update (owns t s) i (owns t s i - 1)) s
  := by
  have hrest : ∀ s', Attempted b (s.table i) (s'.table i) → owns t s' = owns t s →
      (guarded R L W).wp (launchConfigured b i w v)
        (fun _ s' => owns t s' = update (owns t s) i (owns t s i - 1)) s' := by
    intro s' he hs'
    have hheld' := hheld.of_owns hs'
    rw [launchConfigured, Contract.wp_bind]
    apply guarded_load hheld'.not_two
    rw [← owns_pos, ← hs', owns_pos] at hlock
    rw [← hs']
    apply Releases.ite _ _ s' hlock hheld'
    · intro hparams
      apply Releases.after
      · apply neutral_local (i := i) (local_configureClient _)
        intro hdaemon hlink
        apply hask (he.asksVlan hparams hdaemon hlink)
      · rintro (_ | command)
        · apply releases_pure
        · apply Releases.after (neutral_local (i := i) (local_system _))
          intro _
          apply Releases.after (neutral_local (K := AnyWrite) (C := True) (i := i)
            (only_getPppPid trivial none))
          intro pid
          apply Releases.after (neutral_set _)
          intro _
          apply Releases.after (neutral_set _)
          intro _
          apply releases_pure
    · intro _
      apply releases_pure
  rw [launchPppClient_eq, Contract.wp_bind]
  apply guarded_store hheld.not_two
  split_ifs with hfromPsm
  · apply hrest (s.setEntry i ((s.table i).setPppPid 0)) _ rfl
    use (s.table i).cfg.username, (s.table i).cfg.password
    rw [Sys.setEntry_table, update_self]
    exact ⟨⟨fun _ => ⟨rfl, rfl⟩, .inl rfl, .inl rfl⟩, rfl⟩
  · rw [Contract.wp_bind]
    have hcredentials : (contract t (fun _ _ => True) True).wp (getCredentialsFromHal i)
        (fun _ s' => Attempted b (s.table i) (s'.table i))
        (s.setEntry i ((s.table i).setPppPid 0)) := by
      apply wp_getCredentialsFromHal
      intro u p hu hp
      use u, p
      rw [Sys.setEntry_table, update_self] at hu hp
      rw [Sys.setEntry_table, Sys.setEntry_table, update_self, update_self]
      exact ⟨⟨fun h => absurd h hfromPsm, hu, hp⟩, rfl⟩
    have hneutral : Only (Op.IsNeutral W) (getCredentialsFromHal i) :=
      neutral_local local_getCredentialsFromHal
    apply Contract.wp_mono _ (guarded_and (hneutral.mono (fun _ => Op.IsNeutral.takesNoMutex))
      hcredentials (guarded_of_neutral hneutral hheld.not_two))
    rintro _ s' ⟨he, hs'⟩
    apply hrest s' he hs'

/-- The part of `PppMgr_StartPppClient` after `PppMgr_GetWanIfaceInstance`. -/
theorem guarded_startFrom {n : ℕ} {w v : ℤ} (hi : i = n - 1) (hheld : HoldsOnly t L i s)
    (hask : ∀ s', n = i + 1 → i < pppTableLength → i < s.pppIfCount.toNat → R.leads i s s' →
      (s'.table i).AsksVlan b → W) :
  (guarded R L W).wp (startFrom b n w v) (fun _ s' => owns t s' = owns t s) s
  := by
  rw [startFrom]
  split_ifs
  · rfl
  · rw [Contract.wp_bind]
    apply guarded_getIfaceDataLocked hheld.not_two _ _ hi
    · apply balanced_undefined s hheld
    · intro s' hn hlength hcount hs' _
      have htaken := R.owns_taken hs'
      have hheld' := hheld.of_update htaken
      rw [Contract.wp_bind]
      apply guarded_load hheld'.not_two
      have hneutral : ∀ pid, Only (Op.IsNeutral W) (checkPidExist pid) := fun pid =>
        neutral_local (K := AnyWrite) (C := True) (i := i) (only_checkPidExist trivial pid)
      rw [Contract.wp_bind]
      apply Contract.wp_mono _ (guarded_and ((hneutral _).mono (fun _ => Op.IsNeutral.takesNoMutex))
        (wp_of_queries (A := fun _ _ => True) (F := True) (Q := fun _ s' => s' = _)
          (reads_checkPidExist _) (fun _ => rfl))
        (guarded_of_neutral (hneutral _) hheld'.not_two))
      rintro q s₁ ⟨rfl, -⟩
      cases q with
      | success =>
          have h := releases_pure (R := R) (L := L) (W := W) AnscStatus.success _ mem_setLock_self hheld'
          rw [htaken, owns_released] at h
          apply h
      | failure =>
          have h := guarded_launchPppClient (R := R) (w := w) (v := v) mem_setLock_self hheld'
            (hask s' hn hlength hcount hs')
          rw [htaken, owns_released] at h
          apply h

/-- `PppMgr_StartPppClient` asks the WAN manager before it takes the mutex, and afterwards for the
VLAN of its entry. -/
theorem guarded_startPppClient {n : ℕ} (hi : i = n - 1) (hheld : HoldsOnly t L i s)
    (hfree : W ∨ HoldsNone t s)
    (hask : ∀ s', n = i + 1 → i < pppTableLength → i < s.pppIfCount.toNat → R.leads i s s' →
      (s'.table i).AsksVlan b → W) :
  (guarded R L W).wp (startPppClient b n) (fun _ s' => owns t s' = owns t s) s
  := by
  rw [startPppClient_eq, Contract.wp_bind]
  apply guarded_of_reads ((reads_getWanIfaceInstance _ _ _).mono (fun _ => Op.IsQuery.isRead))
    hheld.not_two hfree
  intro r
  apply guarded_startFrom hi hheld hask

end

end PppManager
