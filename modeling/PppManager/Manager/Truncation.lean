import PppManager.Effect.Checked
import PppManager.Manager.Arrays
import PppManager.Manager.EventSteps
import PppManager.Manager.WanAccess

/-!
# The texts of a start

`PppMgr_StartPppClient` writes its commands and the name of the VLAN parameter to buffers of fixed
sizes.  Most of them fit for any entry; a `pppd` command for PPPoA and the name of the VLAN parameter
may not, and are then used as far as they have been written (`neverCuts_iff`).
-/

namespace PppManager

open Effect Effect.Program Function CText

/-- The text of the command that starts a `pppd` with a plugin on a service. -/
def pppdText (lib service : CStr) (e : DmlPppIfFull) : CStr :=
  printf
    ("pppd nodetach plugin %s %s user %s password %s nodeflate %s +ipv6 usepeerdns " ++
      "ifname %s persist &").toList
    [.str lib, .str service, .str e.cfg.username, .str e.cfg.password,
      .str (authProto e.info.authenticationProtocol), .str e.cfg.ifAlias]

/-- The text of the name of the parameter that holds the name of the VLAN interface. -/
def DmlPppIfFull.vlanText (e : DmlPppIfFull) : CStr :=
  printf "%s.%s".toList [.str e.cfg.lowerLayers, .str "Name".toList]

/-- The command is the whole text of a format, for the entry `e` and the names read for it, or the
empty one of a link type that has no format. -/
inductive IsExpansion (b : Build) (e : DmlPppIfFull) : CStr → Prop
  | noLink (hlink : e.hasLink = false) : IsExpansion b e []
  | pppdPppoa (hdaemon : b.usePppDaemon = true) (hlink : e.cfg.linkType = .pppoa) :
      IsExpansion b e (pppdText pppoaLib e.info.interfaceServiceName e)
  | pppdPppoe (hdaemon : b.usePppDaemon = true) (hlink : e.cfg.linkType = .pppoe) :
      IsExpansion b e (pppdText pppoeLib pppoeVlanIfName e)
  | pppoaConfig (hdaemon : b.usePppDaemon = false) (hlink : e.cfg.linkType = .pppoa) :
      IsExpansion b e (pppoaConfigCommand e)
  | pppoeConfig (vlan : CStr) (hvlan : vlan.length < 32) (hdaemon : b.usePppDaemon = false)
      (hlink : e.cfg.linkType = .pppoe) : IsExpansion b e (pppoeConfigCommand vlan e)
  | padt (vlan mac : CStr) (hvlan : vlan.length < 32) (hmac : mac.length < 256)
      (hdaemon : b.usePppDaemon = false) (hlink : e.cfg.linkType = .pppoe) :
      IsExpansion b e (padtCommand vlan mac e)
  | pppoeStart (hdaemon : b.usePppDaemon = false) (hlink : e.hasLink = true) :
      IsExpansion b e pppoeStart

/-- The operation runs a command, or asks for a parameter, with a text that has been cut off. -/
def Op.IsCut (b : Build) (i : ℕ) : Op → Sys → Prop
  | .system command, s => ¬ IsExpansion b (s.table i) command
  | .busGet _ _ name, s => ¬ (IsWanName b name ∨ name = (s.table i).vlanText)
  | _, _ => False

/-- The credentials a start may use for the entry: those of the entry, or those of the HAL, which
fit the arrays. -/
def MayUse (b : Build) (e : DmlPppIfFull) (u p : CStr) : Prop :=
  if b.pppUsernamePasswordFromPsm then u = e.cfg.username ∧ p = e.cfg.password
  else u.length ≤ 64 ∧ p.length ≤ 64

/-- The texts of a start of the entry fit the buffers. -/
structure TextsFit (b : Build) (e : DmlPppIfFull) : Prop where
  pppd : b.usePppDaemon = true → e.cfg.linkType = .pppoa → ∀ u p, MayUse b e u p →
    ((e.setUsername u).setPassword p).hasPppParams = true →
    (pppdText pppoaLib e.info.interfaceServiceName ((e.setUsername u).setPassword p)).length ≤ 1023
  vlan : e.AsksVlan b → e.cfg.lowerLayers.length ≤ 250

/-! ### Lengths -/

section

variable {e : DmlPppIfFull}

theorem length_vlanText :
  e.vlanText.length = e.cfg.lowerLayers.length + 5
  := by
  have hname : "Name".toList.length = 4 := by
    decide
  have htext : e.vlanText = e.cfg.lowerLayers ++ '.' :: ("Name".toList ++ []) := rfl
  rw [htext, List.length_append, List.length_cons, List.append_nil, hname]

theorem length_authProto (a : DmlPppAuth) :
  (authProto a).length ≤ 60
  := by
  cases a <;> decide

/-- The command of a PPPoE interface fits, whatever the entry. -/
theorem length_pppdText_pppoe (he : e.ArraysFit) :
  (pppdText pppoeLib pppoeVlanIfName e).length ≤ 1023
  := by
  have husername : e.cfg.username.length < 65 := he (_, _) (by simp [DmlPppIfFull.arrays])
  have hpassword : e.cfg.password.length < 65 := he (_, _) (by simp [DmlPppIfFull.arrays])
  have halias : e.cfg.ifAlias.length < 512 := he (_, _) (by simp [DmlPppIfFull.arrays])
  have hauth := length_authProto e.info.authenticationProtocol
  have hlib : pppoeLib.length ≤ 40 := by
    decide
  have hservice : pppoeVlanIfName.length ≤ 10 := by
    decide
  have hformat : ("pppd nodetach plugin %s %s user %s password %s nodeflate %s +ipv6 usepeerdns " ++
      "ifname %s persist &").toList.length ≤ 110 := by
    decide +kernel
  apply Nat.le_trans (length_printf_le _ _)
  simp only [List.map_cons, List.map_nil, List.sum_cons, List.sum_nil, Arg.text_str]
  omega

theorem length_pppoaConfigCommand (he : e.ArraysFit) :
  (pppoaConfigCommand e).length ≤ 1023
  := by
  have husername : e.cfg.username.length < 65 := he (_, _) (by simp [DmlPppIfFull.arrays])
  have hpassword : e.cfg.password.length < 65 := he (_, _) (by simp [DmlPppIfFull.arrays])
  have hname : e.info.name.length < 64 := he (_, _) (by simp [DmlPppIfFull.arrays])
  have hservice : e.info.interfaceServiceName.length < 512 := he (_, _) (by simp [DmlPppIfFull.arrays])
  have hecho := length_dec_toLong e.info.lcpEcho
  have hretry := length_dec_toLong e.info.lcpEchoRetry
  have hformat : "pppoe_config.sh %s %s %s %s PPPoA %ld %ld".toList.length ≤ 50 := by
    decide
  apply Nat.le_trans (length_printf_le _ _)
  simp only [List.map_cons, List.map_nil, List.sum_cons, List.sum_nil, Arg.text_str, Arg.text_int]
  omega

theorem length_padtCommand {vlan mac : CStr} (hvlan : vlan.length < 32) (hmac : mac.length < 256) :
  (padtCommand vlan mac e).length ≤ 1023
  := by
  have hsession := length_dec_toLong e.info.sessionID
  have hformat : "pppoe -I %s -e %ld:%s -k".toList.length ≤ 30 := by
    decide
  apply Nat.le_trans (length_printf_le _ _)
  simp only [List.map_cons, List.map_nil, List.sum_cons, List.sum_nil, Arg.text_str, Arg.text_int]
  omega

end

/-! ### What a start performs -/

/-- The contract under which no text is cut off. -/
def uncut (t : Thread) (b : Build) (i : ℕ) : Contract (machine t) where
  Allows := fun _ _ => True
  Safe := fun o s => ¬ o.IsCut b i s
  Admits := fun _ => True

/-- The operation runs no command, and asks only for the parameters that tell the WAN interface. -/
def Op.IsWhole (b : Build) : Op → Prop
  | .system _ => False
  | .busGet _ _ name => IsWanName b name
  | _ => True

/-- The operation belongs to the configuration of the client of the entry `e`, with whole texts. -/
def Op.Configures (b : Build) (e : DmlPppIfFull) : Op → Prop
  | .system command => IsExpansion b e command
  | .busGet _ _ name => name = e.vlanText
  | .readFile _ => True
  | .undefined _ => True
  | _ => False

section

variable {t : Thread} {b : Build} {ω : Answers} {i k : ℕ} {s : Sys} {e : DmlPppIfFull} {α : Type}

theorem Op.IsWhole.not_isCut {o : Op} (ho : o.IsWhole b) :
  ¬ o.IsCut b i s
  := by
  cases o with
  | system command => apply ho.elim
  | busGet component bus name => apply not_not.mpr (Or.inl ho)
  | _ => apply not_false

theorem uncut_of_whole {p : Code α} (hp : Only (Op.IsWhole b) p) {Q : α → Sys → Prop}
    (h : (contract t (fun _ _ => True) True).wp p Q s) :
  (uncut t b i).wp p Q s
  := by
  have hwhole : (uncut t b i).wp p (fun _ _ => True) s := by
    apply Contract.wp_of_only (P := Op.IsWhole b) (I := fun _ => True) _ _ hp trivial
    · intro o s' ho _
      apply ho.not_isCut
    · intro o x s' _ _ _
      cases (machine t).step o x s' <;> trivial
  apply Contract.wp_mono _ (Contract.wp_and (D := uncut t b i) (fun _ _ _ _ => trivial) h hwhole)
  intro a s' hQ
  apply hQ.1

theorem uncut_whole {p : Code α} (hp : Only (Op.IsWhole b) p) :
  (uncut t b i).wp p (fun _ _ => True) s
  := by
  apply uncut_of_whole hp
  apply Contract.wp_of_only (P := fun _ => True) (I := fun _ => True) _ _ (hp.mono fun _ _ => trivial)
    trivial
  · intro o s' _ _ _
    right
    trivial
  · intro o x s' _ _ _
    cases (machine t).step o x s' with
    | ok r => trivial
    | error e =>
        intro _
        trivial

/-! ### The configuration -/

theorem ends_dmlPppMgrGetParamValues {component bus name pReturnVal : CStr} {size : ℕ}
    (hsize : pReturnVal.length < size) :
  Ends (fun r => ∀ v ∈ r, v.length < size)
    (dmlPppMgrGetParamValues component bus name size pReturnVal)
  := by
  apply ends_bind
  rintro (_ | _ | v)
  · nofun
  · rintro _ ⟨⟩
    apply hsize
  · dsimp only
    split_ifs with hv
    · rintro _ ⟨⟩
      apply hv
    · nofun

theorem only_systemIfFits {text : CStr} (htext : IsExpansion b e text) (hlength : text.length ≤ 1023) :
  Only (Op.Configures b e) (systemIfFits text)
  := by
  apply only_ite
  · intro _
    rw [List.take_of_length_le hlength]
    apply reads_op (P := Op.Configures b e) (o := .system text) htext
  · intro _
    apply only_pure

theorem only_sendPadt {vlan : CStr} (hdaemon : b.usePppDaemon = false)
    (hlink : e.cfg.linkType = .pppoe) (hvlan : vlan.length < 32) :
  Only (Op.Configures b e) (sendPadt vlan e)
  := by
  apply only_bind (reads_op (P := Op.Configures b e) (o := .readFile _) trivial)
  rintro (_ | text)
  · apply only_pure
  · apply only_ite
    · intro hmac
      apply only_systemIfFits (.padt _ _ hvlan hmac hdaemon hlink) (length_padtCommand hvlan hmac)
    · intro _
      apply reads_undefined (P := Op.Configures b e) trivial

/-- The configuration of a client uses whole texts if that of the VLAN parameter fits. -/
theorem only_configureClient (he : e.ArraysFit)
    (hvlan : b.usePppDaemon = false → e.cfg.linkType = .pppoe → e.cfg.lowerLayers.length ≤ 250) :
  Only (Op.Configures b e) (configureClient b e)
  := by
  rw [configureClient]
  cases hlink : e.cfg.linkType with
  | unset | other v => apply only_pure
  | pppoa =>
      apply only_ite
      · intro _
        apply only_pure
      · intro hdaemon
        apply only_bind
        · apply only_systemIfFits (.pppoaConfig (Bool.of_not_eq_true hdaemon) hlink)
            (length_pppoaConfigCommand he)
        · intro _
          apply only_pure
  | pppoe =>
      apply only_ite
      · intro _
        apply only_pure
      · intro hdaemon
        have hdaemon := Bool.of_not_eq_true hdaemon
        have hname : e.vlanParamName = e.vlanText := by
          apply List.take_of_length_le
          have hlength := hvlan hdaemon hlink
          rw [← DmlPppIfFull.vlanText, length_vlanText]
          omega
        have hget : (Op.busGet wanComponentName wanDbusPath e.vlanParamName).Configures b e := hname
        have husername : e.cfg.username.length < 65 := he (_, _) (by simp [DmlPppIfFull.arrays])
        have hpassword : e.cfg.password.length < 65 := he (_, _) (by simp [DmlPppIfFull.arrays])
        have hname : e.info.name.length < 64 := he (_, _) (by simp [DmlPppIfFull.arrays])
        apply only_bind_ends (only_dmlPppMgrGetParamValues (P := Op.Configures b e) trivial hget 32 [])
          (ends_dmlPppMgrGetParamValues (Nat.zero_lt_succ 31))
        rintro (_ | vlan) hlength
        · apply only_pure
        · have hvlan := hlength vlan rfl
          apply only_bind
          · apply only_systemIfFits (.pppoeConfig _ hvlan hdaemon hlink)
              (length_pppoeConfigCommand hvlan hname husername hpassword)
          · intro _
            apply only_bind (only_sendPadt hdaemon hlink hvlan)
            intro _
            apply only_pure

/-- The start command is a whole text if that of a PPPoA interface fits. -/
theorem ends_configureClient (he : e.ArraysFit)
    (hpppd : b.usePppDaemon = true → e.cfg.linkType = .pppoa →
      (pppdText pppoaLib e.info.interfaceServiceName e).length ≤ 1023) :
  Ends (fun o => ∀ command ∈ o, IsExpansion b e command) (configureClient b e)
  := by
  have hsome : ∀ {text}, IsExpansion b e text →
      Ends (fun o => ∀ command ∈ o, IsExpansion b e command) (pure (some text) : Code (Option CStr)) := by
    rintro text htext _ ⟨⟩
    apply htext
  rw [configureClient]
  cases hlink : e.cfg.linkType with
  | unset | other v =>
      apply hsome
      apply IsExpansion.noLink
      rw [DmlPppIfFull.hasLink, hlink]
      rfl
  | pppoa =>
      have hlinked : e.hasLink = true := by
        rw [DmlPppIfFull.hasLink, hlink]
        rfl
      dsimp only
      split_ifs with hdaemon
      · apply hsome
        have hfits : pppdCommand pppoaLib e.info.interfaceServiceName e =
            pppdText pppoaLib e.info.interfaceServiceName e :=
          List.take_of_length_le (hpppd hdaemon hlink)
        rw [hfits]
        apply IsExpansion.pppdPppoa hdaemon hlink
      · apply ends_bind
        intro _
        apply hsome (.pppoeStart (Bool.of_not_eq_true hdaemon) hlinked)
  | pppoe =>
      have hlinked : e.hasLink = true := by
        rw [DmlPppIfFull.hasLink, hlink]
        rfl
      dsimp only
      split_ifs with hdaemon
      · apply hsome
        have hfits : pppdCommand pppoeLib pppoeVlanIfName e = pppdText pppoeLib pppoeVlanIfName e :=
          List.take_of_length_le (length_pppdText_pppoe he)
        rw [hfits]
        apply IsExpansion.pppdPppoe hdaemon hlink
      · apply ends_bind
        rintro (_ | vlan)
        · rintro _ ⟨⟩ _ ⟨⟩
        · apply ends_bind
          intro _
          apply ends_bind
          intro _
          apply hsome (.pppoeStart (Bool.of_not_eq_true hdaemon) hlinked)

/-! ### The start -/

theorem whole_load {j : ℕ} :
  Only (Op.IsWhole b) (load j)
  := reads_op (P := Op.IsWhole b) (o := .load j) trivial

theorem whole_store {j : ℕ} (f : DmlPppIfFull → DmlPppIfFull) :
  Only (Op.IsWhole b) (store j f)
  := reads_op (P := Op.IsWhole b) (o := .store j f) trivial

theorem whole_release {j : ℕ} (q : AnscStatus) :
  Only (Op.IsWhole b) (do getIfaceDataRelease j; pure q)
  := by
  apply only_bind (reads_op (P := Op.IsWhole b) (o := .unlock j) trivial)
  intro _
  apply only_pure

theorem whole_recordClient {j : ℕ} {w v : ℤ} :
  Only (Op.IsWhole b) (recordClient j w v)
  := by
  apply only_bind (only_getPppPid (P := Op.IsWhole b) trivial none)
  intro pid
  apply only_bind (whole_store _)
  intro _
  apply only_bind (whole_store _)
  intro _
  apply whole_release

theorem whole_getCredentialsFromHal {j : ℕ} :
  Only (Op.IsWhole b) (getCredentialsFromHal j)
  := only_getCredentialsFromHal trivial trivial fun _ => trivial

theorem uncut_launchConfigured (he : e.ArraysFit) (htable : s.table i = e)
    (hpppd : e.hasPppParams = true → b.usePppDaemon = true → e.cfg.linkType = .pppoa →
      (pppdText pppoaLib e.info.interfaceServiceName e).length ≤ 1023)
    (hvlan : e.hasPppParams = true → b.usePppDaemon = false → e.cfg.linkType = .pppoe →
      e.cfg.lowerLayers.length ≤ 250) {w v : ℤ} :
  (uncut t b i).wp (launchConfigured b i w v) (fun _ _ => True) s
  := by
  rw [launchConfigured, Contract.wp_bind]
  apply uncut_of_whole whole_load
  rw [wp_load]
  intro _
  rw [htable]
  split_ifs with hparams
  · rw [Contract.wp_bind]
    have hconfigure : (uncut t b i).wp (configureClient b e) (fun _ s' => s'.table i = e) s := by
      apply Contract.wp_of_only (P := Op.Configures b e) (I := fun s' : Sys => s'.table i = e) _ _
        (only_configureClient he (hvlan hparams)) htable
      · intro o s' ho hs'
        cases o with
        | system command =>
            show ¬ ¬ IsExpansion b (s'.table i) command
            rw [hs']
            apply not_not.mpr ho
        | busGet component bus name =>
            show ¬ ¬ (IsWanName b name ∨ name = (s'.table i).vlanText)
            rw [hs']
            apply not_not.mpr (Or.inr ho)
        | _ => apply not_false
      · intro o x s' ho _ hs'
        cases o <;> first | apply hs' | apply ho.elim | trivial
    apply Contract.wp_mono _ (Contract.wp_of_ends (ends_configureClient he (hpppd hparams)) hconfigure)
    rintro (_ | command) s' ⟨hs', hcommand⟩
    · apply uncut_whole (whole_release _)
    · rw [Contract.wp_bind]
      constructor
      · show ¬ ¬ IsExpansion b (s'.table i) command
        rw [hs']
        apply not_not.mpr (hcommand command rfl)
      · intro _ _
        apply uncut_whole whole_recordClient
  · apply uncut_whole (whole_release _)

/-- The credentials of a start are such as it may use. -/
theorem mayUse_of_readAnew {u p : CStr} (he : e.ArraysFit)
    (hpsm : b.pppUsernamePasswordFromPsm = true → u = e.cfg.username ∧ p = e.cfg.password)
    (hu : ReadAnew e.cfg.username u) (hp : ReadAnew e.cfg.password p) :
  MayUse b e u p
  := by
  have husername : e.cfg.username.length < 65 := he (_, _) (by simp [DmlPppIfFull.arrays])
  have hpassword : e.cfg.password.length < 65 := he (_, _) (by simp [DmlPppIfFull.arrays])
  have hlength : ∀ {old new : CStr}, old.length < 65 → ReadAnew old new → new.length ≤ 64 := by
    rintro old new hold (rfl | hnew)
    · apply Nat.le_of_lt_succ hold
    · apply hnew
  rw [MayUse]
  split_ifs with hfromPsm
  · apply hpsm hfromPsm
  · exact ⟨hlength husername hu, hlength hpassword hp⟩

theorem uncut_launchPppClient {w v : ℤ} (he : (s.table i).ArraysFit) (htexts : TextsFit b (s.table i)) :
  (uncut t b i).wp (launchPppClient b i w v) (fun _ _ => True) s
  := by
  have hrest : ∀ s', Attempted b (s.table i) (s'.table i) →
      (uncut t b i).wp (launchConfigured b i w v) (fun _ _ => True) s' := by
    intro s' h
    obtain ⟨u, p, ⟨hpsm, hu, hp⟩, htable⟩ := id h
    have hfits : (s'.table i).ArraysFit := by
      rw [htable]
      apply arraysFit_credentials (e := (s.table i).setPppPid 0) he hu hp
    apply uncut_launchConfigured hfits rfl
    · intro hparams hdaemon hlink
      rw [htable] at hparams hlink ⊢
      apply htexts.pppd hdaemon hlink u p (mayUse_of_readAnew he hpsm hu hp) hparams
    · intro hparams hdaemon hlink
      have hvlan := htexts.vlan (h.asksVlan hparams hdaemon hlink)
      rw [htable]
      apply hvlan
  rw [launchPppClient_eq, Contract.wp_bind]
  apply uncut_of_whole (whole_store _)
  rw [wp_store]
  intro _
  split_ifs with hfromPsm
  · apply hrest
    rw [Sys.setEntry_table, update_self]
    use (s.table i).cfg.username, (s.table i).cfg.password
    exact ⟨⟨fun _ => ⟨rfl, rfl⟩, .inl rfl, .inl rfl⟩, rfl⟩
  · rw [Contract.wp_bind]
    apply uncut_of_whole whole_getCredentialsFromHal
    apply wp_getCredentialsFromHal
    intro u p hu hp
    apply hrest
    rw [Sys.setEntry_table, update_self] at hu hp
    rw [Sys.setEntry_table, Sys.setEntry_table, update_self, update_self]
    use u, p
    exact ⟨⟨fun h => absurd h hfromPsm, hu, hp⟩, rfl⟩

theorem uncut_startPppClient (he : (s.table i).ArraysFit) (htexts : TextsFit b (s.table i)) :
  (uncut t b i).wp (startPppClient b (i + 1)) (fun _ _ => True) s
  := by
  have hwan : Only (Op.IsWhole b) (getWanIfaceInstance b (i + 1) (-1, -1)) :=
    only_getWanIfaceInstance (P := Op.IsWhole b) trivial b (fun _ h => h) _ _
  have hlookup : Only (Op.IsWhole b) (getIfaceDataLocked (i + 1)) :=
    only_getIfaceDataLocked (P := Op.IsWhole b) trivial (fun _ => trivial)
  rw [startPppClient_eq, Contract.wp_bind]
  apply uncut_of_whole hwan
  apply wp_of_queries (reads_getWanIfaceInstance _ _ _)
  intro pair
  rw [startFrom]
  split_ifs
  · trivial
  · rw [Contract.wp_bind]
    apply uncut_of_whole hlookup
    apply wp_getIfaceDataLocked
    · intro _
      apply uncut_whole (reads_undefined (P := Op.IsWhole b) trivial)
    · intro j hj _ _
      obtain rfl : i = j := Nat.succ.inj hj
      rw [Contract.wp_bind]
      apply uncut_of_whole whole_load
      rw [wp_load]
      intro _
      rw [Contract.wp_bind]
      apply uncut_of_whole (only_checkPidExist (P := Op.IsWhole b) trivial _)
      apply wp_of_queries (reads_checkPidExist _)
      rintro (_ | _)
      · apply uncut_whole (whole_release _)
      · apply uncut_launchPppClient (s := s.setLock i (t :: s.locks i)) he htexts

/-! ### Runs that cut a text off -/

/-- The answers of `askingAnswers`, with other credentials. -/
def credentialAnswers (u p : CStr) (n m : ℕ) : Answers
  | _, .halGetPppUserName => some u
  | _, .halGetPppPassword => some p
  | k, o => askingAnswers n m k o

theorem answersStart_credentialAnswers (u p : CStr) (n m : ℕ) :
  AnswersStart (credentialAnswers u p n m) n m
  := ⟨fun _ _ _ _ => rfl, fun _ => rfl, fun _ _ => rfl⟩

/-- The name of the VLAN parameter is cut off. -/
theorem isCut_vlan (hlink : (s.table i).cfg.lowerLayers.length > 250) {component bus : CStr} :
  (Op.busGet component bus (s.table i).vlanParamName).IsCut b i s
  := by
  have hlength : (s.table i).vlanParamName.length = 255 := by
    apply List.length_take_of_le
    rw [← DmlPppIfFull.vlanText, length_vlanText]
    omega
  rintro (hname | hname)
  · have hlt := hname.length_le
    omega
  · rw [hname, length_vlanText] at hlength
    omega

/-- A `pppd` command for PPPoA is cut off. -/
theorem isCut_pppd (hdaemon : b.usePppDaemon = true) (hlink : (s.table i).cfg.linkType = .pppoa)
    (hlong : (pppdText pppoaLib (s.table i).info.interfaceServiceName (s.table i)).length > 1023) :
  (Op.system (pppdCommand pppoaLib (s.table i).info.interfaceServiceName (s.table i))).IsCut b i s
  := by
  have hlength : (pppdCommand pppoaLib (s.table i).info.interfaceServiceName
      (s.table i)).length = 1023 := List.length_take_of_le (Nat.le_of_lt hlong)
  intro hexpansion
  revert hlength
  generalize pppdCommand pppoaLib (s.table i).info.interfaceServiceName (s.table i) = command at *
  intro hlength
  cases hexpansion with
  | noLink hlink' =>
      rw [DmlPppIfFull.hasLink, hlink] at hlink'
      cases hlink'
  | pppdPppoa => omega
  | pppdPppoe _ hlink' =>
      rw [hlink] at hlink'
      cases hlink'
  | pppoaConfig hdaemon' | pppoeConfig _ _ hdaemon' | padt _ _ _ _ hdaemon' | pppoeStart hdaemon' =>
      rw [hdaemon] at hdaemon'
      cases hdaemon'

/-- A start with the credentials of a PPPoA interface runs a command that is cut off. -/
theorem performs_launchConfigured_pppd {w v : ℤ} (hi : i < pppTableLength)
    (hdaemon : b.usePppDaemon = true) (hlink : (s.table i).cfg.linkType = .pppoa)
    (hparams : (s.table i).hasPppParams = true)
    (hlong : (pppdText pppoaLib (s.table i).info.interfaceServiceName (s.table i)).length > 1023) :
  (machine t).Performs ω (Op.IsCut b i) (launchConfigured b i w v) k s
  := by
  apply Machine.performs_bind.mpr
  right
  refine ⟨_, _, _, exec_load hi, ?_⟩
  rw [if_pos hparams]
  apply Machine.performs_bind.mpr
  right
  have hconfigure : configureClient b (s.table i) =
      pure (some (pppdCommand pppoaLib (s.table i).info.interfaceServiceName (s.table i))) := by
    rw [configureClient, hlink]
    dsimp only
    rw [if_pos hdaemon]
  rw [hconfigure]
  refine ⟨_, _, _, rfl, ?_⟩
  apply Machine.performs_bind.mpr
  left
  apply Machine.performs_perform
  apply isCut_pppd hdaemon hlink hlong

/-- Credentials a start may use are used, if the outside gives them. -/
theorem performs_start {B : Op → Sys → Prop} {u p : CStr} (hi : i < pppTableLength)
    (hcount : i < s.pppIfCount.toNat) (hfree : s.locks i = []) (hmay : MayUse b (s.table i) u p)
    (h : ∀ k s', s'.table i = (((s.table i).setPppPid 0).setUsername u).setPassword p →
      (machine t).Performs (credentialAnswers u p (i + 1) 0) B (launchConfigured b i 1 1) k s') :
  (machine t).Performs (credentialAnswers u p (i + 1) 0) B (startPppClient b (i + 1)) 0 s
  := by
  apply performs_startPppClient (answersStart_credentialAnswers u p _ _) hi hcount hfree
  intro k
  apply performs_launchPppClient (u := u) (p := p) hi
  · intro hfromPsm
    rw [MayUse, if_pos hfromPsm] at hmay
    apply hmay
  · intro hfromHal
    rw [MayUse, if_neg (Bool.not_eq_true _ ▸ hfromHal)] at hmay
    exact ⟨⟨fun _ => rfl, fun _ => rfl⟩, hmay⟩
  · intro k' s' _ htable
    apply h k' s' htable

end

/-- A start of an entry whose arrays hold strings uses no text that has been cut off, whatever the
outside answers, exactly if the texts fit. -/
theorem neverCuts_iff {t : Thread} {b : Build} {i : ℕ} {s : Sys} (hi : i < pppTableLength)
    (hcount : i < s.pppIfCount.toNat) (hfree : s.locks i = []) (he : (s.table i).ArraysFit) :
  (∀ ω k, ¬ (machine t).Performs ω (Op.IsCut b i) (startPppClient b (i + 1)) k s) ↔
    TextsFit b (s.table i)
  := by
  constructor
  · intro hnever
    constructor
    · intro hdaemon hlink u p hmay hparams
      by_contra hlong
      apply hnever (credentialAnswers u p (i + 1) 0) 0
      apply performs_start hi hcount hfree hmay
      intro k s' htable
      apply performs_launchConfigured_pppd hi hdaemon <;> rw [htable]
      · apply hlink
      · apply hparams
      · apply Nat.lt_of_not_le hlong
    · intro hask
      by_contra hlong
      obtain ⟨u, p, hmay, hu, hp⟩ : ∃ u p, MayUse b (s.table i) u p ∧ u ≠ [] ∧ p ≠ [] := by
        by_cases hfromPsm : b.pppUsernamePasswordFromPsm = true
        · use (s.table i).cfg.username, (s.table i).cfg.password
          rw [MayUse, if_pos hfromPsm]
          exact ⟨⟨rfl, rfl⟩, hask.credentials hfromPsm⟩
        · use "user".toList, "secret".toList
          rw [MayUse, if_neg hfromPsm]
          decide
      apply hnever (credentialAnswers u p (i + 1) 0) 0
      apply performs_start hi hcount hfree hmay
      intro k s' htable
      apply performs_launchConfigured hi hask hu hp htable
      have hvlan : (s.table i).vlanParamName = (s'.table i).vlanParamName := by
        rw [htable]
        rfl
      rw [hvlan]
      apply isCut_vlan
      rw [htable]
      apply Nat.lt_of_not_le hlong
  · intro htexts ω k
    apply Contract.wp_performs (C := uncut t b i) (fun _ _ => trivial) (fun _ _ h => h)
      (uncut_startPppClient he htexts)

theorem neverCuts_iff_fresh :
  (∀ ω k, ¬ (machine .event).Performs ω (Op.IsCut (plainBuild false) 0)
      (startPppClient (plainBuild false) (0 + 1)) k (freshState 1)) ↔
    TextsFit (plainBuild false) ((freshState 1).table 0)
  := by
  apply neverCuts_iff
  · decide
  · decide +kernel
  · rfl
  · rw [DmlPppIfFull.ArraysFit]
    decide

/-- The state in which the interface 1 has a long `LowerLayers`. -/
def longLowerLayers : Sys :=
  { freshState 1 with
    table := fun i =>
      { pppoeEntry i with
        cfg := { (pppoeEntry i).cfg with lowerLayers := List.replicate 251 'A' } } }

/-- The name of the VLAN parameter is asked for without its last character. -/
theorem long_lowerLayers_cut :
  (longLowerLayers.table 0).ArraysFit ∧
    ∃ ω k, (machine .event).Performs ω (Op.IsCut (plainBuild false) 0)
      (startPppClient (plainBuild false) (0 + 1)) k longLowerLayers
  := by
  constructor
  · rw [DmlPppIfFull.ArraysFit]
    decide +kernel
  · have hask : (longLowerLayers.table 0).AsksVlan (plainBuild false) :=
      ⟨rfl, rfl, by decide, by decide, by decide, fun _ => ⟨by decide, by decide⟩⟩
    have hmay : MayUse (plainBuild false) (longLowerLayers.table 0) "user".toList "secret".toList := by
      have hfromPsm : (plainBuild false).pppUsernamePasswordFromPsm = true := rfl
      rw [MayUse, if_pos hfromPsm]
      exact ⟨rfl, rfl⟩
    use credentialAnswers "user".toList "secret".toList (0 + 1) 0, 0
    apply performs_start (by decide) (by decide +kernel) rfl hmay
    intro k s' htable
    apply performs_launchConfigured (by decide) hask (by decide) (by decide) htable
    have hvlan : (longLowerLayers.table 0).vlanParamName = (s'.table 0).vlanParamName := by
      rw [htable]
      rfl
    rw [hvlan]
    apply isCut_vlan
    rw [htable]
    decide +kernel

end PppManager
