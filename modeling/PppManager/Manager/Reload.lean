import PppManager.Effect.Lockstep
import PppManager.Manager.Sessions

/-!
# Configurations that are saved and loaded

`Interface_Commit` writes four fields of the configuration of an interface to the PSM database, and
`PppDmlGetIntfValuesFromPSM` loads them.  What is loaded is what was written exactly for the values
of `IdleDisconnectTime` whose text fits the buffer it is read through (`persists_iff`).
-/

namespace PppManager

open Effect Effect.Program CText

/-! ### Names of records -/

/-- The records `name` of the instances are named by their numbers, with `rest` after them. -/
structure NumberedRecord (name rest : CStr) : Prop where
  length_lt : rest.length < 32
  printf_eq : ∀ n : ℕ,
    printf name [.int n] = "dmsb.pppmanager.if.".toList ++ (dec n ++ '.' :: rest)

theorem numberedRecord_idletime :
  NumberedRecord psmPppIdletime "idletime".toList
  := ⟨by decide, fun _ => rfl⟩

theorem numberedRecord_maxmrusize :
  NumberedRecord psmPppMaxmrusize "maxmrusize".toList
  := ⟨by decide, fun _ => rfl⟩

theorem numberedRecord_username :
  NumberedRecord psmPppUsername "username".toList
  := ⟨by decide, fun _ => rfl⟩

theorem numberedRecord_password :
  NumberedRecord psmPppPassword "password".toList
  := ⟨by decide, fun _ => rfl⟩

theorem numberedRecord_alias :
  NumberedRecord psmPppIfAlias "Alias".toList
  := ⟨by decide, fun _ => rfl⟩

theorem numberedRecord_serviceName :
  NumberedRecord psmPppIfServiceName "ServiceName".toList
  := ⟨by decide, fun _ => rfl⟩

theorem numberedRecord_name :
  NumberedRecord psmPppIfName "Name".toList
  := ⟨by decide, fun _ => rfl⟩

theorem numberedRecord_of_loaded :
  ∀ name ∈ loadedRecords, ∃ rest, NumberedRecord name rest
  := by
  simp only [loadedRecords, List.forall_mem_cons]
  exact ⟨⟨_, numberedRecord_alias⟩, ⟨_, numberedRecord_serviceName⟩, ⟨_, numberedRecord_name⟩,
    ⟨"AuthenticationProtocol".toList, by decide, fun _ => rfl⟩,
    ⟨"lastconnectionerror".toList, by decide, fun _ => rfl⟩, ⟨_, numberedRecord_idletime⟩,
    ⟨_, numberedRecord_maxmrusize⟩, ⟨"linktype".toList, by decide, fun _ => rfl⟩,
    ⟨"LowerLayer".toList, by decide, fun _ => rfl⟩, ⟨_, numberedRecord_username⟩,
    ⟨_, numberedRecord_password⟩, ⟨"sessionid".toList, by decide, fun _ => rfl⟩,
    List.forall_mem_nil _⟩

theorem dec_injective {m n : ℕ} (h : dec m = dec n) :
  m = n
  := by
  have hscan := congrArg scanInt h
  rw [scanInt_dec, scanInt_dec] at hscan
  apply Int.ofNat_inj.mp (Prod.mk.inj (Option.some.inj hscan)).1

section

variable {f g rest rest' : CStr} {m n : ℕ}

/-- The names of records are not cut off. -/
theorem NumberedRecord.recordName_eq (hf : NumberedRecord f rest) (hn : n < 2 ^ 31) :
  recordName f n = "dmsb.pppmanager.if.".toList ++ (dec n ++ '.' :: rest)
  := by
  have hprefix : "dmsb.pppmanager.if.".toList.length = 19 := by
    decide
  have hdec : (dec n).length ≤ 11 := by
    apply length_dec_le (by decide)
    omega
  have hrest := hf.length_lt
  rw [recordName, snprintf, hf.printf_eq]
  apply List.take_of_length_le
  rw [List.length_append, List.length_append, hprefix, List.length_cons]
  omega

/-- Records with the same name are those of the same instance. -/
theorem NumberedRecord.recordName_inj (hf : NumberedRecord f rest) (hg : NumberedRecord g rest')
    (hm : m < 2 ^ 31) (hn : n < 2 ^ 31) (h : recordName f m = recordName g n) :
  m = n ∧ rest = rest'
  := by
  have hdigits : ∀ (n : ℕ) (rest : CStr), (dec n ++ '.' :: rest).takeWhile Char.isDigit = dec n := by
    intro n rest
    rw [List.takeWhile_append_of_pos (fun _ => isDigit_of_mem_dec_ofNat),
      List.takeWhile_cons_of_neg (by decide), List.append_nil]
  rw [hf.recordName_eq hm, hg.recordName_eq hn] at h
  have hnumber := List.append_cancel_left h
  obtain rfl : m = n := by
    apply dec_injective
    rw [← hdigits m rest, hnumber, hdigits]
  exact ⟨rfl, (List.cons.inj (List.append_cancel_left hnumber)).2⟩

end

/-! ### Saving -/

/-- The database after the configuration `cfg` is saved for the instance `n`. -/
def Sys.saved (s : Sys) (n : ℕ) (cfg : DmlPppIfCfg) : Sys :=
  (((s.setRecord (recordName psmPppIdletime n)
      (snprintf 256 "%ld".toList [.int cfg.idleDisconnectTime.toLong])).setRecord
    (recordName psmPppMaxmrusize n) (snprintf 256 "%d".toList [.int cfg.maxMRUSize.toNat])).setRecord
    (recordName psmPppUsername n) (snprintf 256 "%s".toList [.str cfg.username])).setRecord
    (recordName psmPppPassword n) (snprintf 256 "%s".toList [.str cfg.password])

section

variable {t : Thread} {ω : Answers} {i n k : ℕ} {s : Sys} {cfg : DmlPppIfCfg} {b : Build}

theorem exec_setParamValuesToDB {name value : CStr} (hω : ω k (.psmSet name value) = true) :
  (machine t).exec ω (setParamValuesToDB name value) k s =
    .ok (true, s.setRecord name value, k + 1)
  := by
  apply Machine.exec_perform
  simp only [step, hω, if_true]

theorem exec_setParamFromPSM (hb : b.pppUsernamePasswordFromPsm = true)
    (hω : ∀ k name value, ω k (.psmSet name value) = true) :
  (machine t).exec ω (setParamFromPSM b cfg) k s =
    .ok ((), s.saved cfg.instanceNumber cfg, k + 4)
  := by
  rw [setParamFromPSM, if_pos hb, Machine.exec_bind, exec_setParamValuesToDB (hω _ _ _)]
  dsimp only [Except.bind]
  rw [Machine.exec_bind, exec_setParamValuesToDB (hω _ _ _)]
  dsimp only [Except.bind]
  rw [Machine.exec_bind, exec_setParamValuesToDB (hω _ _ _)]
  dsimp only [Except.bind]
  rw [Machine.exec_bind, exec_setParamValuesToDB (hω _ _ _)]
  rfl

/-- `Interface_Commit` saves the configuration. -/
theorem exec_interfaceCommit (hb : b.pppUsernamePasswordFromPsm = true)
    (hω : ∀ k name value, ω k (.psmSet name value) = true) (hi : i < pppTableLength)
    (hfree : ∀ t' ∈ s.locks i, t' = t) :
  (machine t).exec ω (interfaceCommit b i) k s =
    .ok ((), s.saved (s.table i).cfg.instanceNumber (s.table i).cfg, k + 7)
  := by
  have hheld : ((s.setLock i (t :: s.locks i)).saved (s.table i).cfg.instanceNumber
      (s.table i).cfg).locks i = t :: s.locks i := Function.update_self i _ s.locks
  have hback : ((s.setLock i (t :: s.locks i)).saved (s.table i).cfg.instanceNumber
      (s.table i).cfg).setLock i (s.locks i) =
        s.saved (s.table i).cfg.instanceNumber (s.table i).cfg := by
    simp only [Sys.saved, Sys.setRecord_setLock, Sys.setLock_setLock]
    apply Sys.setLock_self
    rfl
  rw [interfaceCommit, commitEntry, Machine.exec_bind, exec_lock hi hfree]
  dsimp only [Except.bind]
  rw [Machine.exec_bind, exec_load hi]
  dsimp only [Except.bind]
  rw [Sys.setLock_table, pppDmlSetIfCfg, Machine.exec_bind, exec_setParamFromPSM hb hω]
  dsimp only [Except.bind]
  rw [exec_unlock hheld, hback]

end

/-! ### What has been saved -/

section

variable {s : Sys} {m n : ℕ} {cfg : DmlPppIfCfg} {f rest : CStr}

/-- A record other than the four is as before. -/
theorem saved_psm_of_ne (hf : NumberedRecord f rest) (hm : m < 2 ^ 31) (hn : n < 2 ^ 31)
    (hne : m ≠ n ∨ rest ∉ ["idletime".toList, "maxmrusize".toList, "username".toList,
      "password".toList]) :
  (s.saved n cfg).psm (recordName f m) = s.psm (recordName f m)
  := by
  have hname : ∀ {g rest' : CStr}, NumberedRecord g rest' →
      rest' ∈ ["idletime".toList, "maxmrusize".toList, "username".toList, "password".toList] →
        recordName f m ≠ recordName g n := by
    intro g rest' hg hmem h
    obtain ⟨rfl, rfl⟩ := hf.recordName_inj hg hm hn h
    rcases hne with hne | hne
    · apply hne rfl
    · apply hne hmem
  rw [Sys.saved]
  simp only [Sys.setRecord_psm]
  rw [Function.update_of_ne (hname numberedRecord_password (by simp)),
    Function.update_of_ne (hname numberedRecord_username (by simp)),
    Function.update_of_ne (hname numberedRecord_maxmrusize (by simp)),
    Function.update_of_ne (hname numberedRecord_idletime (by simp))]

theorem recordName_ne_of_rest {g rest' : CStr} (hf : NumberedRecord f rest)
    (hg : NumberedRecord g rest') (hn : n < 2 ^ 31) (hne : rest ≠ rest') :
  recordName f n ≠ recordName g n
  := fun h => hne (hf.recordName_inj hg hn hn h).2

/-- A number of 32 bits is printed in full. -/
theorem take_dec {n : ℕ} (h : n < 2 ^ 32) :
  (dec n ++ []).take (256 - 1) = dec n
  := by
  have hdec : (dec n).length ≤ 11 := by
    apply length_dec_le (by decide)
    omega
  rw [List.append_nil]
  apply List.take_of_length_le
  omega

theorem saved_idletime (hn : n < 2 ^ 31) (hidle : cfg.idleDisconnectTime.toNat < 2 ^ 32) :
  (s.saved n cfg).psm (recordName psmPppIdletime n) = some (dec cfg.idleDisconnectTime.toNat)
  := by
  have hlong : cfg.idleDisconnectTime.toLong = cfg.idleDisconnectTime.toNat := by
    apply BitVec.toInt_eq_toNat_of_lt
    omega
  rw [Sys.saved]
  simp only [Sys.setRecord_psm]
  rw [Function.update_of_ne (recordName_ne_of_rest numberedRecord_idletime numberedRecord_password hn
      (by decide)),
    Function.update_of_ne (recordName_ne_of_rest numberedRecord_idletime numberedRecord_username hn
      (by decide)),
    Function.update_of_ne (recordName_ne_of_rest numberedRecord_idletime numberedRecord_maxmrusize hn
      (by decide)), Function.update_self, hlong]
  apply congrArg some (take_dec hidle)

theorem saved_maxmrusize (hn : n < 2 ^ 31) :
  (s.saved n cfg).psm (recordName psmPppMaxmrusize n) = some (dec cfg.maxMRUSize.toNat)
  := by
  have hmru := cfg.maxMRUSize.isLt
  rw [Sys.saved]
  simp only [Sys.setRecord_psm]
  rw [Function.update_of_ne (recordName_ne_of_rest numberedRecord_maxmrusize numberedRecord_password
      hn (by decide)),
    Function.update_of_ne (recordName_ne_of_rest numberedRecord_maxmrusize numberedRecord_username hn
      (by decide)), Function.update_self]
  apply congrArg some (take_dec (by omega))

/-- Credentials are saved in full. -/
theorem take_credential {v : CStr} (h : v.length < 65) :
  (v ++ []).take (256 - 1) = v
  := by
  rw [List.append_nil]
  apply List.take_of_length_le
  omega

theorem saved_username (hn : n < 2 ^ 31) (huser : cfg.username.length < 65) :
  (s.saved n cfg).psm (recordName psmPppUsername n) = some cfg.username
  := by
  rw [Sys.saved]
  simp only [Sys.setRecord_psm]
  rw [Function.update_of_ne (recordName_ne_of_rest numberedRecord_username numberedRecord_password hn
    (by decide)), Function.update_self]
  apply congrArg some (take_credential huser)

theorem saved_password (hpass : cfg.password.length < 65) :
  (s.saved n cfg).psm (recordName psmPppPassword n) = some cfg.password
  := by
  rw [Sys.saved, Sys.setRecord_psm, Function.update_self]
  apply congrArg some (take_credential hpass)

end

/-! ### Loading -/

/-- The contract under which every read of the database succeeds, and a run may stop if `X` holds. -/
def reads (t : Thread) (X : Prop) : Contract (machine t) where
  Allows := PsmReads
  Safe _ _ := True
  Admits _ := X

/-- The fields that are saved. -/
def DmlPppIfFull.persisted (e : DmlPppIfFull) : ULong × BitVec 16 × CStr × CStr :=
  (e.cfg.idleDisconnectTime, e.cfg.maxMRUSize, e.cfg.username, e.cfg.password)

/-- The first word of a record fits into an array. -/
def WordFits (v : Option CStr) (size : ℕ) : Prop :=
  ∀ w ∈ v.bind sscanfS, w.length < size

section

variable {t : Thread} {X : Prop} {s : Sys} {e : DmlPppIfFull} {j n : ℕ} {name : CStr} {β : Type}
  {p : β}

theorem reads_psmGet {Q : Option CStr → Sys → Prop} (hQ : Q (s.psm name) s) :
  (reads t X).wp (psmGet name) Q s
  := by
  use trivial
  rintro r (rfl : r = true)
  apply hQ

theorem reads_store {f : DmlPppIfFull → DmlPppIfFull} {Q : Unit → Sys → Prop}
    (hj : j < pppTableLength) (hQ : Q () (s.setEntry j (f e))) :
  (reads t X).wp (store j f) Q (s.setEntry j e)
  := by
  use trivial
  intro _ _
  simp only [step, if_neg (Nat.not_le.mpr hj)]
  rw [Sys.setEntry_table, Function.update_self, Sys.setEntry_setEntry]
  apply hQ

theorem stops_undefined {α : Type} {u : Undefined} {Q : α → Sys → Prop} (hX : X) :
  (reads t X).wp (undefined u) Q s
  := by
  use trivial
  intro _ _
  apply hX

/-- A record that says nothing about the fields that `g` looks at. -/
theorem reads_loadRecord (g : DmlPppIfFull → β) {f : CStr → DmlPppIfFull → DmlPppIfFull}
    {Q : Unit → Sys → Prop} (hj : j < pppTableLength) (he : g e = p)
    (hf : ∀ v e, g (f v e) = g e) (hQ : ∀ e', g e' = p → Q () (s.setEntry j e')) :
  (reads t X).wp (loadRecord j n name f) Q (s.setEntry j e)
  := by
  rw [loadRecord, Contract.wp_bind]
  apply reads_psmGet
  cases (s.setEntry j e).psm (recordName name n) with
  | none => apply hQ e he
  | some v =>
      apply reads_store hj
      apply hQ
      rw [hf, he]

/-- A word is loaded, or the run stops where it does not fit. -/
theorem reads_loadWord (g : DmlPppIfFull → β) {size : ℕ}
    {set : CStr → DmlPppIfFull → DmlPppIfFull} {Q : Unit → Sys → Prop} (hj : j < pppTableLength) (he : g e = p)
    (hset : ∀ v e, g (set v e) = g e) (hX : ¬ WordFits (s.psm (recordName name n)) size → X)
    (hQ : WordFits (s.psm (recordName name n)) size → ∀ e', g e' = p → Q () (s.setEntry j e')) :
  (reads t X).wp (loadWord j n name size set) Q (s.setEntry j e)
  := by
  rw [loadWord, Contract.wp_bind]
  apply reads_psmGet
  rw [Sys.setEntry_psm]
  cases hv : s.psm (recordName name n) with
  | none =>
      rw [hv] at hQ
      apply hQ nofun e he
  | some v =>
      rw [hv] at hX hQ
      dsimp only
      cases hw : sscanfS v with
      | none =>
          apply hQ _ e he
          rw [WordFits, Option.bind_some, hw]
          nofun
      | some w =>
          have hfits : WordFits (some v) size ↔ w.length < size := by
            rw [WordFits, Option.bind_some, hw]
            simp only [Option.mem_def, Option.some.injEq, forall_eq']
          rw [hfits] at hX hQ
          dsimp only
          split_ifs with hsize
          · apply reads_store hj
            apply hQ hsize
            rw [hset, he]
          · apply stops_undefined (hX hsize)

/-- A number is loaded, or the run stops where its text does not fit. -/
theorem reads_loadNumber {m : ℕ} {buff : Option CStr} {set : ℤ → DmlPppIfFull → DmlPppIfFull}
    {Q : Option CStr → Sys → Prop} (hj : j < pppTableLength)
    (hname : s.psm (recordName name n) = some (dec m)) (hX : ¬ m < 10 ^ 9 → X)
    (hQ : m < 10 ^ 9 → Q (some (dec m)) (s.setEntry j (set m e))) :
  (reads t X).wp (loadNumber j n name buff set) Q (s.setEntry j e)
  := by
  have hword : sscanfS (dec m) = some (dec m) := by
    apply sscanfS_word Nat.toDigits_ne_nil
    intro c hc
    apply not_isSpace_of_isDigit (isDigit_of_mem_dec_ofNat hc)
  have hlength : (dec m).length < 10 ↔ m < 10 ^ 9 := by
    rw [Nat.lt_succ_iff]
    apply Nat.length_toDigits_le_iff (by decide) (by decide)
  rw [loadNumber, Contract.wp_bind]
  apply reads_psmGet
  rw [Sys.setEntry_psm, hname]
  dsimp only
  rw [hword]
  dsimp only
  split_ifs with hsize
  · have hm := hlength.mp hsize
    rw [Contract.wp_bind]
    apply reads_store hj
    rw [atoi_dec (by omega) (by omega)]
    apply hQ hm
  · apply stops_undefined (hX (fun hm => hsize (hlength.mpr hm)))

/-- The records of an instance can be loaded, with its idle time: their words fit the arrays they are
read into. -/
structure Loadable (psm : CStr → Option CStr) (n idle : ℕ) : Prop where
  ifAlias : WordFits (psm (recordName psmPppIfAlias n)) 512
  serviceName : WordFits (psm (recordName psmPppIfServiceName n)) 512
  name : WordFits (psm (recordName psmPppIfName n)) 64
  idle_lt : idle < 10 ^ 9

/-- A record whose value is known. -/
theorem reads_loadRecord_some {f : CStr → DmlPppIfFull → DmlPppIfFull} {v : CStr}
    {Q : Unit → Sys → Prop} (hj : j < pppTableLength) (hname : s.psm (recordName name n) = some v)
    (hQ : Q () (s.setEntry j (f v e))) :
  (reads t X).wp (loadRecord j n name f) Q (s.setEntry j e)
  := by
  rw [loadRecord, Contract.wp_bind]
  apply reads_psmGet
  rw [Sys.setEntry_psm, hname]
  apply reads_store hj hQ

/-- Loading the records of an instance gives the values in the four records, or stops where a word
does not fit. -/
theorem reads_pppDmlGetIntfValuesFromPSM {b : Build} (hb : b.pppUsernamePasswordFromPsm = true)
    (hj : j < pppTableLength) {idle : ℕ} {mru : BitVec 16} {username password : CStr}
    (hidle : s.psm (recordName psmPppIdletime n) = some (dec idle))
    (hmru : s.psm (recordName psmPppMaxmrusize n) = some (dec mru.toNat))
    (huser : s.psm (recordName psmPppUsername n) = some username)
    (hpass : s.psm (recordName psmPppPassword n) = some password) {Q : Unit → Sys → Prop}
    (hX : ¬ Loadable s.psm n idle → X)
    (hQ : Loadable s.psm n idle → ∀ e,
      e.persisted = (ULong.ofLong idle, mru, strncpy 64 username, strncpy 64 password) →
        Q () (s.setEntry j e)) :
  (reads t X).wp (pppDmlGetIntfValuesFromPSM b n j) Q (s.setEntry j e)
  := by
  have hlt : mru.toNat < 10 ^ 9 := Nat.lt_trans mru.isLt (by decide)
  rw [pppDmlGetIntfValuesFromPSM, loadParameters, loadLowerLayers, loadCredentials, if_pos hb]
  rw [Contract.wp_bind, Contract.wp_bind]
  refine reads_loadWord DmlPppIfFull.persisted hj rfl (fun _ _ => rfl)
    (fun h => hX (fun h' => h h'.ifAlias)) ?_
  intro halias e₁ _
  rw [Contract.wp_bind]
  refine reads_loadWord DmlPppIfFull.persisted hj rfl (fun _ _ => rfl)
    (fun h => hX (fun h' => h h'.serviceName)) ?_
  intro hservice e₂ _
  rw [Contract.wp_bind]
  refine reads_loadWord DmlPppIfFull.persisted hj rfl (fun _ _ => rfl)
    (fun h => hX (fun h' => h h'.name)) ?_
  intro hname e₃ _
  rw [Contract.wp_bind]
  apply reads_loadRecord DmlPppIfFull.persisted hj rfl
  · exact fun v e => e.loadAuthProtocol_cases v rfl (fun _ => rfl)
  intro e₄ _
  rw [Contract.wp_bind]
  apply reads_loadRecord DmlPppIfFull.persisted hj rfl
  · exact fun v e => e.loadLastConnectionError_cases v rfl (fun _ => rfl)
  intro e₅ _
  rw [Contract.wp_bind]
  apply reads_loadNumber hj hidle (fun h => hX (fun h' => h h'.idle_lt))
  intro hlt'
  rw [Contract.wp_bind]
  apply reads_loadNumber hj hmru (fun h => absurd hlt h)
  intro _
  rw [Contract.wp_bind]
  have hsome : ((e₅.setIdleDisconnectTime idle).setMaxMRUSize mru.toNat).persisted =
      (ULong.ofLong idle, mru, e₅.cfg.username, e₅.cfg.password) := by
    have hbits : BitVec.ofInt 16 (mru.toNat : ℤ) = mru := by
      rw [BitVec.ofInt_natCast, BitVec.ofNat_toNat, BitVec.setWidth_eq]
    show (ULong.ofLong idle, BitVec.ofInt 16 (mru.toNat : ℤ), _, _) = _
    rw [hbits]
    rfl
  apply reads_loadRecord DmlPppIfFull.persisted hj hsome
  · exact fun v e => e.loadLinkType_cases v rfl (fun _ => rfl)
  intro e₆ he₆
  rw [Contract.wp_bind]
  have hlower : ∀ {Q' : Unit → Sys → Prop},
      (∀ e, e.persisted = (ULong.ofLong idle, mru, e₅.cfg.username, e₅.cfg.password) →
        Q' () (s.setEntry j e)) →
      (reads t X).wp (if b.dynamicConfigurePppLowerlayer = true then pure () else
        loadRecord j n psmPppLowerlayers (fun v => DmlPppIfFull.setLowerLayers (strncpy 255 v))) Q'
        (s.setEntry j e₆) := by
    intro Q' hQ'
    split_ifs
    · apply hQ' e₆ he₆
    · exact reads_loadRecord DmlPppIfFull.persisted hj he₆ (fun _ _ => rfl) hQ'
  apply hlower
  intro e₇ he₇
  rw [Contract.wp_bind]
  apply reads_loadRecord_some hj huser
  apply reads_loadRecord_some hj hpass
  apply reads_loadRecord DmlPppIfFull.persisted hj rfl
  · exact fun v e => e.loadSessionID_cases v rfl (fun _ => rfl)
  intro e₈ he₈
  apply hQ ⟨halias, hservice, hname, hlt'⟩
  rw [he₈]
  simp only [DmlPppIfFull.persisted, Prod.mk.injEq] at he₇ ⊢
  exact ⟨he₇.1, he₇.2.1, rfl, rfl⟩

end

/-! ### Other instances -/

/-- The operations that load the entry `j` for the instance `m`. -/
def Op.Loads (j m : ℕ) : Op → Prop
  | .psmGet name => ∃ f ∈ loadedRecords, name = recordName f m
  | .store i _ => i = j
  | .undefined _ => True
  | _ => False

/-- The states have the same entry `j` and the same records of the instance `m`. -/
def SameRecords (j m : ℕ) (s s' : Sys) : Prop :=
  s.table j = s'.table j ∧
    ∀ f ∈ loadedRecords, s.psm (recordName f m) = s'.psm (recordName f m)

theorem keeps_sameRecords {t : Thread} {j m : ℕ} {o : Op} (ho : o.Loads j m) :
  (machine t).Keeps (SameRecords j m) o Eq
  := by
  intro x s s' h
  cases o with
  | psmGet name =>
      obtain ⟨f, hf, rfl⟩ := ho
      apply Together.ok
      exact ⟨by rw [h.2 f hf], h⟩
  | store i f =>
      obtain rfl : i = j := ho
      simp only [step]
      split_ifs
      · apply Together.error
      · apply Together.ok
        refine ⟨trivial, ?_, h.2⟩
        rw [Sys.setEntry_table, Sys.setEntry_table, Function.update_self, Function.update_self, h.1]
  | undefined u => apply Together.error
  | _ => apply ho.elim

/-! ### Saving and loading again -/

/-- What `PppDmlGetIntfValuesFromPSM` loads for the instance `n` into the entry `j`, which is zeroed
before, if its run does not stop. -/
def reload (b : Build) (t : Thread) (ω : Answers) (j n : ℕ) (s : Sys) : Option DmlPppIfFull :=
  match (machine t).exec ω (pppDmlGetIntfValuesFromPSM b n j) 0 (s.setEntry j .zeroed) with
  | .ok (_, s', _) => some (s'.table j)
  | .error _ => none

/-- Every read and every write of the database succeeds. -/
def PsmWorks (ω : Answers) : Prop :=
  ∀ k o, PsmAnswers true o (ω k o)

/-- The entry `i` can be committed by the thread, its credentials come from the database, and the
fields that are saved have values in their ranges. -/
structure Committable (b : Build) (t : Thread) (i : ℕ) (s : Sys) : Prop where
  fromPsm : b.pppUsernamePasswordFromPsm = true
  index : i < pppTableLength
  number : (s.table i).cfg.instanceNumber = i + 1
  free : ∀ t' ∈ s.locks i, t' = t
  idle_lt : (s.table i).cfg.idleDisconnectTime.toNat < 2 ^ 32
  username_lt : (s.table i).cfg.username.length < 65
  password_lt : (s.table i).cfg.password.length < 65

/-- After the entry `i` is committed, the fields that are saved are loaded for its instance as they
were, and what is loaded for other instances is unchanged. -/
def Persists (b : Build) (t : Thread) (i : ℕ) (s : Sys) : Prop :=
  ∀ (ω : Answers) (s' : Sys) (k : ℕ), PsmWorks ω →
    (machine t).exec ω (interfaceCommit b i) 0 s = .ok ((), s', k) →
      ∀ (ω' : Answers) (j : ℕ), PsmWorks ω' → j < pppTableLength →
        (∃ e, reload b t ω' j (i + 1) s' = some e ∧ e.persisted = (s.table i).persisted) ∧
          ∀ m < 2 ^ 31, m ≠ i + 1 → reload b t ω' j m s' = reload b t ω' j m s

section

variable {b : Build} {t : Thread} {ω : Answers} {i j m : ℕ} {s s' : Sys}

theorem PsmWorks.respects {X : Prop} (hω : PsmWorks ω) :
  (reads t X).Respects ω
  := by
  intro k o
  cases o with
  | psmGet name => apply hω k (.psmGet name)
  | _ => trivial

theorem psmWorks_workingOutside :
  PsmWorks (workingOutside 1 none []).answers
  := by
  intro k o
  cases o with
  | psmGet | psmSet => rfl
  | _ => trivial

theorem exec_of_reload {n : ℕ} {e : DmlPppIfFull} (h : reload b t ω j n s = some e) :
  ∃ s' k, (machine t).exec ω (pppDmlGetIntfValuesFromPSM b n j) 0 (s.setEntry j .zeroed) =
    .ok ((), s', k)
  := by
  rw [reload] at h
  split at h
  · rename_i s' k hexec
    exact ⟨s', k, hexec⟩
  · cases h

/-- What is loaded for an instance depends on its records only. -/
theorem reload_congr (h : ∀ f ∈ loadedRecords, s.psm (recordName f m) = s'.psm (recordName f m)) :
  reload b t ω j m s = reload b t ω j m s'
  := by
  have honly : Only (Op.Loads j m) (pppDmlGetIntfValuesFromPSM b m j) := by
    apply only_pppDmlGetIntfValuesFromPSM
    · intro f hf
      exact ⟨f, hf, rfl⟩
    · intro _
      rfl
    · intro _
      trivial
  have hlock : Lockstep (machine t) (SameRecords j m) (fun _ => False) Eq
      (pppDmlGetIntfValuesFromPSM b m j) (pppDmlGetIntfValuesFromPSM b m j) :=
    Lockstep.of_only (fun _ => keeps_sameRecords) honly
  have hsame : SameRecords j m (s.setEntry j .zeroed) (s'.setEntry j .zeroed) := by
    refine ⟨?_, h⟩
    rw [Sys.setEntry_table, Sys.setEntry_table, Function.update_self, Function.update_self]
  have hB : ¬ (machine t).Performs ω (fun _ _ => False) (pppDmlGetIntfValuesFromPSM b m j) 0
      (s.setEntry j .zeroed) := by
    intro h
    obtain ⟨_, _, h⟩ := h.exists
    apply h
  have hexec := hlock.exec hsame hB
  rw [reload, reload]
  revert hexec
  generalize (machine t).exec ω (pppDmlGetIntfValuesFromPSM b m j) 0 (s.setEntry j .zeroed) = r
  generalize (machine t).exec ω (pppDmlGetIntfValuesFromPSM b m j) 0 (s'.setEntry j .zeroed) = r'
  intro hexec
  cases hexec with
  | ok h => apply congrArg some h.2.1.1
  | error => rfl

theorem Committable.index_lt (h : Committable b t i s) :
  i + 1 < 2 ^ 31
  := by
  have hi := h.index
  rw [pppTableLength] at hi
  omega

/-- Saving a configuration changes no word that has to fit. -/
theorem Committable.loadable_iff (h : Committable b t i s) {idle : ℕ} :
  Loadable (s.saved (i + 1) (s.table i).cfg).psm (i + 1) idle ↔ Loadable s.psm (i + 1) idle
  := by
  have hsaved : ∀ {f rest : CStr}, NumberedRecord f rest →
      rest ∉ ["idletime".toList, "maxmrusize".toList, "username".toList, "password".toList] →
        (s.saved (i + 1) (s.table i).cfg).psm (recordName f (i + 1)) =
          s.psm (recordName f (i + 1)) :=
    fun hf hrest => saved_psm_of_ne hf h.index_lt h.index_lt (.inr hrest)
  have halias := hsaved numberedRecord_alias (by decide)
  have hservice := hsaved numberedRecord_serviceName (by decide)
  have hname := hsaved numberedRecord_name (by decide)
  constructor
  · intro hload
    obtain ⟨h₁, h₂, h₃, h₄⟩ := hload
    rw [halias] at h₁
    rw [hservice] at h₂
    rw [hname] at h₃
    exact ⟨h₁, h₂, h₃, h₄⟩
  · intro hload
    obtain ⟨h₁, h₂, h₃, h₄⟩ := hload
    rw [← halias] at h₁
    rw [← hservice] at h₂
    rw [← hname] at h₃
    exact ⟨h₁, h₂, h₃, h₄⟩

theorem Committable.exec_commit (h : Committable b t i s) (hω : PsmWorks ω) :
  (machine t).exec ω (interfaceCommit b i) 0 s = .ok ((), s.saved (i + 1) (s.table i).cfg, 7)
  := by
  have hset : ∀ k name value, ω k (.psmSet name value) = true :=
    fun k name value => hω k (.psmSet name value)
  rw [exec_interfaceCommit h.fromPsm hset h.index h.free, h.number]

/-- Loading the records of a saved configuration gives the fields that were saved, or stops where a
word does not fit. -/
theorem Committable.reads (h : Committable b t i s) {X : Prop} {Q : Unit → Sys → Prop}
    (hj : j < pppTableLength)
    (hX : ¬ Loadable s.psm (i + 1) (s.table i).cfg.idleDisconnectTime.toNat → X)
    (hQ : Loadable s.psm (i + 1) (s.table i).cfg.idleDisconnectTime.toNat → ∀ e,
      e.persisted = (s.table i).persisted →
        Q () ((s.saved (i + 1) (s.table i).cfg).setEntry j e)) :
  (PppManager.reads t X).wp (pppDmlGetIntfValuesFromPSM b (i + 1) j) Q
    ((s.saved (i + 1) (s.table i).cfg).setEntry j .zeroed)
  := by
  have hbits : ULong.ofLong (s.table i).cfg.idleDisconnectTime.toNat =
      (s.table i).cfg.idleDisconnectTime := by
    rw [ULong.ofLong, BitVec.ofInt_natCast, BitVec.ofNat_toNat, BitVec.setWidth_eq]
  apply reads_pppDmlGetIntfValuesFromPSM h.fromPsm hj (saved_idletime h.index_lt h.idle_lt)
    (saved_maxmrusize h.index_lt) (saved_username h.index_lt h.username_lt)
    (saved_password h.password_lt)
  · intro hnot
    apply hX (fun hload => hnot (h.loadable_iff.mpr hload))
  · intro hload e he
    apply hQ (h.loadable_iff.mp hload) e
    rw [he, hbits, strncpy, strncpy, List.take_of_length_le (Nat.le_of_lt_succ h.username_lt),
      List.take_of_length_le (Nat.le_of_lt_succ h.password_lt), DmlPppIfFull.persisted]

/-- Where a word does not fit, nothing is loaded. -/
theorem Committable.loadable (h : Committable b t i s) (hpersists : Persists b t i s) :
  Loadable s.psm (i + 1) (s.table i).cfg.idleDisconnectTime.toNat
  := by
  by_contra hnot
  have hω := psmWorks_workingOutside
  obtain ⟨⟨e, he, -⟩, -⟩ := hpersists _ _ _ hω (h.exec_commit hω) _ 0 hω (by decide)
  obtain ⟨s', k, hexec⟩ := exec_of_reload he
  have hwp : (PppManager.reads t True).wp (pppDmlGetIntfValuesFromPSM b (i + 1) 0)
      (fun _ _ => False) ((s.saved (i + 1) (s.table i).cfg).setEntry 0 .zeroed) := by
    apply h.reads (by decide) (fun _ => trivial)
    intro hload
    apply absurd hload hnot
  apply Contract.wp_exec_ok hω.respects hwp hexec

/-- Where the words fit, what is loaded is what was saved. -/
theorem Committable.persists (h : Committable b t i s)
    (hload : Loadable s.psm (i + 1) (s.table i).cfg.idleDisconnectTime.toNat) :
  Persists b t i s
  := by
  intro ω s' k hω hrun ω' j hω' hj
  rw [h.exec_commit hω] at hrun
  obtain ⟨rfl, -⟩ := Prod.mk.inj (Prod.mk.inj (Except.ok.inj hrun)).2
  constructor
  · have hwp : (PppManager.reads t False).wp (pppDmlGetIntfValuesFromPSM b (i + 1) j)
        (fun _ s' => (s'.table j).persisted = (s.table i).persisted)
          ((s.saved (i + 1) (s.table i).cfg).setEntry j .zeroed) := by
      apply h.reads hj (fun hnot => hnot hload)
      intro _ e he
      rw [Sys.setEntry_table, Function.update_self, he]
    have hend := Contract.wp_exec (t := 0) hω'.respects hwp
    rw [reload]
    split at hend
    · rename_i hexec
      rw [hexec]
      exact ⟨_, rfl, hend⟩
    · apply hend.elim
  · intro m hm hne
    apply reload_congr
    intro f hf
    obtain ⟨rest, hrest⟩ := numberedRecord_of_loaded f hf
    apply saved_psm_of_ne hrest hm h.index_lt (.inl hne)

/-- A configuration that is committed is loaded as it was, with no change for other instances,
exactly if its idle time has at most nine digits and the other words in the records of its instance
fit the arrays they are read into. -/
theorem persists_iff (h : Committable b t i s) :
  Persists b t i s ↔ Loadable s.psm (i + 1) (s.table i).cfg.idleDisconnectTime.toNat
  := by
  constructor
  · apply h.loadable
  · apply h.persists

end

/-! ### An idle time of ten digits -/

/-- A state with one interface, whose idle time is `idle`. -/
def idleState (idle : ULong) : Sys :=
  { freshState 1 with table := fun i => (pppoeEntry i).setIdleDisconnectTime idle.toInt }

theorem committable_idleState {idle : ULong} (h : idle.toNat < 2 ^ 32) :
  Committable (plainBuild false) .dataModel 0 (idleState idle)
  where
    fromPsm := rfl
    index := by decide
    number := rfl
    free := nofun
    idle_lt := by
      show (BitVec.ofInt 64 idle.toInt).toNat < 2 ^ 32
      rw [BitVec.ofInt_toInt]
      apply h
    username_lt := by
      show "user".toList.length < 65
      decide
    password_lt := by
      show "secret".toList.length < 65
      decide

/-- The idle time 1000000000 is saved, and overflows the buffer it is read through. -/
theorem idle_of_ten_digits_lost :
  ¬ ∀ (b : Build) (t : Thread) (i : ℕ) (s : Sys), Committable b t i s → Persists b t i s
  := by
  intro h
  have hcommit : Committable (plainBuild false) .dataModel 0 (idleState 1000000000) :=
    committable_idleState (by decide)
  have hload := hcommit.loadable (h _ _ _ _ hcommit)
  apply absurd hload.idle_lt
  decide

theorem persists_iff_nineDigits :
  Persists (plainBuild false) .dataModel 0 (idleState 999999999)
  := by
  have hcommit : Committable (plainBuild false) .dataModel 0 (idleState 999999999) :=
    committable_idleState (by decide)
  apply (persists_iff hcommit).mpr
  have hword : ∀ size : ℕ, 1 < size → WordFits (some "1".toList) size := by
    intro size hsize w hw
    obtain rfl : ['1'] = w := Option.some.inj hw
    apply hsize
  exact ⟨hword 512 (by decide), hword 512 (by decide), hword 64 (by decide), by decide⟩

end PppManager
