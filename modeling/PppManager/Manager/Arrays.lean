import PppManager.Manager.Outside
import PppManager.Manager.Points

/-!
# Character arrays

The character arrays of an entry are filled from the database, by the setters of the data model and
by the messages of the clients.  `PppMgr_ProcessStateChangedMsg` copies the name of an access
concentrator to `ACName` without room for the terminator, `AnscCopyString` and the `sscanf` calls that
load the table do not know how long the array is, and the data model does not limit the length of
`LowerLayers`.  As long as what they copy is short enough, no array is overfilled and every array
holds a string with its terminator (`arrays_fit`).
-/

namespace PppManager

open Effect Effect.Program CText

/-! ### What is copied -/

/-- The length to which the description of the data model limits a parameter, if it does. -/
def maxStringLength (paramName : CStr) : Option ℕ :=
  if paramName ∈ ["Alias".toList, "Username".toList, "Password".toList] then some 64
  else if paramName ∈ ["ACName".toList, "ServiceName".toList, "PassthroughDHCPPool".toList] then
    some 256
  else none

/-- The string parameter that a setter sets, and its value. -/
def Setter.string : Setter → Option (CStr × CStr)
  | .interfaceString _ paramName pString => some (paramName, pString)
  | .pppoeString _ paramName pString => some (paramName, pString)
  | .ipcpString _ paramName pString => some (paramName, pString)
  | _ => none

/-- The value that a setter sets is no longer than the description of the data model admits. -/
def Setter.Admitted (w : Setter) : Prop :=
  ∀ paramName v, w.string = some (paramName, v) →
    ∀ n, maxStringLength paramName = some n → v.length ≤ n

/-- The value that a setter sets fits if it is for `LowerLayers`. -/
def Setter.LowerLayersFit (w : Setter) : Prop :=
  ∀ v, w.string = some ("LowerLayers".toList, v) → v.length < 256

/-- The records that are loaded with `sscanf`, and the sizes of their arrays. -/
def wordRecords : List (CStr × ℕ) :=
  [(psmPppIfAlias, 512), (psmPppIfServiceName, 512), (psmPppIfName, 64)]

/-- The records that are loaded with `sscanf` through a buffer of ten bytes. -/
def numberRecords : List (CStr × ℕ) :=
  [(psmPppIdletime, 10), (psmPppMaxmrusize, 10)]

/-- The words of the records of the instances up to `n` fit. -/
def WordsFit (psm : CStr → Option CStr) (n : ℕ) (records : List (CStr × ℕ)) : Prop :=
  ∀ r ∈ records, ∀ j ≤ n, ∀ v w, psm (recordName r.1 j) = some v → sscanfS v = some w →
    w.length < r.2

theorem WordsFit.mono {psm : CStr → Option CStr} {m n : ℕ} {records : List (CStr × ℕ)}
    (hle : m ≤ n) (h : WordsFit psm n records) :
  WordsFit psm m records
  := by
  intro r hr j hj
  apply h r hr j (Nat.le_trans hj hle)

namespace Access

/-- A setter is called with a value the description of the data model admits. -/
def Admitted (l : Access) (_ : Sys) : Prop :=
  ∀ w, l.point = .setter w → w.Admitted

/-- The name of the access concentrator fits, in a message that is handled. -/
def AcNameFits (l : Access) (s : Sys) : Prop :=
  ∀ msg, l.point.Hears s msg → msg.pppState = .interfaceConnecting →
    msg.pppLcpMsg.acname.length < 257

end Access

/-! ### The entries -/

section

variable {A : (o : Op) → o.Ans → Prop} {b : Build} {s s' : Sys} {e e' : DmlPppIfFull}

theorem arraysFit_switchEntry {msg : IpcPppEventMsg} (uptime : ULong) (id : Option ULong)
    (hacname : msg.pppState = .interfaceConnecting → msg.pppLcpMsg.acname.length < 257)
    (he : e.ArraysFit) :
  (switchEntry msg uptime id e).ArraysFit
  := by
  rw [switchEntry]
  cases hstate : msg.pppState with
  | interfaceConnecting =>
      have hcopy : (strncpy 257 msg.pppLcpMsg.acname).length < 257 := by
        rw [strncpy, List.length_take]
        apply Nat.lt_of_le_of_lt (Nat.min_le_right _ _) (hacname hstate)
      apply he.set 4 hcopy (by rfl)
  | interfaceUp => cases id <;> apply he
  | lcpAuthCompleted =>
      dsimp only
      split_ifs <;> apply he
  | _ => apply he

theorem arraysFit_credentials {u p : CStr} (he : e.ArraysFit) (hu : ReadAnew e.cfg.username u)
    (hp : ReadAnew e.cfg.password p) :
  ((e.setUsername u).setPassword p).ArraysFit
  := by
  have hfits : ∀ {old v}, (65, old) ∈ e.arrays → ReadAnew old v → v.length < 65 := by
    rintro old v hold (rfl | hlen)
    · apply he _ hold
    · apply Nat.lt_succ_of_le hlen
  have husername : (e.setUsername u).ArraysFit :=
    he.set 2 (hfits (by simp [DmlPppIfFull.arrays]) hu) rfl
  apply husername.set 3 (hfits (by simp [DmlPppIfFull.arrays]) hp) (by rfl)

/-- A change of an entry overfills no array if the name of the access concentrator fits. -/
theorem EntryChange.arraysFit {S : Prop} {M : IpcPppEventMsg → Prop} {i : ℕ}
    (h : EntryChange b S M i e e')
    (hacname : ∀ msg, M msg → msg.pppState = .interfaceConnecting →
      msg.pppLcpMsg.acname.length < 257) (he : e.ArraysFit) :
  e'.ArraysFit
  := by
  have hstopped : (stoppedEntry b e).ArraysFit := by
    have hreset : ∀ e : DmlPppIfFull, e.ArraysFit → e.resetSession.ArraysFit := by
      intro e h
      have hidentified : (PppManager.identified [] [] e).ArraysFit :=
        arraysFit_identified h (by decide) (by decide)
      apply hidentified.of_arrays rfl
    rw [stoppedEntry]
    apply hreset
    split_ifs <;> apply he
  cases h with
  | data e' h => apply h.arraysFit he
  | addressed => apply he
  | identified msg => apply arraysFit_storeIdentifiers msg.pppIpv6cpMsg he
  | numbered | enabled => apply he
  | stopped => apply hstopped
  | restarted => apply hstopped
  | switched msg uptime id hM => apply arraysFit_switchEntry uptime id (hacname msg hM) he
  | attempted hS e' he' | launched hS e' pid w v he' =>
      obtain ⟨u, p, ⟨-, hu, hp⟩, rfl⟩ := he'
      apply arraysFit_credentials he hu hp

end

/-! ### Loading the table -/

theorem length_strncpy_lt (n : ℕ) (v : CStr) :
  (strncpy n v).length < n + 1
  := Nat.lt_succ_of_le (List.length_take_le n v)

/-- What is loaded into an array fits. -/
theorem loadKeeps_arraysFit :
  LoadKeeps DmlPppIfFull.ArraysFit
  where
    setAlias := fun _ _ hv he => he.set 0 hv rfl
    setInterfaceServiceName := fun _ _ hv he => he.set 8 hv rfl
    setName := fun _ _ hv he => he.set 7 hv rfl
    loadAuthProtocol := fun v e he => e.loadAuthProtocol_cases v he (fun _ => he)
    loadLastConnectionError := fun v e he => e.loadLastConnectionError_cases v he (fun _ => he)
    setIdleDisconnectTime := fun _ _ he => he
    setMaxMRUSize := fun _ _ he => he
    loadLinkType := fun v e he => e.loadLinkType_cases v he (fun _ => he)
    setLowerLayers := fun v _ he => he.set 1 (length_strncpy_lt 255 v) rfl
    setUsername := fun v _ he => he.set 2 (length_strncpy_lt 64 v) rfl
    setPassword := fun v _ he => he.set 3 (length_strncpy_lt 64 v) rfl

/-- The contract under which no array is overfilled. -/
def overflowFree (t : Thread) : Contract (machine t) where
  Allows := fun _ _ => True
  Safe := fun _ _ => True
  Admits := fun e => e ≠ .undefined .bufferOverflow

/-- With the database `psm`, which it keeps, the program overfills no array. -/
def LoadsWithin (t : Thread) (psm : CStr → Option CStr) {α : Type} (p : Code α) : Prop :=
  ∀ s, s.psm = psm → (overflowFree t).wp p (fun _ s' => s'.psm = psm) s

section

variable {t : Thread} {psm : CStr → Option CStr} {i n : ℕ} {name : CStr} {b : Build} {α β : Type}

theorem loadsWithin_pure (a : α) :
  LoadsWithin t psm (pure a : Code α)
  := fun _ hs => hs

theorem LoadsWithin.bind {p : Code α} {f : α → Code β} (hp : LoadsWithin t psm p)
    (hf : ∀ a, LoadsWithin t psm (f a)) :
  LoadsWithin t psm (p >>= f)
  := by
  intro s hs
  rw [Contract.wp_bind]
  apply Contract.wp_mono _ (hp s hs)
  intro a s' hs'
  apply hf a s' hs'

theorem loadsWithin_load :
  LoadsWithin t psm (load i)
  := by
  intro s hs
  rw [load, perform, Contract.wp_perform]
  use trivial
  intro x _
  simp only [step]
  split_ifs
  · rintro ⟨⟩
  · apply hs

theorem loadsWithin_store {f : DmlPppIfFull → DmlPppIfFull} :
  LoadsWithin t psm (store i f)
  := by
  intro s hs
  rw [store, perform, Contract.wp_perform]
  use trivial
  intro x _
  simp only [step]
  split_ifs
  · rintro ⟨⟩
  · apply hs

/-- A read of the database gives what it holds, if it gives anything. -/
theorem loadsWithin_psmGet_bind {f : Option CStr → Code α} (hnone : LoadsWithin t psm (f none))
    (hsome : ∀ v, psm name = some v → LoadsWithin t psm (f (some v))) :
  LoadsWithin t psm (psmGet name >>= f)
  := by
  rintro s rfl
  rw [Contract.wp_bind, psmGet, perform, Contract.wp_perform]
  use trivial
  rintro (_ | _) _
  · apply hnone s rfl
  · simp only [step, if_true]
    cases hv : s.psm name with
    | none => apply hnone s rfl
    | some v => apply hsome v hv s rfl

theorem loadsWithin_loadRecord {f : CStr → DmlPppIfFull → DmlPppIfFull} :
  LoadsWithin t psm (loadRecord i n name f)
  := by
  apply loadsWithin_psmGet_bind
  · apply loadsWithin_pure
  · intro v _
    apply loadsWithin_store

theorem loadsWithin_loadWord {size : ℕ} {set : CStr → DmlPppIfFull → DmlPppIfFull}
    (hfits : ∀ v w, psm (recordName name n) = some v → sscanfS v = some w → w.length < size) :
  LoadsWithin t psm (loadWord i n name size set)
  := by
  apply loadsWithin_psmGet_bind
  · apply loadsWithin_pure
  · intro v hv
    dsimp only
    cases hw : sscanfS v with
    | none => apply loadsWithin_pure
    | some w =>
        dsimp only
        rw [if_pos (hfits v w hv hw)]
        apply loadsWithin_store

theorem loadsWithin_loadNumber {buff : Option CStr} {set : ℤ → DmlPppIfFull → DmlPppIfFull}
    (hfits : ∀ v w, psm (recordName name n) = some v → sscanfS v = some w → w.length < 10) :
  LoadsWithin t psm (loadNumber i n name buff set)
  := by
  apply loadsWithin_psmGet_bind
  · apply loadsWithin_pure
  · intro v hv
    dsimp only
    cases hw : sscanfS v with
    | some w =>
        dsimp only
        rw [if_pos (hfits v w hv hw)]
        apply LoadsWithin.bind loadsWithin_store
        intro _
        apply loadsWithin_pure
    | none =>
        cases buff with
        | some buff =>
            apply LoadsWithin.bind loadsWithin_store
            intro _
            apply loadsWithin_pure
        | none =>
            intro s _
            use trivial
            intro x _
            apply Stop.undefined.inj.mt
            nofun

/-- Records that fit are loaded without overfilling an array. -/
theorem loadsWithin_pppDmlGetIfEntry (hwords : WordsFit psm (i + 1) wordRecords)
    (hnumbers : WordsFit psm (i + 1) numberRecords) :
  LoadsWithin t psm (pppDmlGetIfEntry b i)
  := by
  have hword : ∀ name size, (name, size) ∈ wordRecords → ∀ v w,
      psm (recordName name (i + 1)) = some v → sscanfS v = some w → w.length < size :=
    fun name size hr => hwords (name, size) hr (i + 1) (Nat.le_refl _)
  have hnumber : ∀ name, (name, 10) ∈ numberRecords → ∀ v w,
      psm (recordName name (i + 1)) = some v → sscanfS v = some w → w.length < 10 :=
    fun name hr => hnumbers (name, 10) hr (i + 1) (Nat.le_refl _)
  apply LoadsWithin.bind
  · apply LoadsWithin.bind (loadsWithin_loadWord (hword _ _ (by simp [wordRecords])))
    intro _
    apply LoadsWithin.bind (loadsWithin_loadWord (hword _ _ (by simp [wordRecords])))
    intro _
    apply LoadsWithin.bind (loadsWithin_loadWord (hword _ _ (by simp [wordRecords])))
    intro _
    apply LoadsWithin.bind loadsWithin_loadRecord
    intro _
    apply LoadsWithin.bind loadsWithin_loadRecord
    intro _
    apply LoadsWithin.bind (loadsWithin_loadNumber (hnumber _ (by simp [numberRecords])))
    intro buff
    apply LoadsWithin.bind (loadsWithin_loadNumber (hnumber _ (by simp [numberRecords])))
    intro _
    apply LoadsWithin.bind loadsWithin_loadRecord
    intro _
    apply LoadsWithin.bind
    · rw [loadLowerLayers]
      split_ifs
      · apply loadsWithin_pure
      · apply loadsWithin_loadRecord
    · intro _
      rw [loadCredentials]
      split_ifs
      · apply LoadsWithin.bind loadsWithin_loadRecord
        intro _
        apply loadsWithin_loadRecord
      · apply loadsWithin_pure
  · intro _
    apply loadsWithin_loadRecord

theorem loadsWithin_initializeLoop {k m : ℕ} (hwords : WordsFit psm (i + k) wordRecords)
    (hnumbers : WordsFit psm (i + k) numberRecords) :
  LoadsWithin t psm (initializeLoop b i k m)
  := by
  induction k generalizing i m with
  | zero => apply loadsWithin_pure
  | succ k ih =>
      have hrest : ∀ m, LoadsWithin t psm (initializeLoop b (i + 1) k m) := by
        intro m
        rw [Nat.add_comm k 1, ← Nat.add_assoc] at hwords hnumbers
        apply ih hwords hnumbers
      have hle : i + 1 ≤ i + (k + 1) := Nat.add_le_add_left (Nat.succ_le_succ (Nat.zero_le k)) i
      apply LoadsWithin.bind
      · apply loadsWithin_pppDmlGetIfEntry (hwords.mono hle) (hnumbers.mono hle)
      · intro _
        apply LoadsWithin.bind loadsWithin_load
        intro pEntry
        split_ifs
        · apply LoadsWithin.bind loadsWithin_store
          intro _
          apply hrest
        · apply hrest

end

/-! ### Setting a string -/

/-- The operation overfills no array. -/
def Op.IsWithin : Op → Prop
  | .undefined .bufferOverflow => False
  | _ => True

section

variable {t : Thread} {b : Build} {i : ℕ} {paramName v : CStr} {s : Sys}

/-- A program that never overfills an array does not stop for it. -/
theorem exec_of_within {α : Type} {p : Code α} (hp : Only Op.IsWithin p) (ω : Answers) (k : ℕ) :
  (machine t).exec ω p k s ≠ .error (.undefined .bufferOverflow)
  := by
  apply Machine.exec_ne_error_of_only _ hp
  rintro o x s' ho
  apply step_ne_undefined
  rintro rfl
  apply ho

theorem within_copy {size : ℕ} {set : CStr → DmlPppIfFull → DmlPppIfFull} (hv : v.length < size) :
  Only Op.IsWithin (do anscCopyString i size set v; pure true)
  := by
  rw [anscCopyString, if_pos hv]
  apply only_bind (reads_op (P := Op.IsWithin) (o := .store i _) trivial)
  intro _
  apply only_pure

theorem within_bracket {p : Code Bool} (hp : Only Op.IsWithin p) :
  Only Op.IsWithin (bracket i p)
  := by
  apply only_bind (reads_op (P := Op.IsWithin) (o := .lock i) trivial)
  intro _
  apply only_bind hp
  intro r
  apply only_bind (reads_op (P := Op.IsWithin) (o := .unlock i) trivial)
  intro _
  apply only_pure

/-- A string the data model admits, and that fits if it is for `LowerLayers`, is copied without
overfilling the array. -/
theorem within_setter {w : Setter} (hstring : w.string.isSome) (hadmitted : w.Admitted)
    (hlower : w.LowerLayersFit) :
  Only Op.IsWithin (w.code b)
  := by
  cases w with
  | interfaceString i paramName pString =>
      have hle := hadmitted paramName pString rfl
      apply within_bracket (p := writeStringParam i paramName pString)
      rw [writeStringParam]
      split_ifs with halias hlayers husername hempty hvalid hpassword hempty
      · apply within_copy
        have h := hle 64 (by rw [halias]; decide)
        omega
      · obtain rfl := hlayers
        apply within_copy (hlower pString rfl)
      · apply only_pure
      · apply within_copy
        have h := hle 64 (by rw [husername]; decide)
        omega
      · apply only_pure
      · apply only_pure
      · apply within_copy
        have h := hle 64 (by rw [hpassword]; decide)
        omega
      · apply only_pure
  | pppoeString i paramName pString =>
      have hle := hadmitted paramName pString rfl
      apply within_bracket (p := writePppoeStringParam i paramName pString)
      rw [writePppoeStringParam]
      split_ifs with hacname hservice
      · apply within_copy
        have h := hle 256 (by rw [hacname]; decide)
        omega
      · apply within_copy
        have h := hle 256 (by rw [hservice]; decide)
        omega
      · apply only_pure
  | ipcpString i paramName pString =>
      have hle := hadmitted paramName pString rfl
      apply within_bracket (p := writeIpcpStringParam i paramName pString)
      rw [writeIpcpStringParam]
      split_ifs with hpool
      · apply within_copy
        have h := hle 256 (by rw [hpool]; decide)
        omega
      · apply only_pure
  | _ => cases hstring

end

/-! ### Runs -/

section

variable {b : Build} {t : Thread} {ω : Answers} {psm : CStr → Option CStr} {s s' : Sys} {k : ℕ}

theorem arraysFit_of_loaded
    (hinit : (machine t).exec ω (backEndManagerInitialize b) 0 (Sys.blank psm) = .ok ((), s, k)) :
  ∀ i, (s.table i).ArraysFit
  := by
  apply entries_of_initialize loadKeeps_arraysFit _ _ _ hinit
  · intro v e he
    exact e.loadSessionID_cases v he (fun _ => he)
  · intro n e he
    apply he
  · apply DmlPppIfFull.arraysFit_zeroed

/-- Records that fit are loaded without overfilling an array. -/
theorem initialize_within (hwords : WordsFit psm (Sys.blank psm).pppIfCount.toNat wordRecords)
    (hnumbers : WordsFit psm (Sys.blank psm).pppIfCount.toNat numberRecords) :
  (machine t).exec ω (backEndManagerInitialize b) 0 (Sys.blank psm) ≠
    .error (.undefined .bufferOverflow)
  := by
  have hle : (if ω 0 (.psmGet psmPppManagerPppIfCount) = true then (Sys.blank psm).pppIfCount
      else 0).toNat ≤ (Sys.blank psm).pppIfCount.toNat := by
    split_ifs
    · apply Nat.le_refl
    · apply Nat.zero_le
  rw [backEndManagerInitialize, Machine.exec_bind, exec_dmlGetTotalNoOfPPPInterfaces]
  dsimp only [Except.bind]
  intro hexec
  rw [← Nat.zero_add (BitVec.toNat _)] at hle
  have hloop := loadsWithin_initializeLoop (t := t) (b := b) (m := 1) (hwords.mono hle)
    (hnumbers.mono hle) (Sys.blank psm) rfl
  have hend := Contract.wp_exec (C := overflowFree t) (ω := ω) (t := 1) (fun _ _ => trivial) hloop
  rw [hexec] at hend
  apply hend rfl

/-- In every state of a run in which the names of access concentrators fit, every array holds a
string with its terminator, and a value the data model admits is copied without overfilling one, if
it fits where it is for `LowerLayers`; records whose words fit are loaded without overfilling one. -/
theorem arrays_fit (b : Build) (t : Thread) (ω : Answers) (psm : CStr → Option CStr) :
  (WordsFit psm (Sys.blank psm).pppIfCount.toNat wordRecords →
    WordsFit psm (Sys.blank psm).pppIfCount.toNat numberRecords →
    (machine t).exec ω (backEndManagerInitialize b) 0 (Sys.blank psm) ≠
      .error (.undefined .bufferOverflow)) ∧
  ∀ k s ls s',
    (machine t).exec ω (backEndManagerInitialize b) 0 (Sys.blank psm) = .ok ((), s, k) →
    Throughout (Access.next b) Access.AcNameFits ls s → run (Access.next b) ls s = some s' →
    (∀ i, (s'.table i).ArraysFit) ∧
      ∀ (w : Setter) (t' : Thread) (ω' : Answers), w.string.isSome → w.Admitted → w.LowerLayersFit →
        (machine t').exec ω' (w.code b) 0 s' ≠ .error (.undefined .bufferOverflow)
  := by
  constructor
  · apply initialize_within
  · intro k s ls s' hinit hfits hrun
    constructor
    · apply run_invariant (I := fun s => ∀ i, (s.table i).ArraysFit) _ (arraysFit_of_loaded hinit)
        hfits hrun
      intro l s₁ s₂ hs hl hnext i
      have hends := l.ends (A := Unrestricted) (fun _ _ _ => trivial) hnext
      apply (hends.entryChange i).arraysFit hl (hs i)
    · intro w t' ω' hstring hadmitted hlower
      apply exec_of_within (within_setter hstring hadmitted hlower)

end

/-- The message of the client `pid` that it connects to the access concentrator `acname`. -/
def connectingMessage (pid : ℤ) (acname : CStr) : IpcMsgPayload :=
  let msg := (stateMessage pid .interfaceConnecting).pppEventMsg
  { msgType := .pppStateChange
    pppEventMsg := { msg with pppLcpMsg := { msg.pppLcpMsg with acname := acname } } }

/-- The manager loads one interface, whose client reports the access concentrator `acname`. -/
def connectingTo (acname : CStr) : List Access :=
  [⟨.message (connectingMessage 0 acname), (workingOutside 1 none []).answers⟩]

/-- The length of `ACName` after the report of the access concentrator `acname`. -/
def acNameLength (acname : CStr) : Option ℕ :=
  ((machine .dataModel).exec (workingOutside 1 none []).answers
    (backEndManagerInitialize (plainBuild false)) 0 (Sys.blank (freshState 1).psm)).toOption.bind
      fun r => (run (Access.next (plainBuild false)) (connectingTo acname) r.2.1).map
        fun s => (s.table 0).cfg.acName.length

theorem connected_of_acNameLength {acname : CStr} {n : ℕ} (h : acNameLength acname = some n) :
  ∃ s s' k, (machine .dataModel).exec (workingOutside 1 none []).answers
      (backEndManagerInitialize (plainBuild false)) 0 (Sys.blank (freshState 1).psm) =
        .ok ((), s, k) ∧
    run (Access.next (plainBuild false)) (connectingTo acname) s = some s' ∧
    (s'.table 0).cfg.acName.length = n
  := by
  obtain ⟨⟨_, s, k⟩, hinit, hrest⟩ := Option.bind_eq_some_iff.mp h
  obtain ⟨s', hrun, hlength⟩ := Option.map_eq_some_iff.mp hrest
  use s, s', k
  use eq_ok_of_toOption hinit

/-- The name of the access concentrator has 256 characters, the most that fit. -/
theorem arrays_fit_acname :
  ∃ s s' k, (machine .dataModel).exec (workingOutside 1 none []).answers
      (backEndManagerInitialize (plainBuild false)) 0 (Sys.blank (freshState 1).psm) =
        .ok ((), s, k) ∧
    run (Access.next (plainBuild false)) (connectingTo (List.replicate 256 'A')) s = some s' ∧
    (s'.table 0).cfg.acName.length = 256 ∧ (s'.table 0).ArraysFit
  := by
  have hend : acNameLength (List.replicate 256 'A') = some 256 := by
    decide +kernel
  obtain ⟨s, s', k, hinit, hrun, hlength⟩ := connected_of_acNameLength hend
  have hfits : Throughout (Access.next (plainBuild false)) Access.AcNameFits
      (connectingTo (List.replicate 256 'A')) s := by
    apply throughout_of_forall
    rintro l hl s msg ⟨m, hpoint, -, rfl, -⟩ -
    obtain rfl := List.mem_singleton.mp hl
    obtain rfl := EntryPoint.message.inj hpoint
    decide +kernel
  use s, s', k, hinit, hrun, hlength
  apply ((arrays_fit _ _ _ _).2 k s _ s' hinit hfits hrun).1

/-- The name of an access concentrator of 257 characters fills `ACName`. -/
theorem acname_fills_array :
  ¬ ∀ (b : Build) (t : Thread) (ω : Answers) (psm : CStr → Option CStr) (k : ℕ) (s s' : Sys)
      (ls : List Access),
    (machine t).exec ω (backEndManagerInitialize b) 0 (Sys.blank psm) = .ok ((), s, k) →
    Throughout (Access.next b) Access.Admitted ls s → run (Access.next b) ls s = some s' →
    ∀ i, (s'.table i).ArraysFit
  := by
  intro h
  have hend : acNameLength (List.replicate 257 'A') = some 257 := by
    decide +kernel
  obtain ⟨s, s', k, hinit, hrun, hlength⟩ := connected_of_acNameLength hend
  have hadmitted : Throughout (Access.next (plainBuild false)) Access.Admitted
      (connectingTo (List.replicate 257 'A')) s := by
    apply throughout_of_forall
    intro l hl s w hw
    obtain rfl := List.mem_singleton.mp hl
    cases hw
  have hfits := h _ _ _ _ k s s' _ hinit hadmitted hrun 0 (257, (s'.table 0).cfg.acName)
    (by simp [DmlPppIfFull.arrays])
  rw [hlength] at hfits
  apply Nat.lt_irrefl _ hfits

end PppManager
