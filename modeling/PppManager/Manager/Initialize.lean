import PppManager.Manager.Turns

/-!
# The state the manager starts in

`BackEndManagerInitialize` loads the table from the database.  It leaves a numbered table whose
entries are idle (`initial_of_initialize`).
-/

namespace PppManager

open Effect Effect.Program CText

/-- The state before the table is loaded, with a database. -/
def Sys.blank (psm : CStr → Option CStr) : Sys where
  table := fun _ => .zeroed
  locks := fun _ => []
  queue := []
  psm := psm
  acts := []

/-- No client has been started or heard of for the entry, and no information about it filled in. -/
structure Idle (e : DmlPppIfFull) : Prop where
  bEnabled : e.cfg.bEnabled = false
  status : e.info.status = .unset
  pppPid : e.info.pppPid = 0
  lcpEcho : e.info.lcpEcho = 0
  lcpEchoRetry : e.info.lcpEchoRetry = 0

/-- A state the manager starts in: the table is loaded, and nothing has happened yet. -/
structure Initial (s : Sys) : Prop extends Numbered s where
  idle : ∀ i, Idle (s.table i)
  locks : ∀ i, s.locks i = []
  queue : s.queue = []
  acts : s.acts = []

/-- No client has been started or heard of for the entry, no information about it filled in, and no
number given to it. -/
structure Loading (e : DmlPppIfFull) : Prop extends Idle e where
  instanceNumber : e.cfg.instanceNumber = 0

theorem loading_zeroed :
  Loading .zeroed
  := ⟨⟨rfl, rfl, rfl, rfl, rfl⟩, rfl⟩

/-! ### The operations of loading an entry -/

/-- The records of an interface that are loaded. -/
def loadedRecords : List CStr :=
  [psmPppIfAlias, psmPppIfServiceName, psmPppIfName, psmPppAuthProtocol, psmPppLastCoonectionError,
    psmPppIdletime, psmPppMaxmrusize, psmPppLinkType, psmPppLowerlayers, psmPppUsername,
    psmPppPassword, psmPppSessionid]

section

variable {P : Op → Prop} {i n : ℕ} {name : CStr} {b : Build}

theorem only_loadRecord (hget : P (.psmGet (recordName name n))) (hstore : ∀ f, P (.store i f))
    {f : CStr → DmlPppIfFull → DmlPppIfFull} :
  Only P (loadRecord i n name f)
  := by
  apply only_bind (reads_op (P := P) hget)
  rintro (_ | v)
  · apply only_pure
  · apply reads_op (P := P) (hstore _)

theorem only_loadWord (hget : P (.psmGet (recordName name n))) (hstore : ∀ f, P (.store i f))
    (hundefined : ∀ u, P (.undefined u)) {size : ℕ} {set : CStr → DmlPppIfFull → DmlPppIfFull} :
  Only P (loadWord i n name size set)
  := by
  apply only_bind (reads_op (P := P) hget)
  rintro (_ | v)
  · apply only_pure
  · dsimp only
    cases sscanfS v with
    | none => apply only_pure
    | some w =>
        apply only_ite
        · intro _
          apply reads_op (P := P) (hstore _)
        · intro _
          apply reads_undefined (hundefined _)

theorem only_loadNumber (hget : P (.psmGet (recordName name n))) (hstore : ∀ f, P (.store i f))
    (hundefined : ∀ u, P (.undefined u)) {buff : Option CStr}
    {set : ℤ → DmlPppIfFull → DmlPppIfFull} :
  Only P (loadNumber i n name buff set)
  := by
  apply only_bind (reads_op (P := P) hget)
  rintro (_ | v)
  · apply only_pure
  · dsimp only
    cases sscanfS v with
    | none =>
        cases buff with
        | none => apply reads_undefined (hundefined _)
        | some buff =>
            apply only_bind (reads_op (P := P) (hstore _))
            intro _
            apply only_pure
    | some w =>
        apply only_ite
        · intro _
          apply only_bind (reads_op (P := P) (hstore _))
          intro _
          apply only_pure
        · intro _
          apply reads_undefined (hundefined _)

/-- Loading the entry `i` for the instance `n` reads the records of `n` and writes the entry. -/
theorem only_pppDmlGetIntfValuesFromPSM
    (hget : ∀ name ∈ loadedRecords, P (.psmGet (recordName name n))) (hstore : ∀ f, P (.store i f))
    (hundefined : ∀ u, P (.undefined u)) :
  Only P (pppDmlGetIntfValuesFromPSM b n i)
  := by
  simp only [loadedRecords, List.forall_mem_cons] at hget
  obtain ⟨halias, hservice, hname, hauth, herror, hidle, hmru, hlink, hlower, huser, hpass,
    hsession, -⟩ := hget
  apply only_bind _ (fun _ => only_loadRecord hsession hstore)
  apply only_bind (only_loadWord halias hstore hundefined)
  intro _
  apply only_bind (only_loadWord hservice hstore hundefined)
  intro _
  apply only_bind (only_loadWord hname hstore hundefined)
  intro _
  apply only_bind (only_loadRecord hauth hstore)
  intro _
  apply only_bind (only_loadRecord herror hstore)
  intro _
  apply only_bind (only_loadNumber hidle hstore hundefined)
  intro buff
  apply only_bind (only_loadNumber hmru hstore hundefined)
  intro _
  apply only_bind (only_loadRecord hlink hstore)
  intro _
  apply only_bind
  · apply only_ite
    · intro _
      apply only_pure
    · intro _
      apply only_loadRecord hlower hstore
  · intro _
    apply only_ite
    · intro _
      apply only_bind (only_loadRecord huser hstore)
      intro _
      apply only_loadRecord hpass hstore
    · intro _
      apply only_pure

end

/-! ### What is not loaded -/

/-- What is not loaded of an entry, and its session id. -/
def DmlPppIfFull.notLoaded (e : DmlPppIfFull) :
    (Bool × ℕ) × (DmlIfStatus × DmlPppConnStatus × ℤ) × (ULong × ULong) × ULong :=
  ((e.cfg.bEnabled, e.cfg.instanceNumber),
    (e.info.status, e.info.connectionStatus, e.info.pppPid),
    (e.info.lcpEcho, e.info.lcpEchoRetry), e.info.sessionID)

/-- What has been loaded makes no difference to the property. -/
def LoadStable (I : DmlPppIfFull → Prop) : Prop :=
  ∀ e e', e'.notLoaded = e.notLoaded → I e → I e'

/-- Loading a parameter of an entry keeps the property. -/
structure LoadKeeps (I : DmlPppIfFull → Prop) : Prop where
  setAlias : ∀ v e, v.length < 512 → I e → I (e.setAlias v)
  setInterfaceServiceName : ∀ v e, v.length < 512 → I e → I (e.setInterfaceServiceName v)
  setName : ∀ v e, v.length < 64 → I e → I (e.setName v)
  loadAuthProtocol : ∀ v e, I e → I (e.loadAuthProtocol v)
  loadLastConnectionError : ∀ v e, I e → I (e.loadLastConnectionError v)
  setIdleDisconnectTime : ∀ v e, I e → I (e.setIdleDisconnectTime v)
  setMaxMRUSize : ∀ v e, I e → I (e.setMaxMRUSize v)
  loadLinkType : ∀ v e, I e → I (e.loadLinkType v)
  setLowerLayers : ∀ v e, I e → I (e.setLowerLayers (strncpy 255 v))
  setUsername : ∀ v e, I e → I (e.setUsername (strncpy 64 v))
  setPassword : ∀ v e, I e → I (e.setPassword (strncpy 64 v))

section

variable {t : Thread} {A : (o : Op) → o.Ans → Prop} {F : Prop} {I : DmlPppIfFull → Prop} {i n : ℕ}
  {name : CStr} {α β : Type}

/-- The program changes nothing but the entry `i`, and keeps `I` of it. -/
def LoadsEntry (t : Thread) (A : (o : Op) → o.Ans → Prop) (F : Prop) (I : DmlPppIfFull → Prop)
    (i : ℕ) (p : Code α) : Prop :=
  ∀ s, I (s.table i) → (contract t A F).wp p (fun _ s' => ∃ e, I e ∧ s' = s.setEntry i e) s

theorem loadsEntry_pure (a : α) :
  LoadsEntry t A F I i (pure a : Code α)
  := by
  intro s hs
  use s.table i, hs
  rw [Sys.setEntry_self _ _ rfl]

theorem loadsEntry_undefined (u : Undefined) :
  LoadsEntry t A F I i (undefined u : Code α)
  := by
  intro s _
  apply wp_undefined

theorem loadsEntry_store {f : DmlPppIfFull → DmlPppIfFull} (hf : ∀ e, I e → I (f e)) :
  LoadsEntry t A F I i (store i f)
  := by
  intro s hs
  rw [wp_store]
  intro _
  exact ⟨_, hf _ hs, rfl⟩

theorem loadsEntry_psmGet :
  LoadsEntry t A F I i (psmGet name)
  := by
  intro s hs
  rw [wp_psmGet]
  intro r _
  use s.table i, hs
  rw [Sys.setEntry_self _ _ rfl]

theorem LoadsEntry.bind {p : Code α} {f : α → Code β} (hp : LoadsEntry t A F I i p)
    (hf : ∀ a, LoadsEntry t A F I i (f a)) :
  LoadsEntry t A F I i (p >>= f)
  := by
  intro s hs
  rw [Contract.wp_bind]
  apply Contract.wp_mono _ (hp s hs)
  rintro a s₁ ⟨e, he, rfl⟩
  have h := hf a (s.setEntry i e) (by rw [Sys.setEntry_table, Function.update_self]; apply he)
  apply Contract.wp_mono _ h
  rintro a s₂ ⟨e', he', rfl⟩
  use e', he'
  rw [Sys.setEntry_setEntry]

theorem loadsEntry_loadRecord {f : CStr → DmlPppIfFull → DmlPppIfFull}
    (hf : ∀ v e, I e → I (f v e)) :
  LoadsEntry t A F I i (loadRecord i n name f)
  := by
  apply LoadsEntry.bind loadsEntry_psmGet
  rintro (_ | v)
  · apply loadsEntry_pure
  · apply loadsEntry_store (hf v)

theorem loadsEntry_loadWord {size : ℕ} {set : CStr → DmlPppIfFull → DmlPppIfFull}
    (hset : ∀ v e, v.length < size → I e → I (set v e)) :
  LoadsEntry t A F I i (loadWord i n name size set)
  := by
  apply LoadsEntry.bind loadsEntry_psmGet
  rintro (_ | v)
  · apply loadsEntry_pure
  · dsimp only
    cases sscanfS v with
    | none => apply loadsEntry_pure
    | some w =>
        dsimp only
        split_ifs with hlen
        · apply loadsEntry_store (fun e => hset w e hlen)
        · apply loadsEntry_undefined

theorem loadsEntry_loadNumber {buff : Option CStr} {set : ℤ → DmlPppIfFull → DmlPppIfFull}
    (hset : ∀ v e, I e → I (set v e)) :
  LoadsEntry t A F I i (loadNumber i n name buff set)
  := by
  apply LoadsEntry.bind loadsEntry_psmGet
  rintro (_ | v)
  · apply loadsEntry_pure
  · dsimp only
    cases sscanfS v with
    | some w =>
        dsimp only
        split_ifs
        · apply LoadsEntry.bind (loadsEntry_store (hset _))
          intro _
          apply loadsEntry_pure
        · apply loadsEntry_undefined
    | none =>
        cases buff with
        | none => apply loadsEntry_undefined
        | some buff =>
            apply LoadsEntry.bind (loadsEntry_store (hset _))
            intro _
            apply loadsEntry_pure

/-! ### Loading an entry -/

theorem LoadStable.keeps (hI : LoadStable I) :
  LoadKeeps I
  where
    setAlias := fun _ e _ => hI e _ rfl
    setInterfaceServiceName := fun _ e _ => hI e _ rfl
    setName := fun _ e _ => hI e _ rfl
    loadAuthProtocol := fun v e he => e.loadAuthProtocol_cases v he (fun _ => hI e _ rfl he)
    loadLastConnectionError := fun v e he =>
      e.loadLastConnectionError_cases v he (fun _ => hI e _ rfl he)
    setIdleDisconnectTime := fun _ e => hI e _ rfl
    setMaxMRUSize := fun _ e => hI e _ rfl
    loadLinkType := fun v e he => e.loadLinkType_cases v he (fun _ => hI e _ rfl he)
    setLowerLayers := fun _ e => hI e _ rfl
    setUsername := fun _ e => hI e _ rfl
    setPassword := fun _ e => hI e _ rfl

theorem loadsEntry_loadLowerLayers (hI : LoadKeeps I) (b : Build) :
  LoadsEntry t A F I i (loadLowerLayers b n i)
  := by
  rw [loadLowerLayers]
  split_ifs
  · apply loadsEntry_pure
  · apply loadsEntry_loadRecord hI.setLowerLayers

theorem loadsEntry_loadCredentials (hI : LoadKeeps I) (b : Build) :
  LoadsEntry t A F I i (loadCredentials b n i)
  := by
  rw [loadCredentials]
  split_ifs
  · apply LoadsEntry.bind (loadsEntry_loadRecord hI.setUsername)
    intro _
    apply loadsEntry_loadRecord hI.setPassword
  · apply loadsEntry_pure

/-- Loading the parameters of an entry keeps what loading each of them keeps. -/
theorem loadsEntry_loadParameters (hI : LoadKeeps I) (b : Build) :
  LoadsEntry t A F I i (loadParameters b n i)
  := by
  rw [loadParameters]
  apply LoadsEntry.bind (loadsEntry_loadWord hI.setAlias)
  intro _
  apply LoadsEntry.bind (loadsEntry_loadWord hI.setInterfaceServiceName)
  intro _
  apply LoadsEntry.bind (loadsEntry_loadWord hI.setName)
  intro _
  apply LoadsEntry.bind (loadsEntry_loadRecord hI.loadAuthProtocol)
  intro _
  apply LoadsEntry.bind (loadsEntry_loadRecord hI.loadLastConnectionError)
  intro _
  apply LoadsEntry.bind (loadsEntry_loadNumber hI.setIdleDisconnectTime)
  intro buff
  apply LoadsEntry.bind (loadsEntry_loadNumber hI.setMaxMRUSize)
  intro _
  apply LoadsEntry.bind (loadsEntry_loadRecord hI.loadLinkType)
  intro _
  apply LoadsEntry.bind (loadsEntry_loadLowerLayers hI b)
  intro _
  apply loadsEntry_loadCredentials hI b

theorem loadStable_loading :
  LoadStable Loading
  := by
  intro e e' h he
  obtain ⟨⟨h₁, h₂, h₃, h₄, h₅⟩, h₆⟩ := he
  simp only [DmlPppIfFull.notLoaded, Prod.mk.injEq] at h
  obtain ⟨⟨k₁, k₆⟩, ⟨k₂, -, k₃⟩, ⟨k₄, k₅⟩, -⟩ := h
  exact ⟨⟨k₁.trans h₁, k₂.trans h₂, k₃.trans h₃, k₄.trans h₄, k₅.trans h₅⟩, k₆.trans h₆⟩

theorem loading_loadSessionID (v : CStr) (e : DmlPppIfFull) (he : Loading e) :
  Loading (e.loadSessionID v)
  := by
  apply e.loadSessionID_cases (K := Loading) v he
  intro id
  exact ⟨⟨he.bEnabled, he.status, he.pppPid, he.lcpEcho, he.lcpEchoRetry⟩, he.instanceNumber⟩

/-- Loading an entry from the database keeps it idle and without a number. -/
theorem loadsEntry_pppDmlGetIntfValuesFromPSM (b : Build) :
  LoadsEntry t A F Loading i (pppDmlGetIntfValuesFromPSM b n i)
  := by
  rw [pppDmlGetIntfValuesFromPSM]
  apply LoadsEntry.bind (loadsEntry_loadParameters loadStable_loading.keeps b)
  intro _
  apply loadsEntry_loadRecord loading_loadSessionID

end

/-! ### Loading the table -/

section

variable {t : Thread} {A : (o : Op) → o.Ans → Prop} {F : Prop} {s : Sys} {b : Build}

/-- Before the entry `i` is loaded, those before it are numbered and the others are as in memory
that is all zero. -/
structure LoadedUpTo (i : ℕ) (s : Sys) : Prop where
  idle : ∀ j, Idle (s.table j)
  loading : ∀ j, i ≤ j → Loading (s.table j)
  instanceNumber : ∀ j < i, (s.table j).cfg.instanceNumber = j + 1

/-- Loading and numbering an entry. -/
theorem LoadedUpTo.succ {i : ℕ} (hs : LoadedUpTo i s) {e : DmlPppIfFull} (he : Loading e) :
  LoadedUpTo (i + 1) (s.setEntry i (e.setInstanceNumber (i + 1)))
  where
    idle := by
      intro j
      rw [Sys.setEntry_table]
      by_cases hj : j = i
      · obtain rfl := hj
        rw [Function.update_self]
        exact ⟨he.bEnabled, he.status, he.pppPid, he.lcpEcho, he.lcpEchoRetry⟩
      · rw [Function.update_of_ne hj]
        apply hs.idle
    loading := by
      intro j hj
      rw [Sys.setEntry_table, Function.update_of_ne (Nat.ne_of_gt hj)]
      apply hs.loading j (Nat.le_of_succ_le hj)
    instanceNumber := by
      intro j hj
      rw [Sys.setEntry_table]
      by_cases hji : j = i
      · obtain rfl := hji
        rw [Function.update_self]
        rfl
      · rw [Function.update_of_ne hji]
        apply hs.instanceNumber j (Nat.lt_of_le_of_ne (Nat.le_of_lt_succ hj) hji)

theorem wp_initializeLoop {i k : ℕ} {Q : Unit → Sys → Prop} (hs : LoadedUpTo i s)
    (hQ : ∀ table, (k ≠ 0 → i + k ≤ pppTableLength) → LoadedUpTo (i + k) { s with table := table } →
      Q () { s with table := table }) :
  (contract t A F).wp (initializeLoop b i k (i + 1)) Q s
  := by
  induction k generalizing i s with
  | zero =>
      apply hQ s.table
      · intro h
        apply absurd rfl h
      · apply hs
  | succ k ih =>
      rw [initializeLoop, Contract.wp_bind]
      apply Contract.wp_mono _ (loadsEntry_pppDmlGetIntfValuesFromPSM b s (hs.loading i (Nat.le_refl i)))
      rintro _ s₁ ⟨e, he, rfl⟩
      rw [Contract.wp_bind, wp_load]
      intro hi
      rw [Sys.setEntry_table, Function.update_self, if_pos he.instanceNumber, Contract.wp_bind,
        wp_store, Sys.setEntry_table, Function.update_self, Sys.setEntry_setEntry]
      intro _
      apply ih (hs.succ he)
      intro table hk hloaded
      rw [Nat.add_assoc, Nat.add_comm 1 k] at hloaded
      apply hQ table _ hloaded
      intro _
      rcases k with _ | k
      · apply hi
      · have h := hk (Nat.succ_ne_zero k)
        omega

/-- Loading the table keeps what loading an entry and numbering it keep. -/
theorem wp_initializeLoop_entries {I : DmlPppIfFull → Prop} (hI : LoadKeeps I)
    (hsession : ∀ v e, I e → I (e.loadSessionID v)) (hnumber : ∀ n e, I e → I (e.setInstanceNumber n))
    {i k n : ℕ} (hs : ∀ j, I (s.table j)) :
  (contract t A F).wp (initializeLoop b i k n) (fun _ s' => ∀ j, I (s'.table j)) s
  := by
  have hupdate : ∀ (s : Sys) (i : ℕ) (e : DmlPppIfFull), (∀ j, I (s.table j)) → I e →
      ∀ j, I ((s.setEntry i e).table j) := by
    intro s i e hs he j
    rw [Sys.setEntry_table]
    by_cases hj : j = i
    · obtain rfl := hj
      rw [Function.update_self]
      apply he
    · rw [Function.update_of_ne hj]
      apply hs
  induction k generalizing i n s with
  | zero => apply hs
  | succ k ih =>
      have hload : LoadsEntry t A F I i (pppDmlGetIfEntry b i) := by
        apply LoadsEntry.bind (loadsEntry_loadParameters hI b)
        intro _
        apply loadsEntry_loadRecord hsession
      rw [initializeLoop, Contract.wp_bind]
      apply Contract.wp_mono _ (hload s (hs i))
      rintro _ s₁ ⟨e, he, rfl⟩
      rw [Contract.wp_bind, wp_load]
      intro _
      split_ifs
      · rw [Contract.wp_bind, wp_store]
        intro _
        apply ih
        apply hupdate _ _ _ (hupdate _ _ _ hs he)
        rw [Sys.setEntry_table, Function.update_self]
        apply hnumber _ _ he
      · apply ih
        apply hupdate _ _ _ hs he

/-- The database gives the number of interfaces. -/
def CountKnown : (o : Op) → o.Ans → Prop
  | .psmGet name, r => name = psmPppManagerPppIfCount → r = true
  | _, _ => True

theorem wp_backEndManagerInitialize {psm : CStr → Option CStr} :
  (contract t CountKnown F).wp (backEndManagerInitialize b) (fun _ s => Initial s) (Sys.blank psm)
  := by
  rw [backEndManagerInitialize, Contract.wp_bind]
  apply wp_dmlGetTotalNoOfPPPInterfaces
  · intro h
    apply absurd (h rfl) Bool.false_ne_true
  · apply wp_initializeLoop
    · constructor
      · intro j
        apply loading_zeroed.toIdle
      · intro j _
        apply loading_zeroed
      · intro j hj
        apply absurd hj (Nat.not_lt_zero j)
    · intro table hcount hloaded
      rw [Nat.zero_add] at hcount hloaded
      constructor
      · constructor
        · by_cases h : (Sys.blank psm).pppIfCount.toNat = 0
          · apply Nat.le_trans (Nat.le_of_eq h) (Nat.zero_le _)
          · apply hcount h
        · apply hloaded.instanceNumber
      · apply hloaded.idle
      · intro i
        rfl
      · rfl
      · rfl

/-- `BackEndManagerInitialize` leaves a state the manager starts in, if it can read the number of
interfaces. -/
theorem initial_of_initialize {ω : Answers} {psm : CStr → Option CStr} {t' : ℕ} {s : Sys}
    (hω : ∀ k, ω k (.psmGet psmPppManagerPppIfCount) = true)
    (hrun : (machine t).exec ω (backEndManagerInitialize b) 0 (Sys.blank psm) = .ok ((), s, t')) :
  Initial s
  := by
  have hresp : (contract t CountKnown True).Respects ω := by
    intro k o _
    cases o with
    | psmGet name =>
        rintro rfl
        apply hω
    | _ => trivial
  apply Contract.wp_exec_ok hresp wp_backEndManagerInitialize hrun

/-- `BackEndManagerInitialize` leaves in every entry what loading it and numbering it keep. -/
theorem entries_of_initialize {I : DmlPppIfFull → Prop} (hI : LoadKeeps I)
    (hsession : ∀ v e, I e → I (e.loadSessionID v)) (hnumber : ∀ n e, I e → I (e.setInstanceNumber n))
    (hzeroed : I .zeroed) {ω : Answers} {psm : CStr → Option CStr} {t' : ℕ} {s : Sys}
    (hrun : (machine t).exec ω (backEndManagerInitialize b) 0 (Sys.blank psm) = .ok ((), s, t')) :
  ∀ i, I (s.table i)
  := by
  have hresp : (contract t Unrestricted True).Respects ω := fun _ _ _ => trivial
  have hwp : (contract t Unrestricted True).wp (backEndManagerInitialize b)
      (fun _ s' => ∀ i, I (s'.table i)) (Sys.blank psm) := by
    rw [backEndManagerInitialize, Contract.wp_bind]
    apply wp_of_queries reads_dmlGetTotalNoOfPPPInterfaces
    intro ulEntryCount
    apply wp_initializeLoop_entries hI hsession hnumber
    intro j
    apply hzeroed
  apply Contract.wp_exec_ok hresp hwp hrun

end

end PppManager
