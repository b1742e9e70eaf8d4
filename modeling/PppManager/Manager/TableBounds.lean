import PppManager.Effect.Loops
import PppManager.Manager.Local
import PppManager.Manager.Outside

/-!
# The bounds of the interface table

The table has room for `pppTableLength` interfaces, and the number of interfaces is whatever the PSM
record `dmsb.pppmanager.pppifcount` says.  The functions that go by that number stay inside the table
exactly for the records that give a number the table has room for, as the function reads it
(`staysInside_iff`).
-/

namespace PppManager

open Effect Effect.Program CText

/-! ### The loops over the table -/

/-- The body of the loop of `BackEndManagerInitialize`. -/
def loadBody (b : Build) (ulIndex ulNextInsNum : ℕ) : Code (ℕ ⊕ Empty) := do
  pppDmlGetIfEntry b ulIndex
  let pEntry ← load ulIndex
  if pEntry.cfg.instanceNumber = 0 then
    store ulIndex (·.setInstanceNumber ulNextInsNum)
    pure (.inl (ulNextInsNum + 1))
  else
    pure (.inl (pEntry.cfg.instanceNumber + 1))

/-- The body of the loop of `PppMgr_getIfaceDataWithPid`. -/
def pidBody (pid : ℤ) (i : ℕ) (_ : Unit) : Code (Unit ⊕ ℤ) := do
  match ← getIfaceDataLocked i with
  | none => pure (.inl ())
  | some idx =>
    let pEntry ← load idx
    if pEntry.info.pppPid = pid then
      getIfaceDataRelease idx
      pure (.inr (toInt pEntry.cfg.instanceNumber))
    else
      getIfaceDataRelease idx
      pure (.inl ())

/-- The body of the loop of `Interface_Validate`. -/
def validateBody (i : ℕ) (name : CStr) (ulIndex : ℕ) (_ : Unit) : Code (Unit ⊕ Bool) := do
  if ulIndex = i then
    pure (.inl ())
  else
    let other ← load ulIndex
    if other.info.name = name then pure (.inr false) else pure (.inl ())

theorem initializeLoop_eq (b : Build) (i k n : ℕ) :
  initializeLoop b i k n = (fun _ => ()) <$> forLoop (loadBody b) i k n
  := by
  induction k generalizing i n with
  | zero => rfl
  | succ k ih =>
      rw [initializeLoop, forLoop, loadBody]
      simp only [map_bind, LawfulMonad.bind_assoc, ih]
      congr 1
      funext _
      congr 1
      funext pEntry
      split_ifs
      · simp only [LawfulMonad.bind_assoc, pure_bind]
      · simp only [pure_bind]

theorem getIfaceDataWithPidLoop_eq (pid : ℤ) (i k : ℕ) :
  getIfaceDataWithPidLoop pid i k =
    Sum.elim (fun _ => -1) id <$> forLoop (pidBody pid) i k ()
  := by
  induction k generalizing i with
  | zero => rfl
  | succ k ih =>
      rw [getIfaceDataWithPidLoop, forLoop, pidBody]
      simp only [map_bind, LawfulMonad.bind_assoc, ih]
      congr 1
      funext found
      cases found with
      | none => simp only [pure_bind]
      | some idx =>
          simp only [LawfulMonad.bind_assoc]
          congr 1
          funext pEntry
          by_cases hpid : pEntry.info.pppPid = pid
          · rw [if_pos hpid, if_pos hpid, LawfulMonad.bind_assoc]
            apply bind_congr
            intro _
            -- `rfl` would evaluate `toInt`
            rw [pure_bind, map_pure, Sum.elim_inr, id_eq]
          · rw [if_neg hpid, if_neg hpid, LawfulMonad.bind_assoc]
            rfl

theorem validateLoop_eq (i : ℕ) (name : CStr) (ulIndex k : ℕ) :
  validateLoop i name ulIndex k =
    Sum.elim (fun _ => true) id <$> forLoop (validateBody i name) ulIndex k ()
  := by
  induction k generalizing ulIndex with
  | zero => rfl
  | succ k ih =>
      rw [validateLoop, forLoop, validateBody]
      simp only [map_bind, ih]
      split_ifs
      · simp only [pure_bind]
      · simp only [LawfulMonad.bind_assoc]
        congr 1
        funext other
        split_ifs
        · simp only [pure_bind, map_pure, Sum.elim_inr, id_eq]
        · simp only [pure_bind]

/-! ### The functions that go by the number of interfaces -/

/-- The entry the operation uses is in the table. -/
def Op.InTable : Op → Prop
  | .lock i => i < pppTableLength
  | .unlock i => i < pppTableLength
  | .load i => i < pppTableLength
  | .store i _ => i < pppTableLength
  | _ => True

/-- A function that indexes the table as the number of interfaces says. -/
inductive TableUse where
  | loadTable
  | getIfaceData (pppIfaceInstance : ℕ)
  | getIfaceDataWithPid (pid : ℤ)
  | validate (i : Fin pppTableLength)

namespace TableUse

/-- What the function runs. -/
def code (b : Build) : TableUse → Code Unit
  | loadTable => backEndManagerInitialize b
  | getIfaceData n => (fun _ => ()) <$> getIfaceDataLocked n
  | getIfaceDataWithPid pid => (fun _ => ()) <$> PppManager.getIfaceDataWithPid pid
  | validate i => (fun _ => ()) <$> interfaceValidate i

/-- How often a run of the function enters the body of its loop over the table. -/
def steps (b : Build) (t : Thread) (ω : Answers) (s : Sys) : TableUse → ℕ
  | loadTable =>
      (machine t).stepsAfter ω dmlGetTotalNoOfPPPInterfaces
        (fun ulEntryCount => (machine t).loopSteps ω (loadBody b) 0 ulEntryCount.toNat 1) 0 s
  | getIfaceData _ => 0
  | getIfaceDataWithPid pid =>
      (machine t).stepsAfter ω dmlGetTotalNoOfPPPInterfaces
        (fun total => (machine t).loopSteps ω (pidBody pid) 1 (toInt total.toInt).toNat ()) 0 s
  | validate i =>
      (machine t).stepsAfter ω dmlGetTotalNoOfPPPInterfaces
        (fun ulEntryCount => (machine t).stepsAfter ω (load i)
          (fun pEntry => (machine t).loopSteps ω (validateBody i pEntry.info.name) 0
            ulEntryCount.toNat ())) 0 s

/-- The run of the function only uses entries of the table, and enters its loop at most once for
each. -/
def StaysInside (b : Build) (t : Thread) (ω : Answers) (s : Sys) (u : TableUse) : Prop :=
  ¬ (machine t).Performs ω (fun o _ => ¬ o.InTable) (u.code b) 0 s ∧ u.steps b t ω s ≤ pppTableLength

/-- The number of interfaces, as the function reads it, is one the table has room for, or is below
the instance that is asked for. -/
def HasRoom (count : ULong) : TableUse → Prop
  | loadTable => count.toNat ≤ pppTableLength
  | getIfaceData n => n ≤ pppTableLength ∨ count.toNat < n
  | getIfaceDataWithPid _ => toInt count.toInt ≤ pppTableLength
  | validate _ => count.toNat ≤ pppTableLength

end TableUse

/-! ### Where there is room -/

/-- The contract under which only entries of the table are used. -/
def inTable (t : Thread) : Contract (machine t) where
  Allows _ _ := True
  Safe o _ := o.InTable
  Admits _ := True

section

variable {t : Thread} {ω : Answers} {k : ℕ} {s : Sys} {α : Type} {b : Build}

theorem inTable_of_only {p : Code α} (hp : Only Op.InTable p) :
  (inTable t).wp p (fun _ _ => True) s
  := by
  apply Contract.wp_of_only (I := fun _ => True) _ _ hp trivial
  · intro o s ho _
    apply ho
  · intro o x s _ _ _
    cases (machine t).step o x s with
    | ok r => trivial
    | error e => trivial

theorem not_performs_of_inTable {p : Code α} {Q : α → Sys → Prop} (h : (inTable t).wp p Q s) :
  ¬ (machine t).Performs ω (fun o _ => ¬ o.InTable) p k s
  := by
  apply Contract.wp_performs (C := inTable t) (fun _ _ => trivial) _ h
  intro o s ho
  apply not_not.mpr ho

theorem inTable_getIfaceDataLocked {n : ℕ} (hn : n ≤ pppTableLength) :
  (inTable t).wp (getIfaceDataLocked n) (fun r _ => ∀ i ∈ r, i < pppTableLength) s
  := by
  rw [getIfaceDataLocked]
  split_ifs with h0
  · rintro _ ⟨⟩
  · rw [Contract.wp_bind]
    apply Contract.wp_mono _ (inTable_of_only (reads_dmlGetTotalNoOfPPPInterfaces.mono _))
    · intro total s' _
      split_ifs
      · rintro _ ⟨⟩
      · have hlock : Op.InTable (.lock (n - 1)) := by
          show n - 1 < pppTableLength
          omega
        rw [Contract.wp_bind]
        apply Contract.wp_mono _ (inTable_of_only (reads_op (P := Op.InTable) hlock))
        intro _ s'' _ i hi
        obtain rfl := Option.some.inj hi
        apply hlock
    · intro o ho
      cases o with
      | lock | unlock | load | store => apply ho.elim
      | _ => trivial

theorem inTable_pidBody {pid : ℤ} {n : ℕ} {x : Unit} (hn : n ≤ pppTableLength) :
  (inTable t).wp (pidBody pid n x) (fun _ _ => True) s
  := by
  rw [pidBody, Contract.wp_bind]
  apply Contract.wp_mono _ (inTable_getIfaceDataLocked hn)
  rintro (_ | idx) s' hidx
  · trivial
  · have hi : idx < pppTableLength := hidx idx rfl
    apply inTable_of_only
    apply only_bind (reads_op (P := Op.InTable) (o := .load idx) hi)
    intro pEntry
    apply only_ite
    · intro _
      apply only_bind (reads_op (P := Op.InTable) (o := .unlock idx) hi)
      intro _
      apply only_pure
    · intro _
      apply only_bind (reads_op (P := Op.InTable) (o := .unlock idx) hi)
      intro _
      apply only_pure

theorem only_loadBody {i n : ℕ} (hi : i < pppTableLength) :
  Only Op.InTable (loadBody b i n)
  := by
  apply only_bind
  · apply only_pppDmlGetIntfValuesFromPSM
    · intro _ _
      trivial
    · intro _
      apply hi
    · intro _
      trivial
  · intro _
    apply only_bind (reads_op (P := Op.InTable) (o := .load i) hi)
    intro pEntry
    apply only_ite
    · intro _
      apply only_bind (reads_op (P := Op.InTable) (o := .store i _) hi)
      intro _
      apply only_pure
    · intro _
      apply only_pure

theorem only_validateBody {i j : ℕ} {name : CStr} {x : Unit} (hj : j < pppTableLength) :
  Only Op.InTable (validateBody i name j x)
  := by
  apply only_ite
  · intro _
    apply only_pure
  · intro _
    apply only_bind (reads_op (P := Op.InTable) (o := .load j) hj)
    intro other
    apply only_ite
    · intro _
      apply only_pure
    · intro _
      apply only_pure

theorem inTable_dmlGetTotalNoOfPPPInterfaces {Q : ULong → Sys → Prop} (h0 : Q 0 s)
    (h : Q s.pppIfCount s) :
  (inTable t).wp dmlGetTotalNoOfPPPInterfaces Q s
  := by
  rw [dmlGetTotalNoOfPPPInterfaces, getNumOfInstance, Contract.wp_bind, Contract.wp_bind]
  use trivial
  intro r _
  cases r with
  | false => apply h0
  | true =>
      rw [Sys.pppIfCount] at h
      simp only [step, if_true]
      cases hpsm : s.psm psmPppManagerPppIfCount with
      | none =>
          rw [hpsm] at h
          apply h
      | some paramValue =>
          rw [hpsm] at h
          apply h

/-- The steps after a run are as many as they are where it ends. -/
theorem stepsAfter_dmlGetTotalNoOfPPPInterfaces_le {m : ℕ} {steps : ULong → ℕ → Sys → ℕ}
    (h0 : ∀ s' k', steps 0 k' s' ≤ m) (h : ∀ s' k', steps s.pppIfCount k' s' ≤ m) :
  (machine t).stepsAfter ω dmlGetTotalNoOfPPPInterfaces steps k s ≤ m
  := by
  rw [Machine.stepsAfter, exec_dmlGetTotalNoOfPPPInterfaces]
  dsimp only
  split_ifs
  · apply h
  · apply h0

/-- A loop through entries of the table stays inside it. -/
theorem inTable_validateLoop {i m : ℕ} {name : CStr} (hm : m ≤ pppTableLength) :
  (inTable t).wp (validateLoop i name 0 m) (fun _ _ => True) s
  := by
  rw [validateLoop_eq, Contract.wp_map]
  apply Contract.wp_forLoop (I := fun _ => True) _ trivial
  intro j x s _ hj _
  apply inTable_of_only
  apply only_validateBody
  omega

/-- A function that has room stays inside the table. -/
theorem TableUse.HasRoom.staysInside {u : TableUse} (h : u.HasRoom s.pppIfCount) :
  u.StaysInside b t ω s
  := by
  have h0 : (0 : ULong).toNat ≤ pppTableLength := Nat.zero_le _
  cases u with
  | loadTable =>
      have hloop : ∀ {m : ℕ} {s : Sys}, m ≤ pppTableLength →
          (inTable t).wp (initializeLoop b 0 m 1) (fun _ _ => True) s := by
        intro m s hm
        rw [initializeLoop_eq, Contract.wp_map]
        apply Contract.wp_forLoop (I := fun _ => True) _ trivial
        intro j x s _ hj _
        apply inTable_of_only
        apply only_loadBody
        omega
      constructor
      · apply not_performs_of_inTable (Q := fun _ _ => True)
        rw [code, backEndManagerInitialize, Contract.wp_bind]
        apply inTable_dmlGetTotalNoOfPPPInterfaces (hloop h0) (hloop h)
      · apply stepsAfter_dmlGetTotalNoOfPPPInterfaces_le
        · intro s' k'
          apply Nat.le_trans Machine.loopSteps_le h0
        · intro s' k'
          apply Nat.le_trans Machine.loopSteps_le h
  | getIfaceData n =>
      constructor
      · apply not_performs_of_inTable (Q := fun _ _ => True)
        rw [code, Contract.wp_map]
        rcases h with hn | hcount
        · apply Contract.wp_mono _ (inTable_getIfaceDataLocked hn)
          intro _ _ _
          trivial
        · rw [getIfaceDataLocked]
          split_ifs
          · trivial
          · rw [Contract.wp_bind]
            apply inTable_dmlGetTotalNoOfPPPInterfaces
            · rw [if_pos]
              · trivial
              · show 0 < n
                omega
            · rw [if_pos hcount]
              trivial
      · apply Nat.zero_le
  | getIfaceDataWithPid pid =>
      have hloop : ∀ {m : ℕ} {s : Sys}, m ≤ pppTableLength →
          (inTable t).wp (getIfaceDataWithPidLoop pid 1 m) (fun _ _ => True) s := by
        intro m s hm
        rw [getIfaceDataWithPidLoop_eq, Contract.wp_map]
        apply Contract.wp_forLoop (I := fun _ => True) _ trivial
        intro j x s _ hj _
        apply inTable_pidBody
        omega
      have hm : (toInt s.pppIfCount.toInt).toNat ≤ pppTableLength := Int.toNat_le.mpr h
      have hm0 : (toInt (0 : ULong).toInt).toNat ≤ pppTableLength := by
        decide
      constructor
      · apply not_performs_of_inTable (Q := fun _ _ => True)
        rw [code, PppManager.getIfaceDataWithPid, Contract.wp_map, Contract.wp_bind]
        apply inTable_dmlGetTotalNoOfPPPInterfaces (hloop hm0) (hloop hm)
      · apply stepsAfter_dmlGetTotalNoOfPPPInterfaces_le
        · intro s' k'
          apply Nat.le_trans Machine.loopSteps_le hm0
        · intro s' k'
          apply Nat.le_trans Machine.loopSteps_le hm
  | validate i =>
      have hload : ∀ {m : ℕ} {s : Sys}, m ≤ pppTableLength →
          (inTable t).wp (do
            let pEntry ← load i
            validateLoop i pEntry.info.name 0 m) (fun _ _ => True) s := by
        intro m s hm
        rw [Contract.wp_bind]
        apply Contract.wp_mono _ (inTable_of_only (reads_op (P := Op.InTable) (o := .load i) i.2))
        intro pEntry s' _
        apply inTable_validateLoop hm
      constructor
      · apply not_performs_of_inTable (Q := fun _ _ => True)
        rw [code, interfaceValidate, Contract.wp_map, Contract.wp_bind]
        apply inTable_dmlGetTotalNoOfPPPInterfaces (hload h0) (hload h)
      · apply stepsAfter_dmlGetTotalNoOfPPPInterfaces_le
        · intro s' k'
          apply Machine.stepsAfter_le
          intro pEntry k'' s''
          apply Nat.le_trans Machine.loopSteps_le h0
        · intro s' k'
          apply Machine.stepsAfter_le
          intro pEntry k'' s''
          apply Nat.le_trans Machine.loopSteps_le h

end

/-! ### Where there is no room -/

/-- A state in which every record says the same. -/
def recorded (record : Option CStr) (table : ℕ → DmlPppIfFull) : Sys where
  table := table
  locks := fun _ => []
  queue := []
  psm := fun _ => record
  acts := []

/-- The answers of an outside where the database works only at first. -/
def firstRead : Answers
  | k, .psmGet _ => decide (k = 0)
  | k, o => (workingOutside 1 none []).answers k o

section

variable {t : Thread} {s : Sys} {i n k : ℕ} {name : CStr} {b : Build} {α β : Type}

/-- After the first moment the program ends with `a` in the state it starts from. -/
def Passes (t : Thread) (s : Sys) (p : Code α) (a : α) : Prop :=
  ∀ k ≠ 0, ∃ k' ≠ 0, (machine t).exec firstRead p k s = .ok (a, s, k')

theorem passes_pure (a : α) :
  Passes t s (pure a) a
  := fun k hk => ⟨k, hk, rfl⟩

theorem Passes.bind {p : Code α} {f : α → Code β} {a : α} {c : β} (hp : Passes t s p a)
    (hf : Passes t s (f a) c) :
  Passes t s (p >>= f) c
  := by
  intro k hk
  obtain ⟨k', hk', hp'⟩ := hp k hk
  obtain ⟨k'', hk'', hf'⟩ := hf k' hk'
  use k'', hk''
  rw [Machine.exec_bind, hp']
  apply hf'

theorem passes_psmGet :
  Passes t s (psmGet name) none
  := by
  intro k hk
  use k + 1, Nat.succ_ne_zero k
  show Except.ok (if decide (k = 0) = true then s.psm name else none, s, k + 1) = _
  rw [decide_eq_false hk]
  rfl

theorem passes_loadRecord {f : CStr → DmlPppIfFull → DmlPppIfFull} :
  Passes t s (loadRecord i n name f) ()
  := passes_psmGet.bind (passes_pure ())

theorem passes_loadWord {size : ℕ} {set : CStr → DmlPppIfFull → DmlPppIfFull} :
  Passes t s (loadWord i n name size set) ()
  := passes_psmGet.bind (passes_pure ())

theorem passes_loadNumber {buff : Option CStr} {set : ℤ → DmlPppIfFull → DmlPppIfFull} :
  Passes t s (loadNumber i n name buff set) buff
  := passes_psmGet.bind (passes_pure buff)

/-- Where no records can be read, nothing is loaded. -/
theorem passes_pppDmlGetIfEntry :
  Passes t s (pppDmlGetIfEntry b i) ()
  := by
  rw [pppDmlGetIfEntry, pppDmlGetIntfValuesFromPSM, loadParameters]
  apply Passes.bind (a := ())
  swap
  · apply passes_loadRecord
  apply passes_loadWord.bind
  apply passes_loadWord.bind
  apply passes_loadWord.bind
  apply passes_loadRecord.bind
  apply passes_loadRecord.bind
  apply passes_loadNumber.bind
  apply passes_loadNumber.bind
  apply passes_loadRecord.bind
  apply Passes.bind (a := ())
  · rw [loadLowerLayers]
    split_ifs
    · apply passes_pure
    · apply passes_loadRecord
  · rw [loadCredentials]
    split_ifs
    · apply passes_loadRecord.bind
      apply passes_loadRecord
    · apply passes_pure

theorem performs_load {ω : Answers} (hi : pppTableLength ≤ i) {f : DmlPppIfFull → Code α} :
  (machine t).Performs ω (fun o _ => ¬ o.InTable) (load i >>= f) k s
  := by
  apply Machine.performs_bind.mpr
  left
  apply Machine.performs_perform
  apply Nat.not_lt.mpr hi

/-- A function runs on after it has read the number of interfaces. -/
theorem performs_of_counted {ω : Answers} (hω : ω k (.psmGet psmPppManagerPppIfCount) = true)
    {B : Op → Sys → Prop} {f : ULong → Code α}
    (h : (machine t).Performs ω B (f s.pppIfCount) (k + 1) s) :
  (machine t).Performs ω B (dmlGetTotalNoOfPPPInterfaces >>= f) k s
  := by
  apply Machine.performs_bind.mpr
  right
  refine ⟨_, _, _, exec_dmlGetTotalNoOfPPPInterfaces, ?_⟩
  rw [if_pos hω]
  apply h

/-- The table is loaded beyond its end. -/
theorem performs_loadTable (h : pppTableLength < s.pppIfCount.toNat) :
  (machine t).Performs firstRead (fun o _ => ¬ o.InTable) (backEndManagerInitialize b) 0 s
  := by
  rw [backEndManagerInitialize]
  apply performs_of_counted rfl
  rw [initializeLoop_eq, Machine.performs_map]
  apply Machine.performs_forLoop (I := fun _ k _ => k ≠ 0) (m := pppTableLength)
  · intro j n k s _ hj hk
    obtain ⟨k', hk', hload⟩ := passes_pppDmlGetIfEntry (t := t) (s := s) (i := j) (b := b) k hk
    rw [loadBody, Machine.exec_bind, hload]
    dsimp only [Except.bind]
    rw [Machine.exec_bind, exec_load hj]
    dsimp only [Except.bind]
    split_ifs
    · refine ⟨n + 1, s.setEntry j ((s.table j).setInstanceNumber n), k' + 2, ?_, Nat.succ_ne_zero _⟩
      rw [Machine.exec_bind, exec_store hj]
      rfl
    · exact ⟨_, s, k' + 1, rfl, Nat.succ_ne_zero _⟩
  · intro n k s hk
    obtain ⟨k', hk', hload⟩ :=
      passes_pppDmlGetIfEntry (t := t) (s := s) (i := pppTableLength) (b := b) k hk
    rw [loadBody]
    apply Machine.performs_bind.mpr
    right
    refine ⟨(), s, k', hload, ?_⟩
    apply performs_load (Nat.le_refl _)
  · apply Nat.zero_le
  · omega
  · apply Nat.succ_ne_zero

/-- An instance beyond the end of the table is looked up. -/
theorem performs_getIfaceDataLocked {ω : Answers}
    (hω : ω k (.psmGet psmPppManagerPppIfCount) = true) (hn : pppTableLength < n)
    (h : n ≤ s.pppIfCount.toNat) :
  (machine t).Performs ω (fun o _ => ¬ o.InTable) (getIfaceDataLocked n) k s
  := by
  rw [getIfaceDataLocked, if_neg (Nat.ne_of_gt (Nat.lt_of_le_of_lt (Nat.zero_le _) hn))]
  apply performs_of_counted hω
  rw [if_neg (Nat.not_lt.mpr h)]
  apply Machine.performs_bind.mpr
  left
  apply Machine.performs_perform
  show ¬ n - 1 < pppTableLength
  omega

/-- The body of the search for a pid that the entry does not have. -/
theorem exec_pidBody {pid : ℤ} {ω : Answers} (hω : ω k (.psmGet psmPppManagerPppIfCount) = true)
    (hi : i < pppTableLength) (hcount : i + 1 ≤ s.pppIfCount.toNat) (hlock : s.locks i = [])
    (hpid : (s.table i).info.pppPid ≠ pid) {x : Unit} :
  (machine t).exec ω (pidBody pid (i + 1) x) k s = .ok (.inl (), s, k + 4)
  := by
  have hfree : ∀ t' ∈ s.locks i, t' = t := owned_of_free hlock
  rw [pidBody, Machine.exec_bind, exec_getIfaceDataLocked hω hi hcount hfree, hlock]
  dsimp only [Except.bind]
  rw [exec_pidFound hi hlock, if_neg hpid]
  rfl

/-- A search for a pid that no entry has goes beyond the end of the table. -/
theorem performs_getIfaceDataWithPid {pid : ℤ} {ω : Answers}
    (hω : ∀ k, ω k (.psmGet psmPppManagerPppIfCount) = true)
    (h : pppTableLength < toInt s.pppIfCount.toInt) (hlocks : ∀ i, s.locks i = [])
    (hpid : ∀ i, (s.table i).info.pppPid ≠ pid) :
  (machine t).Performs ω (fun o _ => ¬ o.InTable) (getIfaceDataWithPid pid) 0 s
  := by
  have hcount : pppTableLength < s.pppIfCount.toNat := by
    by_contra hcount
    have hle := Nat.not_lt.mp hcount
    rw [toInt_pppIfCount hle] at h
    apply hcount (Int.ofNat_lt.mp h)
  rw [getIfaceDataWithPid]
  apply performs_of_counted (hω 0)
  rw [getIfaceDataWithPidLoop_eq, Machine.performs_map]
  apply Machine.performs_forLoop (I := fun _ _ s' => s' = s) (m := pppTableLength + 1)
  · rintro j x k s' hj hm rfl
    obtain ⟨i, rfl⟩ := Nat.exists_eq_add_of_le' hj
    refine ⟨(), s', k + 4, exec_pidBody (hω k) (by omega) (by omega) (hlocks i) (hpid i), rfl⟩
  · rintro x k s' rfl
    rw [pidBody]
    apply Machine.performs_bind.mpr
    left
    apply performs_getIfaceDataLocked (hω k) (Nat.lt_succ_self _) hcount
  · omega
  · omega
  · rfl

/-- A name that no other entry has is compared with those beyond the end of the table. -/
theorem performs_interfaceValidate {ω : Answers}
    (hω : ω 0 (.psmGet psmPppManagerPppIfCount) = true) (hi : i < pppTableLength)
    (h : pppTableLength < s.pppIfCount.toNat)
    (hname : ∀ j, j ≠ i → (s.table j).info.name ≠ (s.table i).info.name) :
  (machine t).Performs ω (fun o _ => ¬ o.InTable) (interfaceValidate i) 0 s
  := by
  rw [interfaceValidate]
  apply performs_of_counted hω
  apply Machine.performs_bind.mpr
  right
  refine ⟨_, _, _, exec_load hi, ?_⟩
  rw [validateLoop_eq, Machine.performs_map]
  apply Machine.performs_forLoop (I := fun _ _ s' => s' = s) (m := pppTableLength)
  · rintro j x k s' - hj rfl
    rw [validateBody]
    split_ifs with hji
    · exact ⟨(), s', k, rfl, rfl⟩
    · use (), s', k + 1
      rw [Machine.exec_bind, exec_load hj]
      dsimp only [Except.bind]
      rw [if_neg (hname j hji)]
      exact ⟨rfl, rfl⟩
  · rintro x k s' rfl
    rw [validateBody, if_neg (Nat.ne_of_gt hi)]
    apply performs_load (Nat.le_refl _)
  · apply Nat.zero_le
  · omega
  · rfl

end

/-- Names that differ from that of the entry `i`. -/
def namedApart (i j : ℕ) : DmlPppIfFull :=
  if j = i then { DmlPppIfFull.zeroed with info := { DmlPppIfFull.zeroed.info with name := ['x'] } }
  else .zeroed

/-- Entries with the pid `pid`. -/
def withPid (pid : ℤ) : DmlPppIfFull :=
  { DmlPppIfFull.zeroed with info := { DmlPppIfFull.zeroed.info with pppPid := pid } }

/-- A function that has no room leaves the table. -/
theorem TableUse.exists_performs {b : Build} {u : TableUse} {record : Option CStr}
    (h : ¬ u.HasRoom (pppIfCountOf record)) :
  ∃ (t : Thread) (ω : Answers) (s : Sys), s.psm psmPppManagerPppIfCount = record ∧
    (machine t).Performs ω (fun o _ => ¬ o.InTable) (u.code b) 0 s
  := by
  have hω : ∀ k, (workingOutside 1 none []).answers k (.psmGet psmPppManagerPppIfCount) = true :=
    fun _ => rfl
  have hcount : ∀ table, pppIfCountOf record = (recorded record table).pppIfCount := fun _ => rfl
  use .dataModel
  cases u with
  | loadTable =>
      use firstRead, recorded record (fun _ => .zeroed), rfl
      rw [HasRoom, hcount, Nat.not_le] at h
      apply performs_loadTable h
  | getIfaceData n =>
      use (workingOutside 1 none []).answers, recorded record (fun _ => .zeroed), rfl
      rw [code, Machine.performs_map]
      rw [HasRoom, hcount, not_or, Nat.not_le, Nat.not_lt] at h
      apply performs_getIfaceDataLocked (hω 0) h.1 h.2
  | getIfaceDataWithPid pid =>
      use (workingOutside 1 none []).answers, recorded record (fun _ => withPid (pid + 1)), rfl
      rw [code, Machine.performs_map]
      rw [HasRoom, hcount, Int.not_le] at h
      apply performs_getIfaceDataWithPid hω h
      · intro i
        rfl
      · intro i
        show pid + 1 ≠ pid
        omega
  | validate i =>
      use (workingOutside 1 none []).answers, recorded record (namedApart i), rfl
      rw [code, Machine.performs_map]
      rw [HasRoom, hcount, Nat.not_le] at h
      apply performs_interfaceValidate (hω 0) i.2 h
      intro j hj
      have hother : namedApart i j = .zeroed := if_neg hj
      have hname : (namedApart i i).info.name = ['x'] := by
        rw [namedApart, if_pos rfl]
      show (namedApart i j).info.name ≠ (namedApart i i).info.name
      rw [hother, hname]
      nofun

/-- Whatever the record of the number of interfaces says, a function stays inside the table in every
run exactly if it has room for the number in the record. -/
theorem staysInside_iff (b : Build) (u : TableUse) (record : Option CStr) :
  (∀ (t : Thread) (ω : Answers) (s : Sys), s.psm psmPppManagerPppIfCount = record →
    u.StaysInside b t ω s) ↔ u.HasRoom (pppIfCountOf record)
  := by
  constructor
  · intro h
    by_contra hroom
    obtain ⟨t, ω, s, hs, hperforms⟩ := u.exists_performs (b := b) hroom
    apply (h t ω s hs).1 hperforms
  · intro h t ω s hs
    apply TableUse.HasRoom.staysInside
    rw [s.pppIfCount_eq, hs]
    apply h

/-- A record with a negative number takes the functions beyond the end of the table. -/
theorem negative_count_leaves_table :
  ¬ ∀ (b : Build) (u : TableUse) (t : Thread) (ω : Answers) (s : Sys), u.StaysInside b t ω s
  := by
  intro h
  have hperforms : (machine .dataModel).Performs firstRead (fun o _ => ¬ o.InTable)
      (backEndManagerInitialize (plainBuild false)) 0
        (recorded (some "-1".toList) (fun _ => .zeroed)) := by
    apply performs_loadTable
    decide +kernel
  apply (h (plainBuild false) .loadTable .dataModel firstRead _).1 hperforms

end PppManager
