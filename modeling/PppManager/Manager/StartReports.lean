import PppManager.Effect.Checked
import PppManager.Manager.EventSteps
import PppManager.Manager.Outside

/-!
# What a start reports

`PppMgr_StartPppClient` reports success after it has run the start command, whatever the command was
and whatever the lookups of its process have found (`startReports_iff`).  A start that fails has run no
command and recorded no interface of the WAN manager.
-/

namespace PppManager

open Effect Effect.Program CText

/-- A success leaves the pid of a `pppd` in the entry, either of the client that has been running
before, or of one that a start command has started; a failure leaves no command and no interface of
the WAN manager behind.  The answers in `A` are those the call gets. -/
def StartReports (A : (o : Op) → o.Ans → Prop) (n : ℕ) (q : AnscStatus) (s s' : Sys) : Prop :=
  (q = .success → ∃ i, n = i + 1 ∧ (s'.table i).info.pppPid ≠ 0 ∧
      ((s'.table i).info.pppPid = (s.table i).info.pppPid ∧
          (∃ r, A (.popen psPppd) r ∧ psLists (s.table i).info.pppPid r = true) ∨
        (∃ r, A .readProc r ∧ lookupPppd r = (s'.table i).info.pppPid) ∧
          ∃ c, Act.system c ∈ s'.acts.drop s.acts.length ∧ startsClient c = true)) ∧
    (q = .failure → s'.acts = s.acts ∧ ∀ i, (s'.table i).wanPair = (s.table i).wanPair)

/-- The operation lists processes. -/
def Op.IsListing : Op → Prop
  | .popen _ => True
  | .readProc => True
  | _ => False

section

variable {t : Thread} {b : Build} {ω : Answers} {i n k k' : ℕ} {s s' : Sys} {q : AnscStatus}
  {α : Type}

theorem Op.IsSetupStep.not_isListing {o : Op} (ho : o.IsSetupStep i) :
  ¬ o.IsListing
  := by
  cases o <;> first | apply not_false | apply ho.elim

/-! ### The lookups -/

theorem exec_checkProcEntryForPid {pid : ℤ}
    (hexec : (machine t).exec ω (checkProcEntryForPid "pppd".toList none) k s = .ok (pid, s', k')) :
  pid = lookupPppd (ω k .readProc) ∧ s' = s ∧ k' = k + 1
  := by
  have hread : (machine t).exec ω readProc k s = .ok (ω k .readProc, s, k + 1) := by
    apply Machine.exec_perform
    rfl
  rw [checkProcEntryForPid, Machine.exec_bind, hread] at hexec
  dsimp only [Except.bind] at hexec
  cases hr : ω k .readProc with
  | none =>
      rw [hr] at hexec
      cases hexec
      exact ⟨rfl, rfl, rfl⟩
  | some dents =>
      rw [hr] at hexec
      cases hexec
      exact ⟨rfl, rfl, rfl⟩

theorem gets_checkProcEntryForPid {r : Option (List ProcDirent)}
    (h : (machine t).Gets ω (checkProcEntryForPid "pppd".toList none) k s .readProc r) :
  r = ω k .readProc
  := by
  rw [checkProcEntryForPid] at h
  rcases Machine.gets_bind.mp h with hfirst | ⟨dents, s', t', -, hrest⟩
  · cases Machine.gets_perform.mp hfirst
    rfl
  · cases dents <;> apply hrest.elim

/-- `PppMgr_getPppPid` gives up only if none of its lookups has found a process. -/
theorem exec_getPppPidLoop_ne {m : ℕ} {pid : ℤ}
    (hexec : (machine t).exec ω (getPppPidLoop none m) k s = .ok (pid, s', k'))
    {r : Option (List ProcDirent)} (hgets : (machine t).Gets ω (getPppPidLoop none m) k s .readProc r)
    (hr : lookupPppd r ≠ 0) :
  pid ≠ 0
  := by
  induction m generalizing k s with
  | zero => apply hgets.elim
  | succ m ih =>
      rw [getPppPidLoop] at hexec hgets
      obtain ⟨pid₁, s₁, k₁, hlookup, hrest⟩ := Machine.exec_bind_ok hexec
      have hsplit : r = ω k .readProc ∨
          (machine t).Gets ω (if pid₁ ≠ 0 then pure pid₁ else getPppPidLoop none m) k₁ s₁
            .readProc r := by
        rcases Machine.gets_bind.mp hgets with hfirst | ⟨_, _, _, hfirst, hgets⟩
        · exact .inl (gets_checkProcEntryForPid hfirst)
        · rw [hlookup] at hfirst
          cases hfirst
          exact .inr hgets
      obtain ⟨hpid₁, -, -⟩ := exec_checkProcEntryForPid hlookup
      by_cases hzero : pid₁ = 0
      · rw [if_neg (not_not.mpr hzero)] at hrest hsplit
        rcases hsplit with rfl | hgets
        · rw [hpid₁] at hzero
          apply absurd hzero hr
        · apply ih hrest hgets
      · rw [if_pos hzero] at hrest
        cases hrest
        apply hzero

/-! ### What a run has looked at -/

/-- The operations only add to what is done to the outside. -/
theorem step_acts_le {o : Op} {x : o.Ans} {r : o.Res} (h : step t o x s = .ok (r, s')) :
  s.acts.length ≤ s'.acts.length
  := by
  cases o with
  | lock i | load i | store i f =>
      simp only [step] at h
      split_ifs at h
      cases h
      exact Nat.le_refl s.acts.length
  | unlock i =>
      simp only [step] at h
      split at h
      · split_ifs at h
        cases h
        apply le_rfl
      · cases h
  | undefined u => cases h
  | mqSend ev =>
      simp only [step] at h
      split_ifs at h
      · cases h
        rw [Sys.post_acts, List.length_append]
        apply Nat.le_add_right
      · cases h
        exact Nat.le_refl s.acts.length
  | mqReceive =>
      simp only [step] at h
      split at h <;> cases h <;> exact Nat.le_refl s.acts.length
  | psmSet name value =>
      cases h
      split_ifs <;> exact Nat.le_refl s.acts.length
  | generateDuidFile | removeDuidFile | busSet | system | kill =>
      cases h
      rw [Sys.emit_acts, List.length_append]
      apply Nat.le_add_right
  | _ =>
      cases h
      exact Nat.le_refl s.acts.length

theorem exec_acts_le {p : Code α} {a : α} (hexec : (machine t).exec ω p k s = .ok (a, s', k')) :
  s.acts.length ≤ s'.acts.length
  := by
  induction p generalizing k s with
  | ret b =>
      cases hexec
      apply le_rfl
  | call o f ih =>
      rw [Machine.exec] at hexec
      cases hstep : (machine t).step o (ω k o) s with
      | ok r =>
          rw [hstep] at hexec
          apply Nat.le_trans (step_acts_le hstep) (ih _ hexec)
      | error e =>
          rw [hstep] at hexec
          cases hexec

/-- A run of `p` that ends in `s'` has not asked for the processes, and if it has looked into `/proc`
and found one, the entry `i` has a pid, and something has been done to the outside. -/
structure Looks (t : Thread) (ω : Answers) (i : ℕ) (p : Code α) (k : ℕ) (s s' : Sys) : Prop where
  popen : ∀ c r, ¬ (machine t).Gets ω p k s (.popen c) r
  readProc : ∀ r, (machine t).Gets ω p k s .readProc r →
    (lookupPppd r ≠ 0 → (s'.table i).info.pppPid ≠ 0) ∧ s.acts.length < s'.acts.length

/-- All runs of the program that end are such. -/
def LooksWell (t : Thread) (ω : Answers) (i : ℕ) (p : Code AnscStatus) : Prop :=
  ∀ k s q s' k', (machine t).exec ω p k s = .ok (q, s', k') → Looks t ω i p k s s'

theorem looksWell_bind {p : Code α} {f : α → Code AnscStatus} (hp : Only (Op.IsSetupStep i) p)
    (hf : ∀ a, LooksWell t ω i (f a)) :
  LooksWell t ω i (p >>= f)
  := by
  intro k s q s' k' hexec
  obtain ⟨a, s₁, k₁, hfirst, hrest⟩ := Machine.exec_bind_ok hexec
  have hcontinues := Machine.continues_bind (f := f) (B := fun (o : Op) _ => o.IsListing) hp
    (fun _ _ => Op.IsSetupStep.not_isListing) hfirst
  have hlooks := hf a _ _ _ _ _ hrest
  constructor
  · intro c r hgets
    apply hlooks.popen c r ((hcontinues.gets (.popen c) r trivial).mp hgets)
  · intro r hgets
    obtain ⟨hpid, hlt⟩ := hlooks.readProc r ((hcontinues.gets .readProc r trivial).mp hgets)
    exact ⟨hpid, Nat.lt_of_le_of_lt (exec_acts_le hfirst) hlt⟩

theorem looksWell_of_setup {p : Code AnscStatus} (hp : Only (Op.IsSetupStep i) p) :
  LooksWell t ω i p
  := by
  intro k s q s' k' _
  constructor
  · intro c r
    apply Machine.not_gets_of_only hp
    apply not_false
  · intro r hgets
    apply absurd hgets
    apply Machine.not_gets_of_only hp
    apply not_false

/-- The pid is recorded after the lookups. -/
theorem exec_recordClient {w v : ℤ}
    (hexec : (machine t).exec ω (recordClient i w v) k s = .ok (q, s', k'))
    {r : Option (List ProcDirent)} (hgets : (machine t).Gets ω (recordClient i w v) k s .readProc r)
    (hr : lookupPppd r ≠ 0) :
  (s'.table i).info.pppPid ≠ 0
  := by
  obtain ⟨pid, s₁, k₁, hlookup, hrest⟩ := Machine.exec_bind_ok hexec
  have hend : Only (Op.IsSetupStep i) (do
      store i (·.setPppPid pid)
      store i (·.setWanInstance w v)
      getIfaceDataRelease i
      pure AnscStatus.success) := by
    apply only_bind (setupStep_store _)
    intro _
    apply only_bind (setupStep_store _)
    intro _
    apply setupStep_release
  have hpid : pid ≠ 0 := by
    rcases Machine.gets_bind.mp hgets with hfirst | ⟨_, _, _, hfirst, hgets⟩
    · apply exec_getPppPidLoop_ne hlookup hfirst hr
    · rw [hlookup] at hfirst
      cases hfirst
      apply absurd hgets
      apply Machine.not_gets_of_only hend
      apply not_false
  have hwp : (contract t (fun _ _ => True) True).wp (do
      store i (·.setPppPid pid)
      store i (·.setWanInstance w v)
      getIfaceDataRelease i
      pure AnscStatus.success) (fun _ s' => (s'.table i).info.pppPid = pid) s₁ := by
    rw [Contract.wp_bind, wp_store]
    intro _
    rw [Contract.wp_bind, wp_store]
    intro _
    rw [Contract.wp_bind, getIfaceDataRelease, wp_unlock]
    intro owners _
    show (Sys.table _ i).info.pppPid = pid
    rw [Sys.setLock_table, Sys.setEntry_table, Function.update_self, Sys.setEntry_table,
      Function.update_self]
    rfl
  rw [Contract.wp_exec_ok (C := contract t (fun _ _ => True) True) (fun _ _ _ => trivial) hwp hrest]
  apply hpid

/-- The start command is run before the lookups. -/
theorem looksWell_recordClient {command : CStr} {w v : ℤ} :
  LooksWell t ω i (do
    system command
    recordClient i w v)
  := by
  intro k s q s' k' hexec
  obtain ⟨_, s₁, k₁, hsystem, hrecord⟩ := Machine.exec_bind_ok hexec
  have hcontinues := Machine.continues_bind (f := fun _ => recordClient i w v)
    (B := fun (o : Op) _ => o.IsListing) (setupStep_system (i := i) command)
    (fun _ _ => Op.IsSetupStep.not_isListing) hsystem
  have hprocs : Only (fun o : Op => ∀ c, o ≠ .popen c) (recordClient i w v) := by
    apply only_bind (only_getPppPid (P := fun o : Op => ∀ c, o ≠ .popen c) (fun c => nofun) none)
    intro pid
    apply only_bind (reads_op (P := fun o : Op => ∀ c, o ≠ .popen c) (o := .store _ _) (fun c => nofun))
    intro _
    apply only_bind (reads_op (P := fun o : Op => ∀ c, o ≠ .popen c) (o := .store _ _) (fun c => nofun))
    intro _
    apply only_bind (reads_op (P := fun o : Op => ∀ c, o ≠ .popen c) (o := .unlock _) (fun c => nofun))
    intro _
    apply only_pure
  constructor
  · intro c r hgets
    apply Machine.not_gets_of_only hprocs (fun h => h c rfl)
      ((hcontinues.gets (.popen c) r trivial).mp hgets)
  · intro r hgets
    use exec_recordClient hrecord ((hcontinues.gets .readProc r trivial).mp hgets)
    have hemit : s₁ = s.emit (.system command) := by
      cases hsystem
      rfl
    apply Nat.lt_of_lt_of_le _ (exec_acts_le hrecord)
    rw [hemit, Sys.emit_acts, List.length_append]
    apply Nat.lt_succ_self

theorem looksWell_launchPppClient {w v : ℤ} :
  LooksWell t ω i (launchPppClient b i w v)
  := by
  have hrest : LooksWell t ω i (launchConfigured b i w v) := by
    apply looksWell_bind setupStep_load
    intro pEntry
    split_ifs
    · apply looksWell_bind (setupStep_configureClient pEntry)
      rintro (_ | command)
      · apply looksWell_of_setup (setupStep_release _)
      · apply looksWell_recordClient
    · apply looksWell_of_setup (setupStep_release _)
  apply looksWell_bind (setupStep_store _)
  intro _
  split_ifs
  · apply hrest
  · apply looksWell_bind setupStep_getCredentialsFromHal
    intro _
    apply hrest

/-! ### The whole start -/

/-- A run that ends in `s'` looks into `/proc` only if no listing of the processes has had the pid, and
if it finds one there, the entry `i` has a pid, and something has been done to the outside. -/
def LooksAfter (t : Thread) (ω : Answers) (i : ℕ) (pid : ℤ) (p : Code α) (k : ℕ) (s s' : Sys) : Prop :=
  ∀ r, (machine t).Gets ω p k s .readProc r →
    (∀ c r', (machine t).Gets ω p k s (.popen c) r' → psLists pid r' = false) ∧
      (lookupPppd r ≠ 0 → (s'.table i).info.pppPid ≠ 0) ∧ s.acts.length < s'.acts.length

theorem looksAfter_bind {β : Type} {pid : ℤ} {p : Code β} {f : β → Code α} {a : β} {s₁ : Sys}
    {k₁ : ℕ} (hp : Only (fun o : Op => ¬ o.IsListing) p)
    (hexec : (machine t).exec ω p k s = .ok (a, s₁, k₁))
    (hf : LooksAfter t ω i pid (f a) k₁ s₁ s') :
  LooksAfter t ω i pid (p >>= f) k s s'
  := by
  have hcontinues := Machine.continues_bind (f := f) (B := fun (o : Op) _ => o.IsListing) hp
    (fun _ _ ho => ho) hexec
  intro r hgets
  obtain ⟨hps, hpid, hlt⟩ := hf r ((hcontinues.gets .readProc r trivial).mp hgets)
  refine ⟨?_, hpid, Nat.lt_of_le_of_lt (exec_acts_le hexec) hlt⟩
  intro c r' hgets'
  apply hps c r' ((hcontinues.gets (.popen c) r' trivial).mp hgets')

theorem exec_checkPidExist {pid : ℤ}
    (hexec : (machine t).exec ω (checkPidExist pid) k s = .ok (q, s', k')) {c : CStr}
    {r : Option CStr} (hgets : (machine t).Gets ω (checkPidExist pid) k s (.popen c) r)
    (hq : q = .failure) :
  psLists pid r = false
  := by
  rw [checkPidExist] at hexec hgets
  split_ifs at hexec hgets
  · apply hgets.elim
  · obtain ⟨text, s₁, k₁, hpopen, hrest⟩ := Machine.exec_bind_ok hexec
    rcases Machine.gets_bind.mp hgets with hfirst | ⟨text', _, _, -, hgets⟩
    · cases Machine.gets_perform.mp hfirst
      cases hpopen
      subst hq
      cases hr : ω k (.popen psPppd) with
      | none => rfl
      | some text =>
          rw [hr] at hrest
          dsimp only at hrest
          split_ifs at hrest with hany
          · cases hrest
          · apply Bool.of_not_eq_true hany
    · cases text' with
      | none => apply hgets.elim
      | some text' =>
          dsimp only at hgets
          split_ifs at hgets <;> apply hgets.elim

/-- The part of `PppMgr_StartPppClient` after the look for a running client. -/
theorem looksAfter_checked {w v : ℤ} {pid : ℤ}
    (hexec : (machine t).exec ω (do
      match ← checkPidExist pid with
      | .success =>
        getIfaceDataRelease i
        pure .success
      | .failure => launchPppClient b i w v) k s = .ok (q, s', k')) :
  LooksAfter t ω i pid (do
    match ← checkPidExist pid with
    | .success =>
      getIfaceDataRelease i
      pure AnscStatus.success
    | .failure => launchPppClient b i w v) k s s'
  := by
  intro r hgets
  obtain ⟨q₁, s₁, k₁, hcheck, hrest⟩ := Machine.exec_bind_ok hexec
  have hfirst : ∀ {r}, ¬ (machine t).Gets ω (checkPidExist pid) k s .readProc r := by
    intro r
    apply Machine.not_gets_of_only (only_checkPidExist (P := fun o => o = .popen psPppd) rfl pid)
    nofun
  obtain ⟨_, _, _, hcheck', hlater⟩ := (Machine.gets_bind.mp hgets).resolve_left hfirst
  rw [hcheck] at hcheck'
  cases hcheck'
  cases q₁ with
  | success =>
      apply absurd hlater
      apply Machine.not_gets_of_only (setupStep_release (i := i) _)
      apply not_false
  | failure =>
      have hlooks := looksWell_launchPppClient _ _ _ _ _ hrest
      obtain ⟨hpid, hlt⟩ := hlooks.readProc r hlater
      refine ⟨?_, hpid, Nat.lt_of_le_of_lt (exec_acts_le hcheck) hlt⟩
      intro c r' hgets'
      rcases Machine.gets_bind.mp hgets' with hpopen | ⟨_, _, _, hcheck', hpopen⟩
      · apply exec_checkPidExist hcheck hpopen rfl
      · rw [hcheck] at hcheck'
        cases hcheck'
        apply absurd hpopen (hlooks.popen c r')

/-- A start of the instance `n` looks into `/proc` only after it has found the entry. -/
theorem looksAfter_startFrom {w v : ℤ} {r : Option (List ProcDirent)}
    (hexec : (machine t).exec ω (startFrom b n w v) k s = .ok (q, s', k'))
    (hgets : (machine t).Gets ω (startFrom b n w v) k s .readProc r) :
  ∃ i, n = i + 1 ∧ LooksAfter t ω i (s.table i).info.pppPid (startFrom b n w v) k s s'
  := by
  have hlookup : Only (fun o : Op => ¬ o.IsListing) (getIfaceDataLocked n) :=
    only_getIfaceDataLocked not_false (fun _ => not_false)
  unfold startFrom at hexec hgets ⊢
  split_ifs at hexec hgets ⊢ with hpair
  · apply hgets.elim
  · obtain ⟨o, s₁, k₁, hfind, hrest⟩ := Machine.exec_bind_ok hexec
    have hwp : (contract t (fun _ _ => True) True).wp (getIfaceDataLocked n)
        (fun o s' => s'.table = s.table ∧ ∀ i ∈ o, n = i + 1) s := by
      apply wp_getIfaceDataLocked
      · intro _
        exact ⟨rfl, nofun⟩
      · intro i hn _ _
        refine ⟨rfl, ?_⟩
        rintro _ ⟨⟩
        apply hn
    obtain ⟨htable, hn⟩ := Contract.wp_exec_ok (C := contract t (fun _ _ => True) True)
      (fun _ _ _ => trivial) hwp hfind
    cases o with
    | none => cases hrest
    | some i =>
        use i, hn i rfl
        apply looksAfter_bind hlookup hfind
        obtain ⟨e, s₂, k₂, hload, hrest⟩ := Machine.exec_bind_ok hrest
        have hwp : (contract t (fun _ _ => True) True).wp (load i) (fun e _ => e = s.table i) s₁ := by
          rw [wp_load]
          intro _
          rw [htable]
        have he := Contract.wp_exec_ok (C := contract t (fun _ _ => True) True) (fun _ _ _ => trivial)
          hwp hload
        rw [← he]
        apply looksAfter_bind (setupStep_load.mono fun _ => Op.IsSetupStep.not_isListing) hload
        apply looksAfter_checked hrest

theorem looksAfter_startPppClient {r : Option (List ProcDirent)}
    (hexec : (machine t).exec ω (startPppClient b n) k s = .ok (q, s', k'))
    (hgets : (machine t).Gets ω (startPppClient b n) k s .readProc r) :
  ∃ i, n = i + 1 ∧ LooksAfter t ω i (s.table i).info.pppPid (startPppClient b n) k s s'
  := by
  have hwan : Only (fun o : Op => ¬ o.IsListing) (getWanIfaceInstance b n (-1, -1)) :=
    only_getWanIfaceInstance not_false b (fun _ _ => not_false) n _
  rw [startPppClient_eq] at hexec hgets ⊢
  obtain ⟨pair, s₁, k₁, hsearch, hstart⟩ := Machine.exec_bind_ok hexec
  have hs₁ : s₁ = s := by
    apply Contract.wp_exec_ok (C := contract t (fun _ _ => True) True) (fun _ _ _ => trivial)
      (wp_of_queries (Q := fun _ s' => s' = s) (reads_getWanIfaceInstance b n (-1, -1))
        (fun _ => rfl)) hsearch
  have hfirst : ¬ (machine t).Gets ω (getWanIfaceInstance b n (-1, -1)) k s .readProc r := by
    apply Machine.not_gets_of_only hwan
    apply not_not.mpr
    trivial
  obtain ⟨_, _, _, hsearch', hlater⟩ := (Machine.gets_bind.mp hgets).resolve_left hfirst
  rw [hsearch] at hsearch'
  cases hsearch'
  obtain ⟨i, hn, hlooks⟩ := looksAfter_startFrom hstart hlater
  use i, hn
  rw [← hs₁] at hsearch ⊢
  apply looksAfter_bind hwan hsearch hlooks

theorem Attempted.hasLink {e e' : DmlPppIfFull} (h : Attempted b e e') :
  e'.hasLink = e.hasLink
  := by
  obtain ⟨u, p, -, rfl⟩ := h
  rfl

/-- A start command is run only for a link type that has one. -/
theorem Configures.hasLink {A : (o : Op) → o.Ans → Prop} {e : DmlPppIfFull} {cs : List CStr}
    {command c : CStr} (h : Configures A b e cs command) (hc : c ∈ cs ++ [command])
    (hstarts : PppManager.startsClient c = true) :
  e.hasLink = true
  := by
  cases h with
  | noLink hlink =>
      rw [List.nil_append, List.mem_singleton] at hc
      rw [hc, startsClient_nil] at hstarts
      cases hstarts
  | daemon lib service hdaemon hlink => apply hlink
  | pppoa hdaemon hlink =>
      rw [DmlPppIfFull.hasLink, hlink]
      rfl
  | pppoe r padt hdaemon hlink =>
      rw [DmlPppIfFull.hasLink, hlink]
      rfl

/-- A launch reports well exactly if the entry has a link, and a lookup finds a process. -/
theorem startReports_launched_iff {A : (o : Op) → o.Ans → Prop} {e : DmlPppIfFull} {cs : List CStr}
    {command : CStr} {r : Option (List ProcDirent)} {w v : ℤ} (hconf : Configures A b e cs command)
    (hr : A .readProc r)
    (hps : ∀ c x, A (.popen c) x → psLists (s.table i).info.pppPid x = false)
    (hpid : ∀ x, A .readProc x → lookupPppd x ≠ 0 → lookupPppd r ≠ 0) :
  StartReports A (i + 1) .success s
      ((s.setEntry i ((e.setPppPid (lookupPppd r)).setWanInstance w v)).systems (cs ++ [command])) ↔
    e.hasLink = true ∧ ∃ x, A .readProc x ∧ lookupPppd x ≠ 0
  := by
  have hrecorded : (((s.setEntry i ((e.setPppPid (lookupPppd r)).setWanInstance w v)).systems
      (cs ++ [command])).table i).info.pppPid = lookupPppd r := by
    rw [Sys.systems_table, Sys.setEntry_table, Function.update_self]
    rfl
  have hdone : ∀ c, Act.system c ∈ ((s.setEntry i ((e.setPppPid (lookupPppd r)).setWanInstance
      w v)).systems (cs ++ [command])).acts.drop s.acts.length ↔ c ∈ cs ++ [command] := by
    intro c
    rw [Sys.systems_acts, Sys.setEntry_acts, List.drop_left,
      List.mem_map_of_injective fun _ _ => Act.system.inj]
  constructor
  · intro hreports
    obtain ⟨j, hj, hne, ⟨hsame, x, hx, hlists⟩ | ⟨⟨x, hx, hfound⟩, c, hc, hstarts⟩⟩ :=
      hreports.1 rfl
    · obtain rfl : i = j := Nat.succ.inj hj
      rw [hps _ x hx] at hlists
      cases hlists
    · use hconf.hasLink ((hdone c).mp hc) hstarts, x, hx
      rw [hfound]
      apply hne
  · rintro ⟨hlink, x, hx, hfound⟩
    constructor
    · intro _
      refine ⟨i, rfl, ?_, .inr ⟨⟨r, hr, hrecorded.symm⟩, command, ?_, ?_⟩⟩
      · rw [hrecorded]
        apply hpid x hx hfound
      · apply (hdone command).mpr (List.mem_append_right _ (List.mem_singleton_self _))
      · rw [hconf.startsClient, hlink]
    · intro h
      cases h

/-- A start reports what it has done exactly if, where it gets as far as the lookups of its process,
the link type of the entry has a start command, and one of the lookups finds a process. -/
theorem startReports_iff (hexec : (machine t).exec ω (startPppClient b n) k s = .ok (q, s', k')) :
  StartReports ((machine t).Gets ω (startPppClient b n) k s) n q s s' ↔
    ((∃ r, (machine t).Gets ω (startPppClient b n) k s .readProc r) →
      (s.table (n - 1)).hasLink = true ∧
        ∃ r, (machine t).Gets ω (startPppClient b n) k s .readProc r ∧ lookupPppd r ≠ 0)
  := by
  have hends : StartEnds ((machine t).Gets ω (startPppClient b n) k s) b s n q s' := by
    have hwp : (contract t ((machine t).Gets ω (startPppClient b n) k s) True).wp (startPppClient b n)
        (StartEnds ((machine t).Gets ω (startPppClient b n) k s) b s n) s :=
      wp_startPppClient fun _ _ h => h
    apply Contract.wp_exec_gets (fun _ _ hx _ => hx) hwp hexec
  have hunseen : s'.acts = s.acts →
      ¬ ∃ r, (machine t).Gets ω (startPppClient b n) k s .readProc r := by
    rintro hacts ⟨r, hr⟩
    obtain ⟨i, -, hlooks⟩ := looksAfter_startPppClient hexec hr
    obtain ⟨-, -, hlt⟩ := hlooks r hr
    rw [hacts] at hlt
    apply Nat.lt_irrefl _ hlt
  cases hends with
  | noWanIface =>
      apply iff_of_true
      · exact ⟨nofun, fun _ => ⟨rfl, fun _ => rfl⟩⟩
      · intro hseen
        apply absurd hseen (hunseen rfl)
  | alreadyRunning i r hn hi hpid hr hps =>
      apply iff_of_true
      · exact ⟨fun _ => ⟨i, hn, hpid, .inl ⟨rfl, r, hr, hps⟩⟩, nofun⟩
      · intro hseen
        apply absurd hseen (hunseen rfl)
  | rejected i e hn hi hstopped he =>
      apply iff_of_true
      · refine ⟨nofun, fun _ => ⟨rfl, ?_⟩⟩
        intro j
        rw [Sys.setEntry_table]
        by_cases hj : j = i
        · rw [hj, Function.update_self]
          apply he.wanPair
        · rw [Function.update_of_ne hj]
      · intro hseen
        apply absurd hseen (hunseen rfl)
  | launched i e cs command r w v hn hi hstopped he hparams hconf hr =>
      obtain ⟨i', hn', hlooks⟩ := looksAfter_startPppClient hexec hr
      obtain rfl : i = i' := Nat.succ.inj (hn.symm.trans hn')
      obtain ⟨hps, -, -⟩ := hlooks r hr
      subst hn
      have hseen : ∃ r, (machine t).Gets ω (startPppClient b (i + 1)) k s .readProc r := ⟨r, hr⟩
      rw [Nat.add_sub_cancel, ← he.hasLink, forall_prop_of_true hseen]
      apply startReports_launched_iff hconf hr hps
      intro x hx hfound
      obtain ⟨-, hpid, -⟩ := hlooks x hx
      have h := hpid hfound
      rw [Sys.systems_table, Sys.setEntry_table, Function.update_self] at h
      apply h

end

/-- The answers to a start of the interface 1, with the processes `proc`. -/
def startAnswers (proc : List ProcDirent) : Answers :=
  { workingOutside 1 none proc with bus := fun k => startReads 1 (k + 1) : Outside }.answers

/-- A start whose client is found. -/
theorem startReports_iff_found :
  ∃ q s' k', (machine .event).exec (startAnswers [pppdProcess 7])
      (startPppClient (plainBuild false) 1) 0 (freshState 1) = .ok (q, s', k') ∧
    (StartReports ((machine .event).Gets (startAnswers [pppdProcess 7])
        (startPppClient (plainBuild false) 1) 0 (freshState 1)) 1 q (freshState 1) s' ↔
      ((∃ r, (machine .event).Gets (startAnswers [pppdProcess 7])
          (startPppClient (plainBuild false) 1) 0 (freshState 1) .readProc r) →
        ((freshState 1).table (1 - 1)).hasLink = true ∧
          ∃ r, (machine .event).Gets (startAnswers [pppdProcess 7])
            (startPppClient (plainBuild false) 1) 0 (freshState 1) .readProc r ∧ lookupPppd r ≠ 0))
  := by
  have hends : ((machine .event).exec (startAnswers [pppdProcess 7])
      (startPppClient (plainBuild false) 1) 0 (freshState 1)).isOk = true := by
    decide +kernel
  obtain ⟨⟨q, s', k'⟩, hexec⟩ := exists_ok_of_isOk hends
  use q, s', k', hexec
  apply startReports_iff hexec

/-- A start whose client is never found reports success. -/
theorem unfound_client_reported :
  ∃ q s' k', (machine .event).exec (startAnswers []) (startPppClient (plainBuild false) 1) 0
      (freshState 1) = .ok (q, s', k') ∧
    ¬ StartReports ((machine .event).Gets (startAnswers []) (startPppClient (plainBuild false) 1) 0
      (freshState 1)) 1 q (freshState 1) s'
  := by
  have hends : ((machine .event).exec (startAnswers []) (startPppClient (plainBuild false) 1) 0
      (freshState 1)).toOption.map (fun r => (r.1, (r.2.1.table 0).info.pppPid)) =
        some (.success, 0) := by
    decide +kernel
  obtain ⟨⟨q, s', k'⟩, hexec, hend⟩ := Option.map_eq_some_iff.mp hends
  obtain ⟨hq, hpid⟩ := Prod.mk.inj hend
  use q, s', k', eq_ok_of_toOption hexec
  intro hreports
  obtain ⟨i, hi, hne, -⟩ := hreports.1 hq
  obtain rfl : 0 = i := Nat.succ.inj hi
  apply hne hpid

end PppManager
