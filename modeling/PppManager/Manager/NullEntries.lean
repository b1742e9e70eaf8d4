import PppManager.Effect.Checked
import PppManager.Manager.EventSteps
import PppManager.Manager.Socket

/-!
# Events for unknown interfaces

`PppMgr_ProcessPppEvent` looks up the entry of its interface, and the lookup fails where the number of
interfaces cannot be read.  `PppMgr_StartPppClient` uses the entry it is given without a look at it, so
that the handling of an event copes with a failed lookup exactly if the event does not start a client
the WAN manager has an interface for (`copesWithNull_iff`).
-/

namespace PppManager

open Effect Effect.Program CText

/-- The handling of an event dereferences no null pointer, and where no entry is found for its
interface it leaves the table as it is and runs no command. -/
def CopesWithNull (b : Build) (ω : Answers) (ev : PppEventQData) (k : ℕ) (s : Sys) : Prop :=
  match (machine .event).exec ω (processPppEvent b ev) k s with
  | .error e => e ≠ .undefined .nullDereference
  | .ok (_, s', _) =>
      NoSuchEntry ((machine .event).Gets ω (processPppEvent b ev) k s) s ev.pppIfInstance.toNat →
        s'.table = s.table ∧ ∀ c, Act.system c ∉ s'.acts.drop s.acts.length

section

variable {i k k' n : ℕ} {b : Build} {ω : Answers} {s s' : Sys}

theorem Op.IsLaunchStep.ne_nullDereference {o : Op} (ho : o.IsLaunchStep i) :
  o ≠ .undefined .nullDereference
  := by
  rintro rfl
  cases ho

theorem Op.IsLaunchStep.ne_psmGet {name : CStr} :
  ¬ (Op.psmGet name).IsLaunchStep i
  := not_false

/-! ### Starts -/

/-- The part of `PppMgr_StartPppClient` after it has found the entry `i`. -/
def startFound (b : Build) (i : ℕ) (wanIfaceInstance wanVirtIfaceInstance : ℤ) :
    Code AnscStatus := do
  let pEntry ← load i
  match ← checkPidExist pEntry.info.pppPid with
  | .success =>
    getIfaceDataRelease i
    pure .success
  | .failure => launchPppClient b i wanIfaceInstance wanVirtIfaceInstance

theorem launchStep_startFound (w v : ℤ) :
  Only (Op.IsLaunchStep i) (startFound b i w v)
  := by
  apply only_bind (launchStep_of_setup setupStep_load)
  intro pEntry
  apply only_bind (only_checkPidExist (P := Op.IsLaunchStep i) trivial _)
  rintro (_ | _)
  · apply launchStep_of_setup (setupStep_release _)
  · apply launchStep_launchPppClient

theorem launchStep_getWanIfaceInstance (out : ℤ × ℤ) :
  Only (Op.IsLaunchStep i) (getWanIfaceInstance b n out)
  := only_getWanIfaceInstance (P := Op.IsLaunchStep i) rfl b (fun _ _ => trivial) n out

/-- The steps of a start dereference no null pointer. -/
theorem exec_ne_null {α : Type} {p : Code α} (hp : Only (Op.IsLaunchStep i) p) :
  (machine .event).exec ω p k s ≠ .error (.undefined .nullDereference)
  := by
  apply Machine.exec_ne_error_of_only _ hp
  intro o x s' ho
  apply step_ne_undefined ho.ne_nullDereference

/-- The lookup of an entry reads the number of interfaces once. -/
theorem gets_getIfaceDataLocked {name : CStr} {x : Bool}
    (h : (machine .event).Gets ω (getIfaceDataLocked (i + 1)) k s (.psmGet name) x) :
  ω k (.psmGet psmPppManagerPppIfCount) = x
  := by
  rw [getIfaceDataLocked, if_neg (Nat.succ_ne_zero i)] at h
  rcases Machine.gets_bind.mp h with hcount | ⟨total, s', t', -, hrest⟩
  · rcases Machine.gets_bind.mp (Machine.gets_bind_pure.mp hcount) with hget | ⟨r, s', t', -, hend⟩
    · cases Machine.gets_perform.mp hget
      rfl
    · cases r <;> apply hend.elim
  · split_ifs at hrest
    · apply hrest.elim
    · cases Machine.gets_perform.mp (Machine.gets_bind_pure.mp hrest)

/-- The lookup of the entry of the instance `n` at the moment `k` finds it. -/
def FindsEntry (ω : Answers) (k n : ℕ) (s : Sys) : Prop :=
  ω k (.psmGet psmPppManagerPppIfCount) = true ∧ n ≤ s.pppIfCount.toNat

/-- The ways a run of `PppMgr_StartPppClient` goes on after its search of the WAN manager. -/
inductive StartRuns (b : Build) (ω : Answers) (s : Sys) (n k : ℕ) :
    AnscStatus × ℤ × ℤ → Prop
  | noWanIface {q : AnscStatus} {w v : ℤ} (hpair : w = -1 ∨ v = -1)
      (hexec : (machine .event).exec ω (startFrom b n w v) k s = .ok (.failure, s, k)) :
      StartRuns b ω s n k (q, w, v)
  | unknown {q : AnscStatus} {w v : ℤ} (hpair : ¬ (w = -1 ∨ v = -1)) (hnone : ¬ FindsEntry ω k n s)
      (hexec : (machine .event).exec ω (startFrom b n w v) k s =
        .error (.undefined .nullDereference)) : StartRuns b ω s n k (q, w, v)
  | found {q : AnscStatus} {w v : ℤ} (i : ℕ) (hn : n = i + 1) (hfound : FindsEntry ω k n s)
      (hreads : ¬ (machine .event).Gets ω (startFrom b n w v) k s (.psmGet psmPppManagerPppIfCount)
        false)
      (hexec : (machine .event).exec ω (startFrom b n w v) k s =
        (machine .event).exec ω (startFound b i w v) (k + 2) (s.setLock i [.event])) :
      StartRuns b ω s n k (q, w, v)

theorem startRuns (hs : AtRest s) (hn : 0 < n) (r : AnscStatus × ℤ × ℤ) :
  StartRuns b ω s n k r
  := by
  obtain ⟨q, w, v⟩ := r
  obtain ⟨i, rfl⟩ := Nat.exists_eq_succ_of_ne_zero (Nat.ne_of_gt hn)
  by_cases hpair : w = -1 ∨ v = -1
  · apply StartRuns.noWanIface hpair
    rw [startFrom, if_pos hpair]
    rfl
  · by_cases hfound : FindsEntry ω k (i + 1) s
    · have hcount := Nat.lt_of_succ_le hfound.2
      have hfree : ∀ t' ∈ s.locks i, t' = Thread.event := owned_of_free (hs.locks i)
      have hlookup := exec_getIfaceDataLocked hfound.1 (hs.index_lt hcount) hcount hfree
      rw [hs.locks i] at hlookup
      apply StartRuns.found i rfl hfound
      · rw [startFrom, if_neg hpair, Machine.gets_bind]
        rintro (hgets | ⟨r, s', t', hexec, hgets⟩)
        · have hread := hfound.1
          rw [gets_getIfaceDataLocked hgets] at hread
          cases hread
        · cases hlookup.symm.trans hexec
          apply Machine.not_gets_of_only (launchStep_startFound w v) Op.IsLaunchStep.ne_psmGet hgets
      · rw [startFrom, if_neg hpair, Machine.exec_bind, hlookup]
        rfl
    · apply StartRuns.unknown hpair hfound
      have hnone : ω k (.psmGet psmPppManagerPppIfCount) = false ∨ s.pppIfCount.toNat < i + 1 := by
        rw [FindsEntry, not_and_or, Bool.not_eq_true, Nat.not_le] at hfound
        apply hfound
      rw [startFrom, if_neg hpair, Machine.exec_bind, exec_getIfaceDataLocked_none hnone]
      rfl

/-- An event that starts no client copes with a failed lookup. -/
theorem copesWithNull_of_not_starts {ev : PppEventQData} (hstarts : ev.starts = none) :
  CopesWithNull b ω ev k s
  := by
  rw [CopesWithNull]
  cases hexec : (machine .event).exec ω (processPppEvent b ev) k s with
  | error e =>
      rintro rfl
      cases haction : ev.action with
      | execPppClient =>
          have hpos : ev.pppIfInstance ≤ 0 := by
            rw [PppEventQData.starts] at hstarts
            split_ifs at hstarts with h
            apply Int.not_lt.mp fun hpos => h ⟨hpos, haction⟩
          rw [processPppEvent, if_pos hpos] at hexec
          cases hexec
      | busSet =>
          apply Machine.exec_ne_error_of_only _ _ _ _ hexec
          · apply fun o => o ≠ .undefined .nullDereference
          · intro o x s' ho
            apply step_ne_undefined ho
          · apply only_processPppEvent_busSet _ _ _ _ _ haction
            all_goals
              intros
              rintro ⟨⟩
  | ok r =>
      obtain ⟨q, s', t'⟩ := r
      intro _
      have hends := Contract.wp_exec_ok (C := contract .event (fun _ _ => True) True)
        (fun _ _ _ => trivial) (wp_processPppEvent (fun _ _ h => h)) hexec
      cases hends with
      | invalid =>
          rw [List.drop_length]
          exact ⟨rfl, fun _ => List.not_mem_nil⟩
      | busSet r component bus name value =>
          rw [Sys.emit, List.drop_left]
          use rfl
          intro c hc
          cases List.mem_singleton.mp hc
      | exec r s' hpos haction =>
          rw [PppEventQData.starts, if_pos ⟨hpos, haction⟩] at hstarts
          cases hstarts

/-- An event that starts a client copes with a failed lookup exactly if the start does not look up
its entry, or finds it. -/
theorem copesWithNull_iff_of_starts (hs : AtRest s) {ev : PppEventQData}
    (hstarts : ev.starts = some n) :
  CopesWithNull b ω ev k s ↔ ∀ q w v k', (machine .event).exec ω
      (getWanIfaceInstance b n (-1, -1)) k s = .ok ((q, w, v), s, k') →
    w = -1 ∨ v = -1 ∨ FindsEntry ω k' n s
  := by
  have hn : ev.pppIfInstance.toNat = n ∧ 0 < n := by
    rw [PppEventQData.starts] at hstarts
    split_ifs at hstarts with h
    obtain rfl := Option.some.inj hstarts
    use rfl
    omega
  rw [CopesWithNull, processPppEvent_of_starts hstarts, startPppClient_eq, hn.1]
  cases hget : (machine .event).exec ω (getWanIfaceInstance b n (-1, -1)) k s with
  | error e =>
      rw [Machine.exec_bind, Machine.exec_bind, hget]
      apply iff_of_true
      · rintro rfl
        apply exec_ne_null (i := 0) (launchStep_getWanIfaceInstance _) hget
      · rintro _ _ _ _ ⟨⟩
  | ok r =>
      obtain ⟨⟨q, w, v⟩, s₁, k'⟩ := r
      obtain rfl := Contract.wp_exec_ok (C := contract .event (fun _ _ => True) True)
        (fun _ _ _ => trivial) (wp_of_queries (Q := fun _ s' => s' = s)
          (reads_getWanIfaceInstance b n (-1, -1)) (fun _ => rfl)) hget
      rw [Machine.exec_bind, Machine.exec_bind, hget]
      dsimp only [Except.bind]
      cases startRuns (b := b) (ω := ω) (k := k') hs hn.2 (q, w, v) with
      | noWanIface hpair hexec =>
          rw [hexec]
          apply iff_of_true
          · intro _
            use rfl
            intro c
            rw [List.drop_length]
            apply List.not_mem_nil
          · rintro _ _ _ _ ⟨⟩
            apply or_assoc.mp (.inl hpair)
      | unknown hpair hnone hexec =>
          rw [hexec]
          apply iff_of_false
          · intro h
            apply h rfl
          · intro h
            rcases or_assoc.mpr (h q w v k' rfl) with h | h
            · apply hpair h
            · apply hnone h
      | found i hi hfound hreads hexec =>
          rw [hexec]
          apply iff_of_true
          · cases hrest : (machine .event).exec ω (startFound b i w v) (k' + 2)
              (s₁.setLock i [.event]) with
            | error e =>
                rintro rfl
                apply exec_ne_null (launchStep_startFound w v) hrest
            | ok r =>
                rintro (hzero | hgets | hcount)
                · omega
                · rw [Machine.gets_bind_pure, Machine.gets_bind] at hgets
                  rcases hgets with hgets | ⟨a, s', t', hexec', hgets⟩
                  · apply absurd hgets
                    apply Machine.not_gets_of_only (launchStep_getWanIfaceInstance (i := i) _)
                      Op.IsLaunchStep.ne_psmGet
                  · cases hget.symm.trans hexec'
                    apply absurd hgets hreads
                · apply absurd hfound.2 (Nat.not_le.mpr hcount)
          · rintro _ _ _ _ ⟨⟩
            apply Or.inr (Or.inr hfound)

/-- In every state the manager reaches, the handling of an event copes with a failed lookup exactly
if the event starts no client, or the WAN manager has no interface for it, or the number of
interfaces that is read afterwards covers it. -/
theorem copesWithNull_iff {ls : List Access} {s₀ : Sys} (hs₀ : Initial s₀)
    (hrun : run (Access.next b) ls s₀ = some s) (ω : Answers) (ev : PppEventQData) (k : ℕ) :
  CopesWithNull b ω ev k s ↔ ∀ n, ev.starts = some n → ∀ q w v k', (machine .event).exec ω
      (getWanIfaceInstance b n (-1, -1)) k s = .ok ((q, w, v), s, k') →
    w = -1 ∨ v = -1 ∨ FindsEntry ω k' n s
  := by
  cases hstarts : ev.starts with
  | none =>
      apply iff_of_true (copesWithNull_of_not_starts hstarts)
      nofun
  | some n =>
      rw [copesWithNull_iff_of_starts (atRest_of_run hs₀ hrun) hstarts]
      constructor
      · rintro h _ ⟨⟩
        apply h
      · intro h
        apply h n rfl

end

/-! ### A count that cannot be read -/

/-- The answers to an event that starts the client of the interface 1, where the number of interfaces
cannot be read. -/
def unreadCount : Answers :=
  { workingOutside 1 none [] with
    psm := false
    bus := fun k => startReads 1 (k + 1) : Outside }.answers

/-- The start the data model has asked for dereferences a null pointer. -/
theorem unread_count_dereferences_null :
  ∃ s, run (Access.next (plainBuild false))
      [⟨.enable 1 true, (workingOutside 1 none []).answers⟩] (freshState 1) = some s ∧
    s.queue = [execEvent 1] ∧ ¬ CopesWithNull (plainBuild false) unreadCount (execEvent 1) 0 s
  := by
  have hrun : ((run (Access.next (plainBuild false))
      [⟨.enable 1 true, (workingOutside 1 none []).answers⟩] (freshState 1)).map fun s =>
        (s.queue, match (machine .event).exec unreadCount
            (processPppEvent (plainBuild false) (execEvent 1)) 0 s with
          | .error e => decide (e = .undefined .nullDereference)
          | .ok _ => false)) = some ([execEvent 1], true) := by
    decide +kernel
  obtain ⟨s, hs, hend⟩ := Option.map_eq_some_iff.mp hrun
  obtain ⟨hqueue, hnull⟩ := Prod.mk.inj hend
  refine ⟨s, hs, hqueue, ?_⟩
  rw [CopesWithNull]
  cases hexec : (machine .event).exec unreadCount
      (processPppEvent (plainBuild false) (execEvent 1)) 0 s with
  | error e =>
      rw [hexec] at hnull
      apply not_not.mpr (of_decide_eq_true hnull)
  | ok r =>
      rw [hexec] at hnull
      cases hnull

/-- In an initial state, with the number of interfaces read. -/
theorem copesWithNull_iff_fresh :
  CopesWithNull (plainBuild false) (workingOutside 1 none []).answers (execEvent 1) 0
      (freshState 1) ↔
    ∀ n, (execEvent 1).starts = some n → ∀ q w v k', (machine .event).exec
        (workingOutside 1 none []).answers (getWanIfaceInstance (plainBuild false) n (-1, -1)) 0
        (freshState 1) = .ok ((q, w, v), freshState 1, k') →
      w = -1 ∨ v = -1 ∨ FindsEntry (workingOutside 1 none []).answers k' n (freshState 1)
  := by
  have hrun : run (Access.next (plainBuild false)) [] (freshState 1) = some (freshState 1) := rfl
  apply copesWithNull_iff (initial_freshState (by decide +kernel)) hrun

end PppManager
