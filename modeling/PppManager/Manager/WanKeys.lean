import PppManager.Manager.Outside
import PppManager.Manager.Points

/-!
# The instances in the keys of the WAN manager

`PppMgr_StartPppClient` records the pair of instances of the WAN manager that
`PppMgr_GetWanIfaceInstance` returned to it, and `PppMgr_ProcessPppEvent` writes the recorded pair
into the key it sets.  Where every such event is handled after a successful start of its interface,
and the starts that find their client running are returned the pair that is recorded, each key names
the pair that was returned to the latest successful start (`keys_name_latest`).
-/

namespace PppManager

open Effect Function CText

/-! ### Runs -/

/-- A parameter that handling an event writes, with the pair that was returned to the latest
successful start of the instance of the event. -/
structure WanWrite where
  event : PppEventQData
  name : CStr
  latest : Option (ℤ × ℤ)

/-- The key that is written names the pair, and its numbers are positive. -/
def WanWrite.NamesLatest (x : WanWrite) : Prop :=
  ∃ pair, x.latest = some pair ∧ 1 ≤ pair.1 ∧ 1 ≤ pair.2 ∧ x.name = x.event.key pair

/-- The manager, with the pair returned to the latest successful start of each instance, and what the
handled events have written. -/
structure WanRun where
  sys : Sys
  latest : ℕ → Option (ℤ × ℤ)
  writes : List WanWrite

/-- A run that begins. -/
def WanRun.start (s : Sys) : WanRun :=
  ⟨s, fun _ => none, []⟩

/-- The pair `PppMgr_GetWanIfaceInstance` returns to a start of the instance `n` from a moment and a
state, where the start succeeds. -/
def returnedPair (b : Build) (ω : Answers) (n k : ℕ) (s : Sys) : Option (ℤ × ℤ) :=
  match (machine .event).exec ω (startPppClient b n) k s with
  | .ok (.success, _, _) =>
    match (machine .event).exec ω (getWanIfaceInstance b n (-1, -1)) k s with
    | .ok ((_, pair), _, _) => some pair
    | .error _ => none
  | _ => none

namespace EntryPoint

/-- The event an entry point handles. -/
def handled (s : Sys) : EntryPoint → Option PppEventQData
  | .event ev => some ev
  | .takeEvent => s.queue.head?
  | _ => none

end EntryPoint

/-- The instance an entry point starts with success, and the pair returned to the start. -/
def Access.succeeds (b : Build) (l : Access) (s : Sys) : Option (ℕ × ℤ × ℤ) :=
  (l.point.starts s).bind fun n =>
    (returnedPair b l.answers n l.point.moment (l.point.taken s)).map fun pair => (n, pair)

/-- The parameter an act writes. -/
def Act.busName? : Act → Option CStr
  | .busSet _ _ name _ => some name
  | _ => none

/-- The parameters that the acts a call has added write. -/
def namesSince (s s' : Sys) : List CStr :=
  (s'.acts.drop s.acts.length).filterMap Act.busName?

namespace WanRun

/-- What an entry point writes where it handles an event. -/
def written (l : Access) (w : WanRun) (s' : Sys) : List WanWrite :=
  match l.point.handled w.sys with
  | none => []
  | some ev => (namesSince w.sys s').map fun name => ⟨ev, name, w.latest ev.pppIfInstance.toNat⟩

/-- The pairs after an entry point is called. -/
def latestAfter (b : Build) (l : Access) (w : WanRun) : ℕ → Option (ℤ × ℤ) :=
  match l.succeeds b w.sys with
  | none => w.latest
  | some (n, pair) => update w.latest n (some pair)

/-- The run after an entry point is called. -/
def next (b : Build) (l : Access) (w : WanRun) : Option WanRun :=
  (l.next b w.sys).map fun s' => ⟨s', w.latestAfter b l, w.writes ++ w.written l s'⟩

end WanRun

/-- An event that sets a parameter is handled after a successful start of its interface, and the
number of interfaces can be read. -/
def WritesAfterStart (l : Access) (w : WanRun) : Prop :=
  ∀ ev ∈ l.point.handled w.sys, ev.action = .busSet → 0 < ev.pppIfInstance → ev.HasPaths →
    (w.latest ev.pppIfInstance.toNat).isSome = true ∧
      ∀ k, l.answers k (.psmGet psmPppManagerPppIfCount) = true

/-- A process listing shows the client of an entry. -/
def SeenRunning (ω : Answers) (e : DmlPppIfFull) : Prop :=
  e.info.pppPid ≠ 0 ∧ ∃ k, psLists e.info.pppPid (ω k (.popen psPppd)) = true

/-- A start that finds its client running is returned the pair that is recorded. -/
def ReturnsRecorded (b : Build) (l : Access) (w : WanRun) : Prop :=
  ∀ n pair, l.succeeds b w.sys = some (n, pair) →
    SeenRunning l.answers (w.sys.table (n - 1)) → (w.sys.table (n - 1)).wanPair = pair

/-! ### The pair -/

section

variable {t : Thread} {A : (o : Op) → o.Ans → Prop} {F : Prop} {s : Sys}

/-- The instances that are found are positive. -/
def WanSearch.Positive : WanSearch → Prop
  | .found i v => 1 ≤ i ∧ 1 ≤ v
  | _ => True

theorem wp_wanVirtIfaceLoop {path buf : CStr} {i v k : ℕ} {Q : WanSearch → Sys → Prop}
    (hi : 1 ≤ i) (hv : 1 ≤ v) (hQ : ∀ r : WanSearch, r.Positive → Q r s) :
  (contract t A F).wp (wanVirtIfaceLoop path i v k buf) Q s
  := by
  induction k generalizing v buf with
  | zero => apply hQ (.exhausted buf) trivial
  | succ k ih =>
      rw [wanVirtIfaceLoop, Contract.wp_bind]
      apply wp_dmlPppMgrGetParamValues
      · apply hQ .readFailed trivial
      · intro r _
        dsimp only
        split_ifs
        · apply hQ
          exact ⟨Int.ofNat_le.mpr hi, Int.ofNat_le.mpr hv⟩
        · apply ih (Nat.le_succ_of_le hv)

theorem wp_wanIfaceLoop {path buf : CStr} {i k : ℕ} {Q : WanSearch → Sys → Prop} (hi : 1 ≤ i)
    (hQ : ∀ r : WanSearch, r.Positive → Q r s) :
  (contract t A F).wp (wanIfaceLoop path i k buf) Q s
  := by
  induction k generalizing i buf with
  | zero => apply hQ (.exhausted buf) trivial
  | succ k ih =>
      rw [wanIfaceLoop, Contract.wp_bind]
      apply wp_dmlPppMgrGetParamValues
      · apply hQ .readFailed trivial
      · intro r _
        dsimp only
        rw [Contract.wp_bind]
        apply wp_wanVirtIfaceLoop hi (Nat.le_refl 1)
        intro result hresult
        cases result with
        | exhausted => apply ih (Nat.le_succ_of_le hi)
        | readFailed => apply hQ .readFailed trivial
        | found => apply hQ _ hresult

/-- `PppMgr_GetWanIfaceInstance` returns positive instances, or leaves the outputs at -1. -/
theorem wp_getWanIfaceInstance {b : Build} {n : ℕ} {Q : AnscStatus × ℤ × ℤ → Sys → Prop}
    (hQ : ∀ r : AnscStatus × ℤ × ℤ, (r.2.1 ≠ -1 → 1 ≤ r.2.1 ∧ 1 ≤ r.2.2) → Q r s) :
  (contract t A F).wp (getWanIfaceInstance b n (-1, -1)) Q s
  := by
  have hfailed : ∀ q, Q (q, -1, -1) s := by
    intro q
    apply hQ
    intro h
    apply absurd rfl h
  rw [getWanIfaceInstance]
  split_ifs
  · apply hfailed
  · rw [Contract.wp_bind]
    apply wp_dmlPppMgrGetParamValues
    · apply hfailed
    · intro r _
      dsimp only
      split_ifs
      · apply hfailed
      · rw [Contract.wp_bind]
        apply wp_wanIfaceLoop (Nat.le_refl 1)
        intro result hresult
        cases result with
        | exhausted => apply hfailed
        | readFailed => apply hfailed
        | found i v =>
            apply hQ
            intro _
            apply hresult

end

/-! ### Starts and events -/

section

variable {b : Build} {ω : Answers} {n k k' : ℕ} {s s' : Sys}

/-- What the outside answers at some moment. -/
def Given (ω : Answers) : (o : Op) → o.Ans → Prop :=
  fun o x => ∃ k, ω k o = x

/-- A start consists of `PppMgr_GetWanIfaceInstance` and what is done with the pair it returns. -/
theorem exec_startPppClient {q : AnscStatus}
    (h : (machine .event).exec ω (startPppClient b n) k s = .ok (q, s', k')) :
  ∃ q₀ pair k₁, (machine .event).exec ω (getWanIfaceInstance b n (-1, -1)) k s =
      .ok ((q₀, pair), s, k₁) ∧ (pair.1 ≠ -1 → 1 ≤ pair.1 ∧ 1 ≤ pair.2) ∧
    Recorded (Given ω) s n pair.1 pair.2 q s'
  := by
  have hresp : (contract .event (Given ω) True).Respects ω := fun k o _ => ⟨k, rfl⟩
  rw [startPppClient_eq, Machine.exec_bind] at h
  cases hget : (machine .event).exec ω (getWanIfaceInstance b n (-1, -1)) k s with
  | error e =>
      rw [hget] at h
      cases h
  | ok r =>
      obtain ⟨⟨q₀, pair⟩, s₁, k₁⟩ := r
      rw [hget] at h
      have hpair := Contract.wp_exec_ok hresp (wp_getWanIfaceInstance (Q := fun r s' =>
        r.2.1 ≠ -1 → 1 ≤ r.2.1 ∧ 1 ≤ r.2.2) (fun r hr => hr)) hget
      have hs₁ := Contract.wp_exec_ok hresp (wp_of_queries (Q := fun _ s' => s' = s)
        (reads_getWanIfaceInstance b n (-1, -1)) (fun _ => rfl)) hget
      obtain rfl := hs₁
      refine ⟨q₀, pair, k₁, rfl, hpair, ?_⟩
      apply Contract.wp_exec_ok hresp (wp_startFrom (fun r s' _ hrecorded => hrecorded)) h

theorem exec_event_starts {ev : PppEventQData} (hstarts : ev.starts = some n) {u : Unit}
    (h : (machine .event).exec ω ((fun _ => ()) <$> processPppEvent b ev) k s = .ok (u, s', k')) :
  ∃ q k'', (machine .event).exec ω (startPppClient b n) k s = .ok (q, s', k'')
  := by
  rw [processPppEvent_of_starts hstarts, map_eq_pure_bind, LawfulMonad.bind_assoc,
    Machine.exec_bind] at h
  cases hstart : (machine .event).exec ω (startPppClient b n) k s with
  | error e =>
      rw [hstart] at h
      cases h
  | ok r =>
      obtain ⟨q, s₁, k₁⟩ := r
      rw [hstart] at h
      obtain ⟨rfl, -⟩ := Prod.mk.inj (Prod.mk.inj (Except.ok.inj h)).2
      use q, k₁

/-- An entry point that starts a client runs the start. -/
theorem Access.exec_starts {l : Access} (hstarts : l.point.starts s = some n)
    (hnext : l.next b s = some s') :
  ∃ q k', (machine .event).exec l.answers (startPppClient b n) l.point.moment (l.point.taken s) =
    .ok (q, s', k')
  := by
  obtain ⟨p, ω⟩ := l
  rw [Access.next] at hnext
  cases hexec : (machine p.thread).exec ω (p.code b) 0 s with
  | error e =>
      rw [hexec] at hnext
      cases hnext
  | ok r =>
      obtain ⟨u, s₁, k₁⟩ := r
      rw [hexec] at hnext
      obtain rfl := Option.some.inj hnext
      cases p with
      | start m =>
          obtain rfl := Option.some.inj hstarts
          rw [EntryPoint.code, map_eq_pure_bind, Machine.exec_bind] at hexec
          cases hstart : (machine .event).exec ω (startPppClient b m) 0 s with
          | error e =>
              rw [EntryPoint.thread, hstart] at hexec
              cases hexec
          | ok r =>
              obtain ⟨q, s₂, k₂⟩ := r
              rw [EntryPoint.thread, hstart] at hexec
              obtain ⟨rfl, -⟩ := Prod.mk.inj (Prod.mk.inj (Except.ok.inj hexec)).2
              exact ⟨q, k₂, hstart⟩
      | event ev => apply exec_event_starts hstarts hexec
      | takeEvent =>
          rw [EntryPoint.code, handleQueue_eq] at hexec
          obtain ⟨ev, hhead, hev⟩ := Option.bind_eq_some_iff.mp hstarts
          obtain ⟨table, locks, queue, psm, acts⟩ := s
          cases queue with
          | nil => cases hhead
          | cons ev' evs =>
              obtain rfl := Option.some.inj hhead
              apply exec_event_starts hev hexec
      | _ => cases hstarts

theorem namesSince_eq {acts : List Act} (h : s'.acts = s.acts ++ acts) :
  namesSince s s' = acts.filterMap Act.busName?
  := by
  rw [namesSince, h, List.drop_left]

theorem namesSince_systems {cs : List CStr} (h : s'.acts = s.acts ++ cs.map .system) :
  namesSince s s' = []
  := by
  rw [namesSince_eq h, List.filterMap_map]
  apply List.filterMap_eq_nil_iff.mpr
  intro c _
  rfl

/-- Handling an event writes at most the key with the pair of the entry. -/
theorem EventEnds.names {A : (o : Op) → o.Ans → Prop} {ev : PppEventQData} {q : AnscStatus}
    (h : EventEnds A b s ev q s') {name : CStr} (hname : name ∈ namesSince s s') :
  ev.action = .busSet ∧ 0 < ev.pppIfInstance ∧ ev.HasPaths ∧
    ∃ pair, WritesPair A s ev.pppIfInstance.toNat pair ∧ name = ev.key pair
  := by
  have hnone : ∀ {cs : List CStr}, s'.acts = s.acts ++ cs.map .system → False := by
    intro cs hacts
    rw [namesSince_systems hacts] at hname
    cases hname
  have hkept : s'.acts = s.acts → False := by
    intro hacts
    have hnil : s'.acts = s.acts ++ List.map Act.system [] := by
      rw [hacts, List.map_nil, List.append_nil]
    apply hnone hnil
  cases h with
  | invalid => apply (hkept rfl).elim
  | busSet r component bus name' value haction hpos hpaths pair hpair hkey =>
      have hacts : namesSince s (s.emit (.busSet component bus name' value)) = [name'] := by
        rw [namesSince, Sys.emit, List.drop_left]
        rfl
      rw [hacts] at hname
      obtain rfl := List.mem_singleton.mp hname
      exact ⟨haction, hpos, hpaths, pair, hpair, hkey⟩
  | exec q s' hpos haction h =>
      cases h with
      | launched => apply (hnone rfl).elim
      | _ => apply (hkept rfl).elim

/-- An entry point that handles an event does what handling it does. -/
theorem PointEnds.handled {A : (o : Op) → o.Ans → Prop} {p : EntryPoint} {ev : PppEventQData}
    (h : PointEnds A b s p s') (hev : p.handled s = some ev) :
  ∃ q, EventEnds A b (p.taken s) ev q s'
  := by
  cases h with
  | quiet p hp =>
      cases p with
      | takeEvent =>
          rw [EntryPoint.isQuiet, List.isEmpty_iff] at hp
          rw [EntryPoint.handled, hp] at hev
          cases hev
      | event => cases hp
      | _ => cases hev
  | takeEvent hqueue h =>
      rw [EntryPoint.handled, hqueue] at hev
      obtain rfl := Option.some.inj hev
      rw [EntryPoint.taken, hqueue]
      exact ⟨_, h⟩
  | event h =>
      obtain rfl := Option.some.inj hev
      exact ⟨_, h⟩
  | _ => cases hev

end

/-! ### The recorded pairs -/

/-- The pair returned to the latest successful start of an instance is recorded in its entry, and all
keys that have been written name it. -/
structure PairsRecorded (w : WanRun) : Prop where
  latest : ∀ n pair, w.latest n = some pair → ∃ i, n = i + 1 ∧ n ≤ w.sys.pppIfCount.toNat ∧
    (w.sys.table i).wanPair = pair ∧ 1 ≤ pair.1 ∧ 1 ≤ pair.2
  writes : ∀ x ∈ w.writes, x.NamesLatest

section

variable {b : Build} {l : Access} {w w' : WanRun} {s' : Sys}

/-- A change that attempts no start keeps the pair. -/
theorem EntryChange.wanPair {S : Prop} {M : IpcPppEventMsg → Prop} (hS : ¬ S) {i : ℕ}
    {e e' : DmlPppIfFull} (h : EntryChange b S M i e e') :
  e'.wanPair = e.wanPair
  := by
  cases h with
  | data e' h => exact congrArg (fun v => v.2.1) h.vital
  | numbered => rfl
  | enabled => rfl
  | addressed => rfl
  | identified => rfl
  | stopped => apply stoppedEntry_wanPair
  | restarted => apply stoppedEntry_wanPair
  | switched msg uptime id => apply switchEntry_wanPair
  | attempted hstart => apply absurd hstart hS
  | launched hstart => apply absurd hstart hS

theorem EntryPoint.taken_table (p : EntryPoint) (s : Sys) :
  (p.taken s).table = s.table
  := by
  cases p <;> rfl

theorem EntryPoint.taken_pppIfCount (p : EntryPoint) (s : Sys) :
  (p.taken s).pppIfCount = s.pppIfCount
  := by
  cases p <;> rfl

theorem EntryPoint.taken_acts (p : EntryPoint) (s : Sys) :
  (p.taken s).acts = s.acts
  := by
  cases p <;> rfl

/-- The keys that handling an event writes name the pair. -/
theorem PairsRecorded.written (h : PairsRecorded w) (hl : WritesAfterStart l w)
    (hends : PointEnds (Given l.answers) b w.sys l.point s') :
  ∀ x ∈ w.written l s', x.NamesLatest
  := by
  intro x hx
  rw [WanRun.written] at hx
  cases hhandled : l.point.handled w.sys with
  | none =>
      rw [hhandled] at hx
      cases hx
  | some ev =>
      rw [hhandled] at hx
      obtain ⟨name, hname, rfl⟩ := List.mem_map.mp hx
      obtain ⟨q, hevent⟩ := hends.handled hhandled
      have hnames : namesSince (l.point.taken w.sys) s' = namesSince w.sys s' := by
        rw [namesSince, namesSince, l.point.taken_acts]
      rw [← hnames] at hname
      obtain ⟨haction, hpos, hpaths, pair, hpair, rfl⟩ := hevent.names hname
      obtain ⟨hstarted, hread⟩ := hl ev hhandled haction hpos hpaths
      obtain ⟨latest, hlatest⟩ := Option.isSome_iff_exists.mp hstarted
      obtain ⟨i, hn, hcount, htable, hw, hv⟩ := h.latest _ _ hlatest
      refine ⟨latest, hlatest, hw, hv, ?_⟩
      cases hpair with
      | noEntry hnone =>
          rcases hnone with h0 | hunread | hlt
          · omega
          · obtain ⟨k, hk⟩ := hunread
            rw [hread k] at hk
            cases hk
          · rw [l.point.taken_pppIfCount] at hlt
            omega
      | entry j hj =>
          obtain rfl := Nat.succ_inj.mp (hn.symm.trans hj)
          rw [l.point.taken_table, htable]

/-- What an entry point does to the pairs that are recorded and to those that are known. -/
inductive PairStep (b : Build) (l : Access) (w : WanRun) (s' : Sys) : Prop
  | kept (hlatest : w.latestAfter b l = w.latest)
      (hkept : ∀ i, (s'.table i).wanPair = (w.sys.table i).wanPair)
  | started (i : ℕ) (pair : ℤ × ℤ) (hcount : i + 1 ≤ w.sys.pppIfCount.toNat)
      (hlatest : w.latestAfter b l = update w.latest (i + 1) (some pair))
      (hpositive : 1 ≤ pair.1 ∧ 1 ≤ pair.2) (hpair : (s'.table i).wanPair = pair)
      (hkept : ∀ j, j ≠ i → (s'.table j).wanPair = (w.sys.table j).wanPair)

/-- A start whose run is known. -/
theorem pairStep_of_start {n : ℕ} {q : AnscStatus} {k' : ℕ} (hreturns : ReturnsRecorded b l w)
    (hstarts : l.point.starts w.sys = some n)
    (hexec : (machine .event).exec l.answers (startPppClient b n) l.point.moment
      (l.point.taken w.sys) = .ok (q, s', k')) :
  PairStep b l w s'
  := by
  obtain ⟨q₀, pair, k₁, hget, hpositive, hrecorded⟩ := exec_startPppClient hexec
  cases q with
  | failure =>
      cases hrecorded with
      | failed hkept =>
          have hnone : l.succeeds b w.sys = none := by
            rw [Access.succeeds, hstarts, Option.bind_some, returnedPair, hexec]
            rfl
          apply PairStep.kept
          · rw [WanRun.latestAfter, hnone]
          · rw [l.point.taken_table] at hkept
            apply hkept
  | success =>
      have hsome : l.succeeds b w.sys = some (n, pair) := by
        rw [Access.succeeds, hstarts, Option.bind_some, returnedPair, hexec, hget]
        rfl
      have hlatest : w.latestAfter b l = update w.latest n (some pair) := by
        rw [WanRun.latestAfter, hsome]
      cases hrecorded with
      | running i r hn hcount hw hpid hr hps =>
          obtain rfl := hn
          rw [l.point.taken_table] at hpid hps
          rw [l.point.taken_pppIfCount] at hcount
          obtain ⟨k, rfl⟩ := hr
          have hpair := hreturns _ pair hsome ⟨hpid, k, hps⟩
          apply PairStep.started i pair hcount hlatest (hpositive hw)
          · rw [l.point.taken_table]
            apply hpair
          · intro j _
            rw [l.point.taken_table]
      | recorded i hn hcount hw hpair hkept =>
          obtain rfl := hn
          rw [l.point.taken_table] at hkept
          rw [l.point.taken_pppIfCount] at hcount
          apply PairStep.started i pair hcount hlatest (hpositive hw) hpair hkept

theorem pairStep (hreturns : ReturnsRecorded b l w) (hs' : l.next b w.sys = some s')
    (hends : PointEnds (Given l.answers) b w.sys l.point s') :
  PairStep b l w s'
  := by
  cases hstarts : l.point.starts w.sys with
  | none =>
      apply PairStep.kept
      · rw [WanRun.latestAfter, Access.succeeds, hstarts]
        rfl
      · intro i
        apply (hends.entryChange i).wanPair
        rw [hstarts]
        apply not_not.mpr rfl
  | some n =>
      obtain ⟨q, k', hexec⟩ := l.exec_starts hstarts hs'
      apply pairStep_of_start hreturns hstarts hexec

/-- An entry point that meets the conditions keeps the pairs recorded. -/
theorem PairsRecorded.next (h : PairsRecorded w) (hwrites : WritesAfterStart l w)
    (hreturns : ReturnsRecorded b l w) (hnext : WanRun.next b l w = some w') :
  PairsRecorded w'
  := by
  obtain ⟨s', hs', rfl⟩ := Option.map_eq_some_iff.mp hnext
  have hends := l.ends (A := Given l.answers) (fun k o _ => ⟨k, rfl⟩) hs'
  constructor
  · intro n pair hpair
    rw [hends.pppIfCount]
    cases pairStep hreturns hs' hends with
    | kept hlatest hkept =>
        rw [hlatest] at hpair
        obtain ⟨i, hn, hcount, htable, hpositive⟩ := h.latest n pair hpair
        refine ⟨i, hn, hcount, ?_, hpositive⟩
        rw [hkept, htable]
    | started i pair' hcount hlatest hpositive htable hkept =>
        rw [hlatest] at hpair
        dsimp only at hpair
        by_cases hn : n = i + 1
        · obtain rfl := hn
          rw [update_self] at hpair
          obtain rfl := Option.some.inj hpair
          exact ⟨i, rfl, hcount, htable, hpositive⟩
        · rw [update_of_ne hn] at hpair
          obtain ⟨j, rfl, hcount, htable, hpositive⟩ := h.latest n pair hpair
          refine ⟨j, rfl, hcount, ?_, hpositive⟩
          rw [hkept, htable]
          rintro rfl
          apply hn rfl
  · intro x hx
    rcases List.mem_append.mp hx with hx | hx
    · apply h.writes x hx
    · apply h.written hwrites hends x hx

/-- In a run in which every event that sets a parameter is handled after a successful start of its
interface with the number of interfaces readable, and every start that finds its client running is
returned the recorded pair, each key that is written names the pair that was returned to the latest
successful start. -/
theorem keys_name_latest {s : Sys} {ls : List Access}
    (hwrites : Throughout (WanRun.next b) WritesAfterStart ls (.start s))
    (hreturns : Throughout (WanRun.next b) (ReturnsRecorded b) ls (.start s))
    (hrun : run (WanRun.next b) ls (.start s) = some w') :
  ∀ x ∈ w'.writes, x.NamesLatest
  := by
  have hstart : PairsRecorded (.start s) := ⟨nofun, nofun⟩
  have hend : PairsRecorded w' := by
    apply run_invariant _ hstart (throughout_and hwrites hreturns) hrun
    intro l w₁ w₂ h hl hnext
    apply h.next hl.1 hl.2 hnext
  apply hend.writes

end

/-! ### A stop without a start -/

/-- A stop of the interface 1. -/
def stopFirst : Access :=
  ⟨.stop 1, (workingOutside 1 none []).answers⟩

/-- The event thread takes an event. -/
def takeNext : Access :=
  ⟨.takeEvent, (workingOutside 1 none []).answers⟩

/-- A stop of an interface that was never started lets a key with the instances 0 be written. -/
theorem stop_writes_zeros :
  ¬ ∀ (b : Build) (s : Sys) (ls : List Access) (w' : WanRun),
    run (WanRun.next b) ls (.start s) = some w' → ∀ x ∈ w'.writes, x.NamesLatest
  := by
  intro h
  have hend : (run (WanRun.next (plainBuild false)) [stopFirst, takeNext]
      (.start (freshState 1))).map (fun w => w.writes.map fun x => (x.name, x.latest)) =
        some [("Device.X_RDK_WanManager.Interface.0.VirtualInterface.0.PPP.Status".toList,
          none)] := by
    decide +kernel
  obtain ⟨w', hrun, hw'⟩ := Option.map_eq_some_iff.mp hend
  obtain ⟨x, hx, hname⟩ : ∃ x ∈ w'.writes, (x.name, x.latest) = (_, none) := by
    apply List.mem_map.mp
    rw [hw']
    apply List.mem_singleton_self
  obtain ⟨pair, hlatest, -⟩ := h _ _ _ w' hrun x hx
  rw [(Prod.mk.inj hname).2] at hlatest
  cases hlatest

/-- A start of the interface 1, which finds its client as the process 7. -/
def startFirst : Access :=
  ⟨.start 1, { workingOutside 1 none [pppdProcess 7] with bus := fun k => startReads 1 (k + 1) }.answers⟩

/-- What has to be tested of an entry point that handles an event. -/
def startedTest (l : Access) (w : WanRun) : Bool :=
  match l.point.handled w.sys with
  | some ev => (w.latest ev.pppIfInstance.toNat).isSome
  | none => true

theorem writesAfterStart_of_test {l : Access} {w : WanRun} (h : startedTest l w = true)
    (hread : ∀ k, l.answers k (.psmGet psmPppManagerPppIfCount) = true) :
  WritesAfterStart l w
  := by
  intro ev hev _ _ _
  rw [startedTest, hev] at h
  exact ⟨h, hread⟩

theorem keys_name_latest_stopped :
  ∃ w', run (WanRun.next (plainBuild false)) [startFirst, stopFirst, takeNext]
      (.start (freshState 1)) = some w' ∧
    w'.writes.map WanWrite.latest = [some (1, 1)] ∧ ∀ x ∈ w'.writes, x.NamesLatest
  := by
  have htest : check (WanRun.next (plainBuild false)) startedTest [startFirst, stopFirst, takeNext]
      (.start (freshState 1)) = true := by
    decide +kernel
  have hend : (run (WanRun.next (plainBuild false)) [startFirst, stopFirst, takeNext]
      (.start (freshState 1))).map (fun w => w.writes.map WanWrite.latest) =
        some [some (1, 1)] := by
    decide +kernel
  obtain ⟨w', hrun, hw'⟩ := Option.map_eq_some_iff.mp hend
  use w', hrun, hw'
  apply keys_name_latest _ _ hrun
  · apply throughout_of_check _ htest
    intro l hl w h
    apply writesAfterStart_of_test h
    simp only [List.mem_cons, List.not_mem_nil, or_false] at hl
    rcases hl with rfl | rfl | rfl <;> apply fun k => rfl
  · apply throughout_of_forall
    intro l hl w n pair _ hseen
    obtain ⟨k, hk⟩ := hseen.2
    simp only [List.mem_cons, List.not_mem_nil, or_false] at hl
    rcases hl with rfl | rfl | rfl <;> cases hk

end PppManager
