import PppManager.Manager.Outside
import PppManager.Manager.Sends

/-!
# Killed processes

In the build with `USE_PPP_DAEMON`, a stop kills the process whose pid the entry holds.  A `Ledger`
follows, beside the state of the manager, the pids that starts have recorded for each interface
since its previous stop, and the pids that were killed.

As long as an interface is stopped only when the last start since its previous stop recorded a pid
other than 0, every killed pid is one that was recorded for the interface (`killed_recorded`).
-/

namespace PppManager

open Effect CText

/-- The pids a list of acts kills. -/
def killed (acts : List Act) : List ℤ :=
  acts.filterMap (fun a => match a with | .kill pid => some pid | _ => none)

/-- The state of the manager; for each instance, the pids that starts have recorded since its
previous stop, the last one first; and every pid that was killed, with the pids that were recorded
for its interface then. -/
structure Ledger where
  sys : Sys
  recorded : ℕ → List ℤ
  kills : List (ℤ × List ℤ)

namespace Ledger

/-- The ledger before anything has happened. -/
def start (s : Sys) : Ledger where
  sys := s
  recorded := fun _ => []
  kills := []

/-- The instance whose client a call starts. -/
def startedBy (s : Sys) : Call → Option ℕ
  | .event =>
    match s.queue with
    | ev :: _ =>
      if 0 < ev.pppIfInstance ∧ ev.action = .execPppClient then some ev.pppIfInstance.toNat else none
    | [] => none
  | .start n => some n
  | _ => none

/-- The instance whose client a call stops. -/
def stoppedBy (s : Sys) : Call → Option ℕ
  | .enable i false => some (i + 1)
  | .reset i bValue => if (s.table i).cfg.bEnabled && bValue then some (i + 1) else none
  | .stop n => some n
  | _ => none

/-- The pids recorded for the instance `n` after a call that left the state `s`: a start records
the pid it leaves in the entry, if it does anything, and a stop that kills a process begins anew. -/
def recordedAfter (w : Ledger) (call : Call) (s : Sys) (n : ℕ) : List ℤ :=
  let acts := s.acts.drop w.sys.acts.length
  let pid := (s.table (n - 1)).info.pppPid
  if startedBy w.sys call = some n ∧ (acts ≠ [] ∨ pid ≠ (w.sys.table (n - 1)).info.pppPid) then
    pid :: w.recorded n
  else if stoppedBy w.sys call = some n ∧ killed acts ≠ [] then []
  else w.recorded n

/-- The ledger after a call that left the state `s`. -/
def after (w : Ledger) (call : Call) (s : Sys) : Ledger where
  sys := s
  recorded := w.recordedAfter call s
  kills :=
    w.kills ++ (killed (s.acts.drop w.sys.acts.length)).map
      (fun pid => (pid, ((stoppedBy w.sys call).map w.recorded).getD []))

/-- A turn of the manager. -/
def step (b : Build) (l : Turn) (w : Ledger) : Option Ledger :=
  (l.next b w.sys).map (w.after l.call)

end Ledger

/-- Every pid that was killed is positive, and was recorded for the interface since its previous
stop. -/
def KillsRecorded (w : Ledger) : Prop :=
  ∀ k ∈ w.kills, 0 < k.1 ∧ k.1 ∈ k.2

/-- The directories of `/proc` whose names are numbers are those of processes, and their names are
pids. -/
def ProcPids : (o : Op) → o.Ans → Prop
  | .readProc, some dents => ∀ d ∈ dents, ∀ pid, strtol64 d.dName = some pid → 0 < pid ∧ pid < 2 ^ 31
  | _, _ => True

/-- A turn of the run: the setters are called with handles of entries the PSM count covers, and
`/proc` lists processes by their pids. -/
def ProcTurn (l : Turn) (w : Ledger) : Prop :=
  l.call.Handles w.sys ∧ l.Allowed ProcPids

/-- The turn stops no interface but one whose last start since its previous stop recorded a pid
other than 0. -/
def StopsRecorded (l : Turn) (w : Ledger) : Prop :=
  ∀ n, Ledger.stoppedBy w.sys l.call = some n → ∃ pid ∈ (w.recorded n).head?, pid ≠ 0

/-! ### Lookups -/

theorem checkProcEntries_nonneg {name : CStr} {dents : List ProcDirent} {status : Char}
    (h : ∀ d ∈ dents, ∀ pid, strtol64 d.dName = some pid → 0 < pid ∧ pid < 2 ^ 31) :
  0 ≤ checkProcEntries name none status dents
  := by
  induction dents generalizing status with
  | nil => apply Int.le_refl
  | cons dent dents ih =>
      have hrest := fun d hd => h d (List.mem_cons_of_mem _ hd)
      rw [checkProcEntries]
      split
      · rename_i pid text hpid htext
        dsimp only
        split_ifs
        · split_ifs at hpid with hdir
          obtain ⟨h0, hlt⟩ := h dent List.mem_cons_self pid hpid
          rw [toInt_of_lt (by omega) hlt]
          apply Int.le_of_lt h0
        · apply ih hrest
      · apply ih hrest

theorem lookupPppd_nonneg {r : Option (List ProcDirent)} (h : ProcPids .readProc r) :
  0 ≤ lookupPppd r
  := by
  cases r with
  | none => apply Int.le_refl
  | some dents => apply checkProcEntries_nonneg h

/-! ### What a call does to the pids -/

/-- What a call that may start the instance `start` and stop the instance `stop` does to the pids of
the entries, and what it kills. -/
inductive PidStep (s : Sys) (start stop : Option ℕ) (s' : Sys) : Prop
  | kept (hpid : ∀ i, (s'.table i).info.pppPid = (s.table i).info.pppPid)
      (hkilled : killed (s'.acts.drop s.acts.length) = [])
      (hacts : start ≠ none → s'.acts.drop s.acts.length = [])
  | stopped (i : ℕ) (hstop : stop = some (i + 1)) (hstart : start = none)
      (hkilled : killed (s'.acts.drop s.acts.length) = [(s.table i).info.pppPid])
      (hpid : (s'.table i).info.pppPid = 0)
      (hother : ∀ j, j ≠ i → (s'.table j).info.pppPid = (s.table j).info.pppPid)
  | started (i : ℕ) (hstart : start = some (i + 1))
      (hkilled : killed (s'.acts.drop s.acts.length) = [])
      (hrecorded : s'.acts.drop s.acts.length ≠ [] ∨
        (s'.table i).info.pppPid ≠ (s.table i).info.pppPid)
      (hpid : 0 ≤ (s'.table i).info.pppPid)
      (hother : ∀ j, j ≠ i → (s'.table j).info.pppPid = (s.table j).info.pppPid)

@[simp]
theorem killed_nil :
  killed [] = []
  := rfl

@[simp]
theorem killed_kill (pid : ℤ) (acts : List Act) :
  killed (.kill pid :: acts) = pid :: killed acts
  := rfl

theorem killed_of_forall {acts : List Act} (h : ∀ a ∈ acts, ∀ pid, a ≠ .kill pid) :
  killed acts = []
  := by
  apply List.filterMap_eq_nil_iff.mpr
  intro a ha
  cases a with
  | kill pid => apply absurd rfl (h _ ha pid)
  | _ => rfl

@[simp]
theorem killed_append (acts acts' : List Act) :
  killed (acts ++ acts') = killed acts ++ killed acts'
  := List.filterMap_append

@[simp]
theorem killed_system (cs : List CStr) :
  killed (cs.map .system) = []
  := by
  induction cs with
  | nil => rfl
  | cons c cs ih => apply ih

section

variable {A : (o : Op) → o.Ans → Prop} {b : Build} {s s' : Sys} {call : Call} {r : Bool}
  {start stop : Option ℕ}

/-- Sending an event kills nothing. -/
@[simp]
theorem killed_sent (q : Bool) (ev : PppEventQData) :
  killed (if q then [Act.post ev] else []) = []
  := by
  cases q <;> rfl

/-- A call that leaves the state as it is. -/
theorem pidStep_self :
  PidStep s start stop s
  := by
  apply PidStep.kept
  · intro i
    rfl
  · rw [List.drop_length, killed_nil]
  · intro _
    apply List.drop_length

theorem PidStep.of_queue {queue : List PppEventQData}
    (h : PidStep { s with queue := queue } start stop s') :
  PidStep s start stop s'
  := by
  cases h with
  | kept hpid hkilled hacts => exact .kept hpid hkilled hacts
  | stopped i hstop hstart hkilled hpid hother =>
      exact .stopped i hstop hstart hkilled hpid hother
  | started i hstart hkilled hrecorded hpid hother =>
      exact .started i hstart hkilled hrecorded hpid hother

/-- A stop in the build with `USE_PPP_DAEMON`, and what is sent after it. -/
theorem pidStep_stopped (hb : b.usePppDaemon = true) {i n : ℕ} {r₁ r₂ r₃ : Bool}
    (hstop : stop = some (i + 1)) (hstart : start = none)
    (hext : (stoppedState b i n r₁ r₂ r₃ s).Extends (fun a => ∀ pid, a ≠ .kill pid) s')
    (hpid : ∀ j, (s'.table j).info.pppPid =
      ((stoppedState b i n r₁ r₂ r₃ s).table j).info.pppPid) :
  PidStep s start stop s'
  := by
  obtain ⟨acts, hacts, hkill⟩ := hext
  apply PidStep.stopped i hstop hstart
  · rw [hacts]
    simp [stoppedState, stopAct, hb, killed_of_forall hkill]
  · rw [hpid]
    simp [stoppedState, stoppedEntry, hb]
    rfl
  · intro j hj
    rw [hpid]
    simp [stoppedState, hj]

/-- A start. -/
theorem StartEnds.pidStep {n : ℕ} {q : AnscStatus} (hA : ∀ x, A .readProc x → 0 ≤ lookupPppd x)
    (hstart : start = some n) (h : StartEnds A b s n q s') :
  PidStep s start stop s'
  := by
  cases h with
  | noWanIface => apply pidStep_self
  | alreadyRunning => apply pidStep_self
  | rejected i e hn hi hstopped he =>
      obtain rfl := hn
      obtain ⟨u, p, -, rfl⟩ := he
      by_cases hpid : (s.table i).info.pppPid = 0
      · apply PidStep.kept
        · intro j
          by_cases hj : j = i
          · obtain rfl := hj
            rw [Sys.setEntry_table, Function.update_self, hpid]
            rfl
          · rw [Sys.setEntry_table, Function.update_of_ne hj]
        · rw [Sys.setEntry_acts, List.drop_length, killed_nil]
        · intro _
          rw [Sys.setEntry_acts, List.drop_length]
      · apply PidStep.started i hstart
        · rw [Sys.setEntry_acts, List.drop_length, killed_nil]
        · right
          rw [Sys.setEntry_table, Function.update_self]
          apply Ne.symm hpid
        · rw [Sys.setEntry_table, Function.update_self]
          apply Int.le_refl
        · intro j hj
          rw [Sys.setEntry_table, Function.update_of_ne hj]
  | launched i e cs command x w v hn hi hstopped he hparams hcommand hx =>
      obtain rfl := hn
      apply PidStep.started i hstart
      · rw [Sys.systems_acts, Sys.setEntry_acts, List.drop_left, killed_system]
      · left
        simp
      · rw [Sys.systems_table, Sys.setEntry_table, Function.update_self]
        apply hA x hx
      · intro j hj
        rw [Sys.systems_table, Sys.setEntry_table, Function.update_of_ne hj]

/-- A call that changes no pid, kills nothing and starts nothing. -/
theorem pidStep_of_extends (h : s.Extends (fun a => ∀ pid, a ≠ .kill pid) s')
    (hstart : start = none)
    (hpid : ∀ i, (s'.table i).info.pppPid = (s.table i).info.pppPid) :
  PidStep s start stop s'
  := by
  obtain ⟨acts, hacts, hkill⟩ := h
  apply PidStep.kept hpid
  · rw [hacts, List.drop_left, killed_of_forall hkill]
  · intro h
    apply absurd hstart h

/-- A state message kills nothing. -/
theorem PppStateEnds.kills {m : IpcMsgPayload} {q : AnscStatus} (h : PppStateEnds A b s m q s') :
  s.Extends (fun a => ∀ pid, a ≠ .kill pid) s'
  := by
  apply h.extends
  · rintro a ha pid rfl
    cases ha
  · nofun

/-- A call that neither stops nor starts a client changes no pid. -/
theorem EntryStep.pppPid {c i : ℕ} {e e' : DmlPppIfFull}
    (hcall : (∃ m, call = .message m) ∨ ∃ i, call = .enable i true) (h : EntryStep b c i e call e') :
  e'.info.pppPid = e.info.pppPid
  := by
  have hstarts : call.starts = false := by
    rcases hcall with ⟨m, rfl⟩ | ⟨i, rfl⟩ <;> rfl
  cases h with
  | kept | enabled | addressed | identified => rfl
  | switched => apply switchEntry_pppPid
  | attempted _ _ h => rw [hstarts] at h; cases h
  | launched _ _ _ _ _ h => rw [hstarts] at h; cases h
  | disabled | resetStopped | restarted | stopped =>
      rcases hcall with ⟨m, hm⟩ | ⟨i, hi⟩
      · cases hm
      · cases hi

/-- Every call does one of the things listed to the pids. -/
theorem CallEnds.pidStep (hb : b.usePppDaemon = true)
    (hA : ∀ x, A .readProc x → 0 ≤ lookupPppd x) (hs : Numbered s) (hcall : call.Handles s)
    (h : CallEnds A b s call r s') :
  PidStep s (Ledger.startedBy s call) (Ledger.stoppedBy s call) s'
  := by
  have hentry := h.entryStep hs hcall
  cases h with
  | @enable i v r s' h =>
      rw [hs.instanceNumber i hcall] at h
      cases h with
      | start h =>
          cases h with
          | noEntry => apply pidStep_self
          | refused => apply pidStep_self
          | posted j hn =>
              apply pidStep_of_extends
              · apply Sys.Extends.emit nofun
                apply Sys.Extends.setEntry (Sys.extends_self s)
              · rfl
              · intro k
                apply (hentry k).pppPid (.inr ⟨i, rfl⟩)
      | stop h =>
          cases h with
          | noEntry => apply pidStep_self
          | stopped j r₁ r₂ r₃ hn =>
              obtain rfl := Nat.succ_inj.mp hn
              apply pidStep_stopped hb rfl rfl (Sys.extends_self _)
              intro k
              rfl
  | resetIgnored => apply pidStep_self
  | @reset i v r s' henabled h =>
      rw [hs.instanceNumber i hcall] at h
      have hstop : Ledger.stoppedBy s (.reset i v) = some (i + 1) := by
        rw [Ledger.stoppedBy, if_pos henabled]
      cases h with
      | notStopped h =>
          cases h with
          | noEntry => apply pidStep_self
      | stopped h h' =>
          cases h with
          | stopped j r₁ r₂ r₃ hn =>
              obtain rfl := Nat.succ_inj.mp hn
              cases h' with
              | noEntry | refused =>
                  apply pidStep_stopped hb hstop rfl (Sys.extends_self _)
                  intro k
                  rfl
              | posted k hn =>
                  obtain rfl := Nat.succ_inj.mp hn
                  apply pidStep_stopped hb hstop rfl
                  · apply Sys.Extends.emit nofun
                    apply Sys.Extends.setEntry (Sys.extends_self _)
                  · intro k
                    rw [Sys.post_table, Sys.setEntry_table]
                    by_cases hk : k = i
                    · obtain rfl := hk
                      rw [Function.update_self]
                      rfl
                    · rw [Function.update_of_ne hk]
  | message h =>
      apply pidStep_of_extends h.kills rfl
      intro k
      apply (hentry k).pppPid (.inl ⟨_, rfl⟩)
  | queueEmpty => apply pidStep_self
  | @queueEvent ev evs q s' hqueue h =>
      apply PidStep.of_queue
      rw [Ledger.startedBy, hqueue]
      dsimp only
      cases h with
      | invalid hpos => apply pidStep_self
      | busSet r component bus name value haction =>
          apply pidStep_of_extends
          · apply Sys.Extends.emit nofun
            apply Sys.extends_self
          · rw [if_neg]
            rw [haction]
            rintro ⟨-, h⟩
            cases h
          · intro k
            rfl
      | exec q s' hpos haction h =>
          rw [if_pos ⟨hpos, haction⟩]
          apply h.pidStep hA rfl
  | start h => apply h.pidStep hA rfl
  | stop h =>
      cases h with
      | noEntry => apply pidStep_self
      | stopped j r₁ r₂ r₃ hn =>
          obtain rfl := hn
          apply pidStep_stopped hb rfl rfl (Sys.extends_self _)
          intro k
          rfl

/-! ### Runs -/

/-- The entry of an interface holds the pid recorded last since its previous stop, or 0; no pid
recorded is negative; and every pid that was killed was recorded. -/
structure Faithful (w : Ledger) : Prop where
  numbered : Numbered w.sys
  pppPid : ∀ i, (w.sys.table i).info.pppPid = ((w.recorded (i + 1)).head?).getD 0
  nonneg : ∀ n, ∀ pid ∈ w.recorded n, 0 ≤ pid
  kills : KillsRecorded w

variable {w : Ledger}

theorem Faithful.after_kept (hw : Faithful w) (hnumbered : Numbered s')
    (hpid : ∀ i, (s'.table i).info.pppPid = (w.sys.table i).info.pppPid)
    (hkilled : killed (s'.acts.drop w.sys.acts.length) = [])
    (hacts : Ledger.startedBy w.sys call ≠ none → s'.acts.drop w.sys.acts.length = []) :
  Faithful (w.after call s')
  := by
  have hrecorded : (w.after call s').recorded = w.recorded := by
    funext n
    show w.recordedAfter call s' n = _
    rw [Ledger.recordedAfter, if_neg, if_neg]
    · rintro ⟨-, h⟩
      apply h hkilled
    · rintro ⟨hstart, h⟩
      rcases h with h | h
      · apply h (hacts (by rw [hstart]; apply Option.some_ne_none))
      · apply h (hpid _)
  have hkills : (w.after call s').kills = w.kills := by
    rw [Ledger.after, hkilled, List.map_nil, List.append_nil]
  constructor
  · apply hnumbered
  · intro i
    rw [hrecorded]
    apply (hpid i).trans (hw.pppPid i)
  · rw [hrecorded]
    apply hw.nonneg
  · rw [KillsRecorded, hkills]
    apply hw.kills

theorem Faithful.after_stopped (hw : Faithful w) (hnumbered : Numbered s') {i : ℕ}
    (hcond : ∃ pid ∈ (w.recorded (i + 1)).head?, pid ≠ 0)
    (hstop : Ledger.stoppedBy w.sys call = some (i + 1))
    (hstart : Ledger.startedBy w.sys call = none)
    (hkilled : killed (s'.acts.drop w.sys.acts.length) = [(w.sys.table i).info.pppPid])
    (hpid : (s'.table i).info.pppPid = 0)
    (hother : ∀ j, j ≠ i → (s'.table j).info.pppPid = (w.sys.table j).info.pppPid) :
  Faithful (w.after call s')
  := by
  have hrecorded : (w.after call s').recorded = Function.update w.recorded (i + 1) [] := by
    funext n
    show w.recordedAfter call s' n = _
    rw [Ledger.recordedAfter, if_neg (by rw [hstart]; rintro ⟨⟨⟩, -⟩), hstop]
    by_cases hn : n = i + 1
    · obtain rfl := hn
      rw [Function.update_self]
      apply if_pos ⟨rfl, by rw [hkilled]; apply List.cons_ne_nil⟩
    · rw [Function.update_of_ne hn, if_neg]
      rintro ⟨h, -⟩
      apply hn (Option.some.inj h).symm
  have hkills : (w.after call s').kills =
      w.kills ++ [((w.sys.table i).info.pppPid, w.recorded (i + 1))] := by
    rw [Ledger.after, hkilled, hstop]
    rfl
  constructor
  · apply hnumbered
  · intro j
    rw [hrecorded]
    by_cases hj : j = i
    · obtain rfl := hj
      rw [Function.update_self]
      apply hpid
    · rw [Function.update_of_ne (fun h => hj (Nat.succ_inj.mp h))]
      apply (hother j hj).trans (hw.pppPid j)
  · intro n pid hmem
    rw [hrecorded] at hmem
    by_cases hn : n = i + 1
    · obtain rfl := hn
      rw [Function.update_self] at hmem
      cases hmem
    · rw [Function.update_of_ne hn] at hmem
      apply hw.nonneg n pid hmem
  · intro k hk
    rw [hkills] at hk
    rcases List.mem_append.mp hk with h | h
    · apply hw.kills k h
    · obtain rfl := List.mem_singleton.mp h
      obtain ⟨pid, hhead, hne⟩ := hcond
      have hmem := List.mem_of_mem_head? hhead
      have heq : (w.sys.table i).info.pppPid = pid := by
        rw [hw.pppPid, hhead]
        rfl
      rw [heq]
      have hpos := hw.nonneg _ pid hmem
      exact ⟨by omega, hmem⟩

theorem Faithful.after_started (hw : Faithful w) (hnumbered : Numbered s') {i : ℕ}
    (hstart : Ledger.startedBy w.sys call = some (i + 1))
    (hkilled : killed (s'.acts.drop w.sys.acts.length) = [])
    (hrecorded : s'.acts.drop w.sys.acts.length ≠ [] ∨
      (s'.table i).info.pppPid ≠ (w.sys.table i).info.pppPid)
    (hpid : 0 ≤ (s'.table i).info.pppPid)
    (hother : ∀ j, j ≠ i → (s'.table j).info.pppPid = (w.sys.table j).info.pppPid) :
  Faithful (w.after call s')
  := by
  have hrecorded' : (w.after call s').recorded = Function.update w.recorded (i + 1)
      ((s'.table i).info.pppPid :: w.recorded (i + 1)) := by
    funext n
    show w.recordedAfter call s' n = _
    rw [Ledger.recordedAfter, hstart]
    by_cases hn : n = i + 1
    · obtain rfl := hn
      rw [Function.update_self]
      apply if_pos ⟨rfl, hrecorded⟩
    · rw [Function.update_of_ne hn, if_neg, if_neg]
      · rintro ⟨-, h⟩
        apply h hkilled
      · rintro ⟨h, -⟩
        apply hn (Option.some.inj h).symm
  have hkills : (w.after call s').kills = w.kills := by
    rw [Ledger.after, hkilled, List.map_nil, List.append_nil]
  constructor
  · apply hnumbered
  · intro j
    rw [hrecorded']
    by_cases hj : j = i
    · obtain rfl := hj
      rw [Function.update_self]
      rfl
    · rw [Function.update_of_ne (fun h => hj (Nat.succ_inj.mp h))]
      apply (hother j hj).trans (hw.pppPid j)
  · intro n pid hmem
    rw [hrecorded'] at hmem
    by_cases hn : n = i + 1
    · obtain rfl := hn
      rw [Function.update_self] at hmem
      rcases List.mem_cons.mp hmem with rfl | h
      · apply hpid
      · apply hw.nonneg _ pid h
    · rw [Function.update_of_ne hn] at hmem
      apply hw.nonneg n pid hmem
  · rw [KillsRecorded, hkills]
    apply hw.kills

/-- A turn of the run. -/
theorem Faithful.step (hb : b.usePppDaemon = true) {l : Turn} {w' : Ledger} (hw : Faithful w)
    (hl : ProcTurn l w ∧ StopsRecorded l w) (hstep : Ledger.step b l w = some w') :
  Faithful w'
  := by
  obtain ⟨⟨hhandles, hproc⟩, hstops⟩ := hl
  obtain ⟨s', hnext, rfl⟩ := Option.map_eq_some_iff.mp hstep
  obtain ⟨r, hends⟩ := Turn.next_ends hproc hnext
  have hnumbered := hends.numbered hw.numbered hhandles
  have hpids := hends.pidStep hb (fun x hx => lookupPppd_nonneg hx) hw.numbered hhandles
  cases hpids with
  | kept hpid hkilled hacts => apply hw.after_kept hnumbered hpid hkilled hacts
  | stopped i hstop hstart hkilled hpid hother =>
      apply hw.after_stopped hnumbered (hstops _ hstop) hstop hstart hkilled hpid hother
  | started i hstart hkilled hrecorded hpid hother =>
      apply hw.after_started hnumbered hstart hkilled hrecorded hpid hother

/-- Every pid that is killed is positive and was recorded for its interface since the previous stop,
in every run that stops an interface only when the last start since its previous stop recorded a pid
other than 0. -/
theorem killed_recorded (hb : b.usePppDaemon = true) {ls : List Turn} {w' : Ledger}
    (hs : Initial s) (hturns : Throughout (Ledger.step b) ProcTurn ls (Ledger.start s))
    (hstops : Throughout (Ledger.step b) StopsRecorded ls (Ledger.start s))
    (hrun : run (Ledger.step b) ls (Ledger.start s) = some w') :
  KillsRecorded w'
  := by
  have hstart : Faithful (Ledger.start s) := by
    constructor
    · apply hs.toNumbered
    · intro i
      apply (hs.idle i).pppPid
    · intro n pid hpid
      cases hpid
    · intro k hk
      cases hk
  apply (run_invariant (fun _ _ _ hw hl => hw.step hb hl) hstart
    (throughout_and hturns hstops) hrun).kills

/-! ### A stop without a start -/

/-- What has to be tested of a turn of a run. -/
def procTest (l : Turn) (w : Ledger) : Bool :=
  match l.call with
  | .enable i _ => decide (i < w.sys.pppIfCount.toNat)
  | .event => true
  | _ => false

/-- `/proc` lists nothing, or one process with a pid. -/
theorem procTurn_of_test {ps : Option CStr} {n : ℕ} {dents : List ProcDirent}
    (hdents : ∀ d ∈ dents, ∀ pid, strtol64 d.dName = some pid → 0 < pid ∧ pid < 2 ^ 31)
    {call : Call} {w : Ledger}
    (h : procTest ⟨call, (workingOutside n ps dents).answers⟩ w = true) :
  ProcTurn ⟨call, (workingOutside n ps dents).answers⟩ w
  := by
  constructor
  · cases call with
    | enable i v => apply of_decide_eq_true h
    | event => trivial
    | _ => cases h
  · intro t o _
    cases o <;> first | apply hdents | trivial

/-- Disabling an interface that was never started kills the process group of the manager. -/
theorem stop_kills_zero :
  ¬ ∀ (b : Build) (s : Sys) (ls : List Turn) (w' : Ledger), b.usePppDaemon = true → Initial s →
    Throughout (Ledger.step b) ProcTurn ls (Ledger.start s) →
    run (Ledger.step b) ls (Ledger.start s) = some w' → KillsRecorded w'
  := by
  intro h
  have hcheck : check (Ledger.step (plainBuild true)) procTest
      [⟨.enable 0 false, (workingOutside 1 none []).answers⟩] (Ledger.start (freshState 1)) =
        true := by
    decide +kernel
  have hend : (run (Ledger.step (plainBuild true))
      [⟨.enable 0 false, (workingOutside 1 none []).answers⟩] (Ledger.start (freshState 1))).map
        (fun w => w.kills) = some [(0, [])] := by
    decide +kernel
  obtain ⟨w', hrun, hkills⟩ := Option.map_eq_some_iff.mp hend
  have hturns : Throughout (Ledger.step (plainBuild true)) ProcTurn
      [⟨.enable 0 false, (workingOutside 1 none []).answers⟩] (Ledger.start (freshState 1)) := by
    apply throughout_of_check _ hcheck
    intro l hl w htest
    obtain rfl := List.mem_singleton.mp hl
    apply procTurn_of_test (fun d hd => absurd hd List.not_mem_nil) htest
  have hrecorded := h _ _ _ w' rfl (initial_freshState (by decide)) hturns hrun (0, [])
    (by rw [hkills]; apply List.mem_singleton_self)
  apply absurd hrecorded.1 (Int.lt_irrefl 0)

/-- The calls of a run that starts the client of the interface 1, which gets the pid 7, and stops
it. -/
def startedStopped : List Turn :=
  [.enable 0 true, .event, .enable 0 false].map
    (fun call => ⟨call, (workingOutside 1 none [pppdProcess 7]).answers⟩)

/-- What has to be tested of a turn that may stop a client. -/
def stopsTest (l : Turn) (w : Ledger) : Bool :=
  match Ledger.stoppedBy w.sys l.call with
  | some n => ((w.recorded n).head?).any (fun pid => decide (pid ≠ 0))
  | none => true

theorem stopsRecorded_of_test {l : Turn} {w : Ledger} (h : stopsTest l w = true) :
  StopsRecorded l w
  := by
  intro n hn
  rw [stopsTest, hn] at h
  obtain ⟨pid, hpid, hne⟩ := (Option.any_eq_true _ _).mp h
  exact ⟨pid, hpid, of_decide_eq_true hne⟩

theorem killed_recorded_startedStopped :
  ∃ w', run (Ledger.step (plainBuild true)) startedStopped (Ledger.start (freshState 1)) = some w' ∧
    w'.kills = [(7, [7])] ∧ KillsRecorded w'
  := by
  have hturns : check (Ledger.step (plainBuild true)) procTest startedStopped
      (Ledger.start (freshState 1)) = true := by
    decide +kernel
  have hstops : check (Ledger.step (plainBuild true)) stopsTest startedStopped
      (Ledger.start (freshState 1)) = true := by
    decide +kernel
  have hend : (run (Ledger.step (plainBuild true)) startedStopped (Ledger.start (freshState 1))).map
      (fun w => w.kills) = some [(7, [7])] := by
    decide +kernel
  obtain ⟨w', hrun, hkills⟩ := Option.map_eq_some_iff.mp hend
  use w', hrun, hkills
  apply killed_recorded rfl (initial_freshState (by decide)) _ _ hrun
  · apply throughout_of_check _ hturns
    intro l hl w htest
    obtain ⟨call, -, rfl⟩ := List.mem_map.mp hl
    apply procTurn_of_test _ htest
    intro d hd pid hpid
    obtain rfl := List.mem_singleton.mp hd
    have hseven : strtol64 (dec 7) = some 7 := by
      decide
    obtain rfl := Option.some.inj (hseven.symm.trans hpid)
    decide
  · apply throughout_of_check _ hstops
    intro l _ w
    apply stopsRecorded_of_test

end

end PppManager
