import PppManager.Manager.Kills

/-!
# Launched processes

A start launches a process and then looks for it in `/proc`, where `PppMgr_getPppPid(NULL)` takes the
first `pppd` that runs or sleeps.  `Launches` follows, beside the state of the manager, which
interface each process was launched for.

As long as each start finds the process it has launched before any other, the interfaces have the
pids of their own processes, and no message of a client is taken for one of another interface
(`attributed_of_findsOwn`).
-/

namespace PppManager

open Effect CText

/-! ### The lookup -/

/-- The pid of the process of a directory of `/proc`, if it is named `pppd` and runs or sleeps. -/
def ProcDirent.runningPppd (d : ProcDirent) : Option ℤ :=
  match (if d.isDir then strtol64 d.dName else none), d.stat with
  | some pid, some text =>
      if stripParen (scanStat text).1 = "pppd".toList ∧
          ((scanStat text).2 = some 'R' ∨ (scanStat text).2 = some 'S') then some pid
      else none
  | _, _ => none

/-- The file `stat` of a process shows its state. -/
def ProcDirent.ShowsState (d : ProcDirent) : Prop :=
  ∀ text ∈ d.stat, (scanStat text).2 ≠ none

/-- The pid of the first `pppd` in a listing of `/proc` that runs or sleeps. -/
def firstPppd (r : Option (List ProcDirent)) : Option ℤ :=
  r.bind (fun dents => (dents.filterMap ProcDirent.runningPppd).head?)

theorem checkProcEntries_pppd {dents : List ProcDirent} (h : ∀ d ∈ dents, d.ShowsState)
    (status : Char) :
  checkProcEntries "pppd".toList none status dents =
    ((dents.filterMap ProcDirent.runningPppd).head?.map toInt).getD 0
  := by
  induction dents generalizing status with
  | nil => rfl
  | cons d dents ih =>
      have hrest := ih (fun d hd => h d (List.mem_cons_of_mem _ hd))
      have hstate := h d List.mem_cons_self
      rw [ProcDirent.ShowsState] at hstate
      rw [checkProcEntries, List.filterMap_cons, ProcDirent.runningPppd]
      generalize (if d.isDir then strtol64 d.dName else none) = pid
      cases pid with
      | none => apply hrest
      | some pid =>
          cases hstat : d.stat with
          | none => apply hrest
          | some text =>
              obtain ⟨c, hc⟩ := Option.ne_none_iff_exists'.mp (hstate text hstat)
              simp only [hc, Option.getD_some, Option.some.injEq]
              by_cases hname : stripParen (scanStat text).1 = "pppd".toList ∧ (c = 'R' ∨ c = 'S')
              · rw [if_pos hname, if_pos (by simpa using hname)]
                rfl
              · rw [if_neg hname, if_neg (by simpa using hname)]
                apply hrest

/-- The lookup finds the first `pppd` that runs or sleeps. -/
theorem lookupPppd_eq {r : Option (List ProcDirent)} (h : ∀ dents ∈ r, ∀ d ∈ dents, d.ShowsState) :
  lookupPppd r = ((firstPppd r).map toInt).getD 0
  := by
  cases r with
  | none => rfl
  | some dents => apply checkProcEntries_pppd (h dents rfl)

/-! ### Runs of starts and stops -/

/-- A call with the pid of the process it may launch. -/
structure Launch where
  turn : Turn
  pid : ℤ

/-- The acts start a client. -/
def launches (acts : List Act) : Bool :=
  acts.any (fun a => match a with | .system command => startsClient command | _ => false)

/-- The state of the manager, the instance each process was launched for, and the instance and the
pid of the process that the last call launched. -/
structure Launches where
  sys : Sys
  launchedFor : ℤ → Option ℕ
  last : Option (ℕ × ℤ)

namespace Launches

/-- Nothing has been launched. -/
def start (s : Sys) : Launches where
  sys := s
  launchedFor := fun _ => none
  last := none

/-- What has been launched after a call that left the state `s`. -/
def after (w : Launches) (l : Launch) (s : Sys) : Launches :=
  match l.turn.call with
  | .start n =>
      if launches (s.acts.drop w.sys.acts.length) then
        { sys := s
          launchedFor := Function.update w.launchedFor l.pid (some n)
          last := some (n, l.pid) }
      else { w with sys := s, last := none }
  | _ => { w with sys := s, last := none }

/-- A turn of the manager. -/
def step (b : Build) (l : Launch) (w : Launches) : Option Launches :=
  (l.turn.next b w.sys).map (w.after l)

end Launches

/-- The pid that is recorded for an interface is that of the process the last call launched for it,
if it launched one; no two interfaces have the same pid other than 0; and a message of a client is
taken for one of the interface its process was launched for, or of none. -/
structure Attributed (w : Launches) : Prop where
  recorded : ∀ n pid, w.last = some (n, pid) → (w.sys.table (n - 1)).info.pppPid = pid
  distinct : ∀ i j, i ≠ j → (w.sys.table i).info.pppPid ≠ 0 →
    (w.sys.table i).info.pppPid ≠ (w.sys.table j).info.pppPid
  routed : ∀ pid n, w.launchedFor pid = some n → ∀ (x : Answers) (r : ℤ) (s' : Sys) (t : ℕ),
    (machine .event).exec x (getIfaceDataWithPid pid) 0 w.sys = .ok (r, s', t) → r = -1 ∨ r = n

/-- Every listing of `/proc` satisfies `P`. -/
def ListsProc (P : Option (List ProcDirent) → Prop) : (o : Op) → o.Ans → Prop
  | .readProc, r => P r
  | _, _ => True

/-- A start of the instance `n` launches a process, if it gets so far. -/
def CanLaunch (s : Sys) (n : ℕ) : Prop :=
  (s.table (n - 1)).hasLink = true

/-- A turn of the run: a start or a stop.  The pid of the process a start launches is a new one, and
the process runs or sleeps when `/proc` is listed. -/
structure LaunchTurn (l : Launch) (w : Launches) : Prop where
  call : ∃ n, l.turn.call = .start n ∨ l.turn.call = .stop n
  pid : 0 < l.pid ∧ l.pid < 2 ^ 31
  fresh : w.launchedFor l.pid = none
  shows : l.turn.Allowed (ListsProc (fun r => ∀ dents ∈ r, ∀ d ∈ dents, d.ShowsState))
  visible : ∀ n, l.turn.call = .start n → CanLaunch w.sys n →
    l.turn.Allowed (ListsProc (fun r => ∃ dents ∈ r, ∃ d ∈ dents, d.runningPppd = some l.pid))

/-- In every listing of `/proc` a start looks at, the first `pppd` that runs or sleeps is the one the
start has launched; where the start launches none, it was launched for the same instance before, if
there is any. -/
def FindsOwn (l : Launch) (w : Launches) : Prop :=
  ∀ n, l.turn.call = .start n →
    l.turn.Allowed (ListsProc (fun r =>
      (CanLaunch w.sys n → firstPppd r = some l.pid) ∧
      (¬ CanLaunch w.sys n → ∀ pid ∈ firstPppd r, w.launchedFor pid = some n)))

variable {A : (o : Op) → o.Ans → Prop} {b : Build} {s s' : Sys} {w : Launches}

/-- What a start or a stop does to the pids of the entries, and whether it launches a process. -/
inductive LookupStep (A : (o : Op) → o.Ans → Prop) (s : Sys) (n : ℕ) (s' : Sys) : Prop
  | quiet (hpid : ∀ i, (s'.table i).info.pppPid = (s.table i).info.pppPid ∨
        (s'.table i).info.pppPid = 0)
      (hlaunches : launches (s'.acts.drop s.acts.length) = false)
  | found (i : ℕ) (r : Option (List ProcDirent)) (hn : n = i + 1) (hr : A .readProc r)
      (hpid : (s'.table i).info.pppPid = lookupPppd r)
      (hother : ∀ j, j ≠ i → (s'.table j).info.pppPid = (s.table j).info.pppPid)
      (hlaunches : launches (s'.acts.drop s.acts.length) = (s.table i).hasLink)

/-- An entry of a table of which one entry has got the pid 0. -/
theorem pppPid_update_zero {i : ℕ} {e : DmlPppIfFull} (he : e.info.pppPid = 0) (j : ℕ) :
  (Function.update s.table i e j).info.pppPid = (s.table j).info.pppPid ∨
    (Function.update s.table i e j).info.pppPid = 0
  := by
  by_cases hj : j = i
  · obtain rfl := hj
    rw [Function.update_self]
    apply Or.inr he
  · rw [Function.update_of_ne hj]
    apply Or.inl rfl

/-- A start of an entry launches a process if its link type has a start command. -/
theorem Configures.launches {e : DmlPppIfFull} {cs : List CStr} {command : CStr}
    (h : Configures A b e cs command) :
  PppManager.launches ((cs ++ [command]).map .system) = e.hasLink
  := by
  have hlast : PppManager.launches ((cs ++ [command]).map .system) =
      (PppManager.launches (cs.map .system) || e.hasLink) := by
    rw [← h.startsClient, PppManager.launches, List.map_append, List.any_append]
    congr 1
    apply Bool.or_false
  rw [hlast]
  cases h with
  | noLink => rfl
  | daemon lib service hdaemon hlink => rw [hlink, Bool.or_true]
  | pppoa hdaemon hlink | pppoe r padt hdaemon hlink =>
      rw [DmlPppIfFull.hasLink, hlink]
      apply Bool.or_true

theorem StartEnds.lookupStep {n : ℕ} {q : AnscStatus} (h : StartEnds A b s n q s') :
  LookupStep A s n s'
  := by
  cases h with
  | noWanIface | alreadyRunning =>
      apply LookupStep.quiet (fun _ => .inl rfl)
      rw [List.drop_length]
      rfl
  | rejected i e hn hi hstopped he =>
      obtain ⟨u, p, -, rfl⟩ := he
      apply LookupStep.quiet (pppPid_update_zero rfl)
      rw [Sys.setEntry_acts, List.drop_length]
      rfl
  | launched i e cs command r w v hn hi hstopped he hparams hconf hr =>
      apply LookupStep.found i r hn hr
      · rw [Sys.systems_table, Sys.setEntry_table, Function.update_self]
        rfl
      · intro j hj
        rw [Sys.systems_table, Sys.setEntry_table, Function.update_of_ne hj]
      · obtain ⟨u, p, -, rfl⟩ := he
        rw [Sys.systems_acts, Sys.setEntry_acts, List.drop_left]
        apply hconf.launches

/-- What a stop does to the pids. -/
theorem StopEnds.pppPid {n : ℕ} {q : AnscStatus} (h : StopEnds A b s n q s') (i : ℕ) :
  (s'.table i).info.pppPid = (s.table i).info.pppPid ∨ (s'.table i).info.pppPid = 0
  := by
  cases h with
  | noEntry => apply Or.inl rfl
  | stopped j r₁ r₂ r₃ =>
      simp only [stoppedState, Sys.sent_table, Sys.emit_table, Sys.setEntry_table]
      by_cases hij : i = j
      · obtain rfl := hij
        rw [Function.update_self, stoppedEntry]
        split_ifs
        · apply Or.inr rfl
        · apply Or.inl rfl
      · rw [Function.update_of_ne hij]
        apply Or.inl rfl

/-! ### The processes of the interfaces -/

/-- The table is numbered, processes have positive pids, and an interface has the pid 0 or that of a
process that was launched for it. -/
structure OwnPids (w : Launches) : Prop where
  numbered : Numbered w.sys
  pid : ∀ pid n, w.launchedFor pid = some n → 0 < pid ∧ pid < 2 ^ 31
  pppPid : ∀ i, (w.sys.table i).info.pppPid = 0 ∨
    w.launchedFor (w.sys.table i).info.pppPid = some (i + 1)

theorem OwnPids.distinct (hw : OwnPids w) {i j : ℕ} (hij : i ≠ j)
    (hi : (w.sys.table i).info.pppPid ≠ 0) :
  (w.sys.table i).info.pppPid ≠ (w.sys.table j).info.pppPid
  := by
  intro heq
  have hfor := (hw.pppPid i).resolve_left hi
  rw [heq] at hi hfor
  have hfor' := (hw.pppPid j).resolve_left hi
  have hsucc := Option.some.inj (hfor.symm.trans hfor')
  apply hij (Nat.succ_inj.mp hsucc)

/-- A message of a client is taken for one of its own interface. -/
theorem OwnPids.routed (hw : OwnPids w) {pid : ℤ} {n : ℕ} (hpid : w.launchedFor pid = some n)
    {x : Answers} {r : ℤ} {s' : Sys} {t : ℕ}
    (hrun : (machine .event).exec x (getIfaceDataWithPid pid) 0 w.sys = .ok (r, s', t)) :
  r = -1 ∨ r = n
  := by
  have hresp : (contract .event Unrestricted True).Respects x := fun _ _ _ => trivial
  apply Contract.wp_exec_ok (Q := fun (r : ℤ) _ => r = -1 ∨ r = n) hresp _ hrun
  apply wp_getIfaceDataWithPid
  · intro _
    apply Or.inl rfl
  · intro i _ hcount hi _
    right
    have hpos := hw.pid pid n hpid
    have hfor := hw.pppPid i
    rw [hi, hpid] at hfor
    have hn := Option.some.inj (hfor.resolve_left (by omega))
    rw [hw.numbered.toInt_instanceNumber hcount, hn]

theorem OwnPids.attributed (hw : OwnPids w)
    (hlast : ∀ n pid, w.last = some (n, pid) → (w.sys.table (n - 1)).info.pppPid = pid) :
  Attributed w
  where
    recorded := hlast
    distinct := fun _ _ => hw.distinct
    routed := fun _ _ hpid _ _ _ _ => hw.routed hpid

/-- A call that launches nothing, and leaves each interface its pid, or none. -/
theorem OwnPids.quiet (hw : OwnPids w) {l : Option (ℕ × ℤ)} (hnumbered : Numbered s')
    (hpid : ∀ i, (s'.table i).info.pppPid = (w.sys.table i).info.pppPid ∨
      (s'.table i).info.pppPid = 0) :
  OwnPids { w with sys := s', last := l }
  := by
  constructor
  · apply hnumbered
  · apply hw.pid
  · intro i
    rcases hpid i with h | h
    · show (s'.table i).info.pppPid = 0 ∨ w.launchedFor (s'.table i).info.pppPid = _
      rw [h]
      apply hw.pppPid
    · apply Or.inl h

/-- A start that records the pid of a process that was launched for its instance. -/
theorem OwnPids.found (hw : OwnPids w) (hnumbered : Numbered s') {i : ℕ}
    {f : ℤ → Option ℕ} {l : Option (ℕ × ℤ)}
    (hf : ∀ pid n, w.launchedFor pid = some n → f pid = some n)
    (hpids : ∀ pid n, f pid = some n → 0 < pid ∧ pid < 2 ^ 31)
    (hpid : (s'.table i).info.pppPid = 0 ∨ f (s'.table i).info.pppPid = some (i + 1))
    (hother : ∀ j, j ≠ i → (s'.table j).info.pppPid = (w.sys.table j).info.pppPid) :
  OwnPids { sys := s', launchedFor := f, last := l }
  := by
  constructor
  · apply hnumbered
  · apply hpids
  · intro j
    by_cases hj : j = i
    · obtain rfl := hj
      apply hpid
    · show (s'.table j).info.pppPid = 0 ∨ f (s'.table j).info.pppPid = _
      rw [hother j hj]
      apply (hw.pppPid j).imp_right (hf _ _)

/-- What the listings of `/proc` in a turn of a run show. -/
def ProcAnswers (l : Launch) (w : Launches) (n : ℕ) : (o : Op) → o.Ans → Prop :=
  ListsProc (fun r => (∀ dents ∈ r, ∀ d ∈ dents, d.ShowsState) ∧
    (CanLaunch w.sys n → firstPppd r = some l.pid) ∧
    (¬ CanLaunch w.sys n → ∀ pid ∈ firstPppd r, w.launchedFor pid = some n))

theorem procAnswers_of {l : Launch} (hl : LaunchTurn l w) (hfinds : FindsOwn l w) {n : ℕ}
    (hcall : l.turn.call = .start n) :
  l.turn.Allowed (ProcAnswers l w n)
  := by
  intro t o ho
  have hshows := hl.shows t o ho
  have hfirst := hfinds n hcall t o ho
  cases o with
  | readProc => exact ⟨hshows, hfirst⟩
  | _ => trivial

/-- A start after which the entry `i` has the pid of the process it finds. -/
theorem OwnPids.start (hw : OwnPids w) {l : Launch} (hl : LaunchTurn l w) {n : ℕ}
    (hcall : l.turn.call = .start n) (hnumbered : Numbered s')
    (h : LookupStep (ProcAnswers l w n) w.sys n s') :
  OwnPids (w.after l s') ∧ ∀ m pid, (w.after l s').last = some (m, pid) →
    ((w.after l s').sys.table (m - 1)).info.pppPid = pid
  := by
  rw [Launches.after, hcall]
  dsimp only
  cases h with
  | quiet hpid hlaunches =>
      rw [hlaunches, if_neg Bool.false_ne_true]
      use hw.quiet hnumbered hpid
      intro m pid hlast
      cases hlast
  | found i r hn hr hpid hother hlaunches =>
      obtain rfl := hn
      obtain ⟨hshows, hown, hold⟩ := hr
      rw [lookupPppd_eq hshows] at hpid
      rw [hlaunches]
      cases hlink : (w.sys.table i).hasLink with
      | true =>
          rw [hown hlink] at hpid
          change _ = toInt l.pid at hpid
          rw [toInt_of_lt (by have h := hl.pid.1; omega) hl.pid.2] at hpid
          rw [if_pos rfl]
          constructor
          · apply hw.found hnumbered _ _ _ hother
            · intro pid n hfor
              rw [Function.update_of_ne _]
              · apply hfor
              · rintro rfl
                rw [hl.fresh] at hfor
                cases hfor
            · intro pid n hfor
              by_cases heq : pid = l.pid
              · rw [heq]
                apply hl.pid
              · rw [Function.update_of_ne heq] at hfor
                apply hw.pid pid n hfor
            · right
              rw [hpid, Function.update_self]
          · intro m pid hlast
            obtain ⟨rfl, rfl⟩ := Prod.mk.inj (Option.some.inj hlast)
            apply hpid
      | false =>
          rw [if_neg Bool.false_ne_true]
          constructor
          · apply hw.found hnumbered (fun _ _ h => h) hw.pid _ hother
            have hold := hold (by rw [CanLaunch, Nat.add_sub_cancel, hlink]; apply Bool.false_ne_true)
            rw [hpid]
            cases hfirst : firstPppd r with
            | none => apply Or.inl rfl
            | some pid =>
                have hfor := hold pid hfirst
                obtain ⟨h0, hlt⟩ := hw.pid pid _ hfor
                right
                show w.launchedFor (toInt pid) = _
                rw [toInt_of_lt (by omega) hlt]
                apply hfor
          · intro m pid hlast
            cases hlast

/-- A turn of the run. -/
theorem OwnPids.step (hw : OwnPids w) {l : Launch} {w' : Launches}
    (hl : LaunchTurn l w ∧ FindsOwn l w) (hstep : Launches.step b l w = some w') :
  OwnPids w' ∧ ∀ n pid, w'.last = some (n, pid) → (w'.sys.table (n - 1)).info.pppPid = pid
  := by
  obtain ⟨s', hnext, rfl⟩ := Option.map_eq_some_iff.mp hstep
  obtain ⟨n, hcall | hcall⟩ := hl.1.call
  · obtain ⟨r, hends⟩ := Turn.next_ends (procAnswers_of hl.1 hl.2 hcall) hnext
    have hnumbered := hends.numbered hw.numbered (by rw [hcall]; trivial)
    rw [hcall] at hends
    cases hends with
    | start h => apply hw.start hl.1 hcall hnumbered h.lookupStep
  · obtain ⟨r, hends⟩ := Turn.next_ends l.turn.allowed_unrestricted hnext
    have hnumbered := hends.numbered hw.numbered (by rw [hcall]; trivial)
    rw [hcall] at hends
    rw [Launches.after, hcall]
    cases hends with
    | stop h =>
        use hw.quiet hnumbered h.pppPid
        intro m pid hlast
        cases hlast

/-- In every run of starts and stops in which each start finds the process it has launched before
any other, every interface has the pid of the process it launched, and no message is taken for one
of another interface. -/
theorem attributed_of_findsOwn {ls : List Launch} {w' : Launches} (hs : Initial s)
    (hturns : Throughout (Launches.step b) LaunchTurn ls (Launches.start s))
    (hfinds : Throughout (Launches.step b) FindsOwn ls (Launches.start s))
    (hrun : run (Launches.step b) ls (Launches.start s) = some w') :
  Attributed w'
  := by
  have hstart : OwnPids (Launches.start s) := by
    constructor
    · apply hs.toNumbered
    · intro pid n hfor
      cases hfor
    · intro i
      left
      apply (hs.idle i).pppPid
  have hend := run_invariant
    (I := fun w => OwnPids w ∧
      ∀ n pid, w.last = some (n, pid) → (w.sys.table (n - 1)).info.pppPid = pid)
    (fun _ _ _ hw hl hstep => hw.1.step hl hstep)
    ⟨hstart, fun _ _ hlast => nomatch hlast⟩ (throughout_and hturns hfinds) hrun
  apply hend.1.attributed hend.2

/-! ### Two interfaces -/

/-- A start of the instance `n` that can launch the process `pid`, with the listing `dents` of
`/proc`. -/
def startOf (n : ℕ) (pid : ℤ) (dents : List ProcDirent) : Launch where
  turn :=
    { call := .start n
      answers := Outside.answers
        { workingOutside n none dents with bus := fun k => startReads n (k + 1) } }
  pid := pid

/-- Every process of the listing shows its state, and `pid` is that of a `pppd` that runs or
sleeps. -/
def showsPppd (pid : ℤ) (dents : List ProcDirent) : Bool :=
  dents.all (fun d => d.stat.all (fun text => (scanStat text).2.isSome)) &&
    dents.any (fun d => decide (d.runningPppd = some pid))

theorem launchTurn_startOf {n : ℕ} {pid : ℤ} {dents : List ProcDirent} (hpid : 0 < pid ∧ pid < 2 ^ 31)
    (hshows : showsPppd pid dents = true) (hfresh : w.launchedFor pid = none) :
  LaunchTurn (startOf n pid dents) w
  := by
  obtain ⟨hall, hany⟩ := Bool.and_eq_true_iff.mp hshows
  constructor
  · use n
    apply Or.inl rfl
  · apply hpid
  · apply hfresh
  · intro t o _
    cases o with
    | readProc =>
        intro dents' hdents d hd text htext hnone
        obtain rfl := Option.some.inj hdents
        have hsome := List.all_eq_true.mp hall d hd
        rw [htext, Option.all_some, hnone] at hsome
        cases hsome
    | _ => trivial
  · intro _ _ _ t o _
    cases o with
    | readProc =>
        obtain ⟨d, hd, hrunning⟩ := List.any_eq_true.mp hany
        exact ⟨dents, rfl, d, hd, of_decide_eq_true hrunning⟩
    | _ => trivial

theorem findsOwn_startOf {n : ℕ} {pid : ℤ} {dents : List ProcDirent}
    (hfirst : firstPppd (some dents) = some pid) (hlink : CanLaunch w.sys n) :
  FindsOwn (startOf n pid dents) w
  := by
  intro m hcall t o _
  obtain rfl := Call.start.inj hcall
  cases o with
  | readProc => exact ⟨fun _ => hfirst, fun h => absurd hlink h⟩
  | _ => trivial

/-- The starts of two interfaces, whose processes are 7 and 8, where the second looks at a
listing. -/
def twoStarts (dents : List ProcDirent) : List Launch :=
  [startOf 1 7 [pppdProcess 7], startOf 2 8 dents]

theorem launchTurns_twoStarts {dents : List ProcDirent} (hshows : showsPppd 8 dents = true)
    (hcheck : check (Launches.step (plainBuild true))
      (fun l w => decide (w.launchedFor l.pid = none)) (twoStarts dents)
      (Launches.start (freshState 2)) = true) :
  Throughout (Launches.step (plainBuild true)) LaunchTurn (twoStarts dents)
    (Launches.start (freshState 2))
  := by
  apply throughout_of_check _ hcheck
  intro l hl w hfresh
  rcases List.mem_pair.mp hl with rfl | rfl
  · apply launchTurn_startOf (by decide) (by decide +kernel) (of_decide_eq_true hfresh)
  · apply launchTurn_startOf (by decide) hshows (of_decide_eq_true hfresh)

theorem attributed_of_findsOwn_twoStarts :
  ∃ w', run (Launches.step (plainBuild true)) (twoStarts [pppdProcess 8, pppdProcess 7])
      (Launches.start (freshState 2)) = some w' ∧
    w'.last = some (2, 8) ∧ Attributed w'
  := by
  have hend : (run (Launches.step (plainBuild true)) (twoStarts [pppdProcess 8, pppdProcess 7])
      (Launches.start (freshState 2))).map (fun w => w.last) = some (some (2, 8)) := by
    decide +kernel
  have hturns := @launchTurns_twoStarts [pppdProcess 8, pppdProcess 7]
    (by decide +kernel) (by decide +kernel)
  have hlinks : check (Launches.step (plainBuild true))
      (fun _ w => (w.sys.table 0).hasLink && (w.sys.table 1).hasLink)
      (twoStarts [pppdProcess 8, pppdProcess 7]) (Launches.start (freshState 2)) = true := by
    decide +kernel
  obtain ⟨w', hrun, hlast⟩ := Option.map_eq_some_iff.mp hend
  use w', hrun, hlast
  apply attributed_of_findsOwn (initial_freshState (by decide)) hturns _ hrun
  apply throughout_of_check _ hlinks
  intro l hl w htest
  obtain ⟨h0, h1⟩ := Bool.and_eq_true_iff.mp htest
  rcases List.mem_pair.mp hl with rfl | rfl
  · apply findsOwn_startOf (n := 1) (by decide +kernel) h0
  · apply findsOwn_startOf (n := 2) (by decide +kernel) h1

/-- The second start records the process of the first, where `/proc` lists that first. -/
theorem second_start_finds_first :
  ¬ ∀ (b : Build) (s : Sys) (ls : List Launch) (w' : Launches), Initial s →
    Throughout (Launches.step b) LaunchTurn ls (Launches.start s) →
    run (Launches.step b) ls (Launches.start s) = some w' → Attributed w'
  := by
  intro h
  have hend : (run (Launches.step (plainBuild true)) (twoStarts [pppdProcess 7, pppdProcess 8])
      (Launches.start (freshState 2))).map
        (fun w => (w.last, (w.sys.table 1).info.pppPid)) = some (some (2, 8), 7) := by
    decide +kernel
  have hturns := @launchTurns_twoStarts [pppdProcess 7, pppdProcess 8]
    (by decide +kernel) (by decide +kernel)
  obtain ⟨w', hrun, hvalue⟩ := Option.map_eq_some_iff.mp hend
  obtain ⟨hlast, hpid⟩ := Prod.mk.inj hvalue
  have hattributed := h _ _ _ w' (initial_freshState (by decide)) hturns hrun
  have hrecorded := hattributed.recorded 2 8 hlast
  rw [hpid] at hrecorded
  cases hrecorded

end PppManager
