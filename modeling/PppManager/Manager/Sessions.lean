import PppManager.Manager.Outside

/-!
# Session ids

The session id of an interface whose client is up is written to the database, where the next start
of the manager is to find it.  A `Sessions` follows, beside the state of the manager, the id that
was written last for each interface.

The id is written to one record for all interfaces, whose name is the format of the names of the
records that are loaded.  What is loaded for an interface is what was there before
(`loaded_iff_saved`).
-/

namespace PppManager

open Effect CText

/-- The session id the record of an interface gives, where the entry is all zero before. -/
def savedSessionID (psm : CStr → Option CStr) (n : ℕ) : ULong :=
  match psm (recordName psmPppSessionid n) with
  | none => 0
  | some v => (DmlPppIfFull.zeroed.loadSessionID v).info.sessionID

/-- The session id `PppDmlGetIntfValuesFromPSM` loads for the entry `i` when the manager starts. -/
def loadedSessionID (b : Build) (ω : Answers) (psm : CStr → Option CStr) (i : ℕ) : Option ULong :=
  match (machine .event).exec ω (pppDmlGetIntfValuesFromPSM b (i + 1) i) 0 (Sys.blank psm) with
  | .ok (_, s, _) => some (s.table i).info.sessionID
  | .error _ => none

/-- Every read of the database succeeds. -/
def PsmReads : (o : Op) → o.Ans → Prop
  | .psmGet _, r => r = true
  | _, _ => True

/-- Every read of the database succeeds, and every write of it does if `written`. -/
def PsmAnswers (written : Bool) : (o : Op) → o.Ans → Prop
  | .psmSet _ _, r => r = written
  | o, r => PsmReads o r

/-- A turn, and whether its writes of the database succeed. -/
structure PsmTurn extends Turn where
  written : Bool

/-- The first entry that has the pid. -/
def firstWithPid (s : Sys) (pid : ℤ) : Option ℕ :=
  (List.range s.pppIfCount.toNat).find? (fun i => (s.table i).info.pppPid = pid)

/-- The entry whose client a call reports up. -/
def upEntry (s : Sys) : Call → Option ℕ
  | .message m =>
    if m.msgType = .pppStateChange ∧ m.pppEventMsg.pppState = .interfaceUp then
      firstWithPid s m.pppEventMsg.pid
    else none
  | _ => none

/-- The state of the manager, and the session id that was written last for each instance. -/
structure Sessions where
  sys : Sys
  persisted : ℕ → Option ULong

namespace Sessions

/-- Nothing has been written. -/
def start (s : Sys) : Sessions where
  sys := s
  persisted := fun _ => none

/-- After a turn that left the state `s'`. -/
def after (w : Sessions) (l : PsmTurn) (s' : Sys) : Sessions where
  sys := s'
  persisted :=
    match upEntry w.sys l.call with
    | some i =>
      if l.written then Function.update w.persisted (i + 1) (some (s'.table i).info.sessionID)
      else w.persisted
    | none => w.persisted

/-- A turn of the manager. -/
def step (b : Build) (l : PsmTurn) (w : Sessions) : Option Sessions :=
  (l.next b w.sys).map (w.after l)

end Sessions

/-- A turn of the run: a call of the manager in which the database can be read, and written as the
turn says. -/
def SessionTurn (l : PsmTurn) (w : Sessions) : Prop :=
  l.call.Handles w.sys ∧ l.Allowed (PsmAnswers l.written)

/-! ### What is written -/

section

variable {b : Build} {s s' : Sys} {i : ℕ} {r : Bool}

theorem firstWithPid_eq_some {pid : ℤ} (h : firstWithPid s pid = some i) :
  i < s.pppIfCount.toNat ∧ FirstWithPid s pid i
  := by
  obtain ⟨hpid, hmem, hbefore⟩ := List.find?_range_eq_some.mp h
  use List.mem_range.mp hmem, of_decide_eq_true hpid
  intro j hj
  simpa using hbefore j hj

/-- Two entries that are the first with a pid are the same. -/
theorem FirstWithPid.unique {pid : ℤ} {j : ℕ} (hi : FirstWithPid s pid i)
    (hj : FirstWithPid s pid j) :
  i = j
  := by
  rcases Nat.lt_trichotomy i j with h | h | h
  · apply absurd hi.1 (hj.2 i h)
  · apply h
  · apply absurd hj.1 (hi.2 j h)

/-- A client that is up has the session id of its entry written. -/
theorem switchState_writes {msg : IpcPppEventMsg} (hup : msg.pppState = .interfaceUp)
    (uptime : ULong) (id : Option ULong) :
  (switchState i msg uptime id true s).psm psmPppSessionid =
    some (sessionIdText ((switchState i msg uptime id true s).table i).info.sessionID)
  := by
  rw [switchState_table, Function.update_self, switchState, hup]
  dsimp only
  rw [if_pos rfl, Sys.setRecord_psm, Function.update_self]

/-- What a turn that writes the session id of an entry writes. -/
theorem CallEnds.writes {call : Call} (hs : Numbered s)
    (h : CallEnds (PsmAnswers true) b s call r s') (hup : upEntry s call = some i) :
  s'.psm psmPppSessionid = some (sessionIdText (s'.table i).info.sessionID)
  := by
  cases h with
  | @message m q s' h =>
      rw [upEntry] at hup
      split_ifs at hup with hkind
      obtain ⟨hcount, hfirst⟩ := firstWithPid_eq_some hup
      have hread : ¬ PsmAnswers true (.psmGet psmPppManagerPppIfCount) false :=
        Bool.false_ne_true
      cases h with
      | ignored h => apply absurd ⟨i, hcount, hfirst.1⟩ (h hkind.1 hread hs)
      | dispatched k hk hcount' hpid hfirst' hends =>
          obtain rfl := hfirst.unique (hfirst' hread)
          have hwrites := fun uptime id => switchState_writes (s := s) (i := i) hkind.2 uptime id
          have hwritten : ∀ {w : Bool}, (w = false →
              PsmAnswers true (.psmSet psmPppSessionid []) false) → w = true := by
            intro w hw
            apply Bool.of_not_eq_false
            intro h
            cases hw h
          cases hends with
          | stateChanged hkind' hends =>
              cases hends with
              | noEntry hno =>
                  rw [hs.toInt_instanceNumber hcount] at hno
                  obtain h | h | h := hno
                  · omega
                  · apply absurd h hread
                  · omega
              | quiet j uptime id w hn hj hlink =>
                  rw [hkind.2] at hlink
                  cases hlink
              | refused j uptime id w v hn hj hlink hw =>
                  obtain rfl := dispatch_index hs hcount hn
                  obtain rfl := hwritten hw
                  apply hwrites
              | told j uptime id w v r hn hj hlink hw =>
                  obtain rfl := dispatch_index hs hcount hn
                  obtain rfl := hwritten hw
                  rw [Sys.sent_psm, Sys.post_psm, Sys.sent_table, Sys.post_table]
                  apply hwrites
          | ipcp hkind' | ipv6cp hkind' | unknown hkind' =>
              rw [hkind.2] at hkind'
              cases hkind'
  | _ => cases hup

/-- The id of an entry is read back from its text. -/
theorem savedSessionID_of_text {psm : CStr → Option CStr} {n : ℕ} {id : ULong}
    (h : psm (recordName psmPppSessionid n) = some (sessionIdText id)) :
  savedSessionID psm n = id
  := by
  have htext : sessionIdText id = dec id.toLong := List.append_nil _
  have hclamp : clampLong id.toLong = id.toLong := by
    have hlt : id.toLong < 2 ^ 63 := BitVec.toInt_lt
    have hle : -2 ^ 63 ≤ id.toLong := BitVec.le_toInt id
    rw [clampLong]
    omega
  have hscan : sscanfLd (sessionIdText id) = some id.toLong := by
    rw [sscanfLd, htext, scanInt_dec, Option.map_some, hclamp]
  rw [savedSessionID, h]
  dsimp only
  rw [DmlPppIfFull.loadSessionID, hscan]
  apply BitVec.ofInt_toInt

/-- What a turn writes is the id that is followed, and a start that found it in the record of an
interface would load this id. -/
theorem persisted_written {w w' : Sessions} {l : PsmTurn} (hs : Numbered w.sys)
    (hl : SessionTurn l w) (hwritten : l.written = true) (hstep : Sessions.step b l w = some w')
    (hup : upEntry w.sys l.call = some i) :
  ∃ id, w'.persisted (i + 1) = some id ∧
    w'.sys.psm psmPppSessionid = some (sessionIdText id) ∧
    ∀ psm n, psm (recordName psmPppSessionid n) = w'.sys.psm psmPppSessionid →
      savedSessionID psm n = id
  := by
  obtain ⟨s', hnext, rfl⟩ := Option.map_eq_some_iff.mp hstep
  have hallowed := hl.2
  rw [hwritten] at hallowed
  obtain ⟨r, hends⟩ := Turn.next_ends hallowed hnext
  have hpsm := hends.writes hs hup
  refine ⟨(s'.table i).info.sessionID, ?_, hpsm, ?_⟩
  · rw [Sessions.after, hup]
    dsimp only
    rw [if_pos hwritten, Function.update_self]
  · intro psm n hrecord
    apply savedSessionID_of_text
    rw [hrecord]
    apply hpsm

/-! ### What is loaded -/

theorem loadSessionID_sessionID {e e' : DmlPppIfFull} (h : e.info.sessionID = e'.info.sessionID)
    (v : CStr) :
  (e.loadSessionID v).info.sessionID = (e'.loadSessionID v).info.sessionID
  := by
  rw [DmlPppIfFull.loadSessionID, DmlPppIfFull.loadSessionID]
  cases sscanfLd v with
  | none => apply h
  | some id => rfl

/-- Loading an entry that is all zero gives it the session id of its record. -/
theorem wp_pppDmlGetIntfValuesFromPSM {psm : CStr → Option CStr} :
  (contract .event PsmReads True).wp (pppDmlGetIntfValuesFromPSM b (i + 1) i)
    (fun _ s => (s.table i).info.sessionID = savedSessionID psm (i + 1)) (Sys.blank psm)
  := by
  have hstable : LoadStable (fun e => e.info.sessionID = DmlPppIfFull.zeroed.info.sessionID) := by
    intro e e' h he
    simp only [DmlPppIfFull.notLoaded, Prod.mk.injEq] at h
    apply h.2.2.2.trans he
  rw [pppDmlGetIntfValuesFromPSM, Contract.wp_bind]
  apply Contract.wp_mono _ (loadsEntry_loadParameters hstable.keeps b (Sys.blank psm) rfl)
  rintro _ s ⟨e, he, rfl⟩
  rw [loadRecord, Contract.wp_bind, wp_psmGet]
  rintro r (rfl : r = true)
  rw [if_pos rfl, savedSessionID]
  show (contract .event PsmReads True).wp (match psm (recordName psmPppSessionid (i + 1)) with
    | none => pure ()
    | some paramValue => store i (DmlPppIfFull.loadSessionID paramValue)) _ _
  cases psm (recordName psmPppSessionid (i + 1)) with
  | none =>
      rw [Contract.wp_pure, Sys.setEntry_table, Function.update_self]
      apply he
  | some v =>
      rw [wp_store]
      intro _
      rw [Sys.setEntry_table, Function.update_self, Sys.setEntry_table, Function.update_self]
      apply loadSessionID_sessionID he

theorem loadedSessionID_eq {ω : Answers} {psm : CStr → Option CStr} {id : ULong}
    (hω : ∀ k name, ω k (.psmGet name) = true) (h : loadedSessionID b ω psm i = some id) :
  id = savedSessionID psm (i + 1)
  := by
  have hresp : (contract .event PsmReads True).Respects ω := by
    intro k o _
    cases o with
    | psmGet name => apply hω
    | _ => trivial
  rw [loadedSessionID] at h
  cases hexec : (machine .event).exec ω (pppDmlGetIntfValuesFromPSM b (i + 1) i) 0
      (Sys.blank psm) with
  | error e =>
      rw [hexec] at h
      cases h
  | ok a =>
      obtain ⟨_, s, k⟩ := a
      rw [hexec] at h
      obtain rfl := Option.some.inj h
      apply Contract.wp_exec_ok hresp wp_pppDmlGetIntfValuesFromPSM hexec

/-- The record of no interface is the one that is written: after the common part of the names, one
has a digit and the other has not. -/
theorem recordName_psmPppSessionid_ne (n : ℕ) :
  recordName psmPppSessionid n ≠ psmPppSessionid
  := by
  intro h
  obtain ⟨c, ds, hds⟩ := List.exists_cons_of_ne_nil (Nat.toDigits_ne_nil (n := n) (b := 10))
  have hdec : dec n = c :: ds := hds
  have hdigit : c.isDigit = true := by
    apply isDigit_of_mem_dec_ofNat (n := n)
    rw [hdec]
    apply List.mem_cons_self
  have hrecord : (recordName psmPppSessionid n)[19]? = some c := by
    have hname : recordName psmPppSessionid n =
        ("dmsb.pppmanager.if.".toList ++ (dec n ++ ".sessionid".toList)).take 255 := rfl
    have hlength : "dmsb.pppmanager.if.".toList.length = 19 := by
      decide
    rw [hname, hdec, List.getElem?_take_of_lt (by decide), List.getElem?_append_right (by decide),
      hlength]
    rfl
  have hformat : psmPppSessionid[19]? = some '%' := by
    decide
  rw [h, hformat] at hrecord
  obtain rfl := Option.some.inj hrecord
  cases hdigit

/-! ### Runs -/

/-- No turn writes the record of an interface. -/
theorem savedSessionID_step {n : ℕ} {w w' : Sessions} {l : PsmTurn}
    (hstep : Sessions.step b l w = some w') :
  savedSessionID w'.sys.psm n = savedSessionID w.sys.psm n
  := by
  obtain ⟨s', hnext, rfl⟩ := Option.map_eq_some_iff.mp hstep
  obtain ⟨r, hends⟩ := Turn.next_ends l.toTurn.allowed_unrestricted hnext
  have hpsm := hends.psm_of_ne (recordName_psmPppSessionid_ne n)
  show savedSessionID s'.psm n = _
  rw [savedSessionID, hpsm, savedSessionID]

/-- The next start of the manager loads the session id that was written last for an interface, or
what it would have loaded before the run where none was, exactly if an id that was written last is
the one the record of the interface had before the run. -/
theorem loaded_iff_saved {ls : List PsmTurn} {w : Sessions} {ω : Answers} {id : ULong}
    (hrun : run (Sessions.step b) ls (Sessions.start s) = some w)
    (hω : ∀ k name, ω k (.psmGet name) = true)
    (hload : loadedSessionID b ω w.sys.psm i = some id) :
  id = (w.persisted (i + 1)).getD (savedSessionID s.psm (i + 1)) ↔
    ∀ written, w.persisted (i + 1) = some written → savedSessionID s.psm (i + 1) = written
  := by
  have hsaved : savedSessionID w.sys.psm (i + 1) = savedSessionID s.psm (i + 1) := by
    apply run_invariant (fun _ _ _ hw _ hstep => (savedSessionID_step hstep).trans hw) rfl
      (throughout_of_forall (fun _ _ _ => trivial)) hrun
  have hid : id = savedSessionID s.psm (i + 1) := (loadedSessionID_eq hω hload).trans hsaved
  rw [hid]
  cases w.persisted (i + 1) with
  | none =>
      constructor
      · rintro - written ⟨⟩
      · intro _
        rfl
  | some written =>
      constructor
      · rintro h written' ⟨⟩
        apply h
      · intro h
        apply h written rfl

/-! ### A session that is lost -/

/-- An outside where the services work, in which the session table has one row. -/
def sessionTable (row : CStr) : Outside :=
  { workingOutside 1 none [] with
    file := fun _ => some ("Id       Address              Device\n".toList ++ row) }

/-- A run in which the client of the interface 1, whose pid is 0 before it is started, reports that
it is up. -/
def reportUp (row : CStr) : List PsmTurn :=
  [{ call := .message (stateMessage 0 .interfaceUp)
     answers := (sessionTable row).answers
     written := true }]

theorem throughout_reportUp {w : Sessions} (row : CStr) :
  Throughout (Sessions.step b) SessionTurn (reportUp row) w
  := by
  apply throughout_of_forall
  intro l hl w
  obtain rfl := List.mem_singleton.mp hl
  use trivial
  intro k o _
  cases o <;> first | rfl | trivial

theorem loaded_iff_saved_reportUp :
  ∃ w, run (Sessions.step (plainBuild false)) (reportUp "00000100".toList)
      (Sessions.start (freshState 1)) = some w ∧
    w.persisted 1 = some 1 ∧
    (1 = (w.persisted 1).getD (savedSessionID (freshState 1).psm 1) ↔
      ∀ written, w.persisted 1 = some written → savedSessionID (freshState 1).psm 1 = written)
  := by
  have hend : (run (Sessions.step (plainBuild false)) (reportUp "00000100".toList)
      (Sessions.start (freshState 1))).map (fun w => (w.persisted 1,
        loadedSessionID (plainBuild false) (sessionTable []).answers w.sys.psm 0)) =
          some (some 1, some 1) := by
    decide +kernel
  obtain ⟨w, hrun, hw⟩ := Option.map_eq_some_iff.mp hend
  obtain ⟨hpersisted, hload⟩ := Prod.mk.inj hw
  use w, hrun, hpersisted
  apply loaded_iff_saved (i := 0) hrun (fun _ _ => rfl) hload

/-- The id of a session is written, and the next start of the manager loads another one. -/
theorem session_lost :
  ¬ ∀ (b : Build) (s : Sys) (ls : List PsmTurn) (w : Sessions) (ω : Answers) (i : ℕ) (id : ULong),
    Initial s → Throughout (Sessions.step b) SessionTurn ls (Sessions.start s) →
    run (Sessions.step b) ls (Sessions.start s) = some w →
    (∀ k name, ω k (.psmGet name) = true) → loadedSessionID b ω w.sys.psm i = some id →
    id = (w.persisted (i + 1)).getD (savedSessionID s.psm (i + 1))
  := by
  intro h
  have hend : (run (Sessions.step (plainBuild false)) (reportUp "00000500".toList)
      (Sessions.start (freshState 1))).map (fun w => (w.persisted 1,
        loadedSessionID (plainBuild false) (sessionTable []).answers w.sys.psm 0)) =
          some (some 5, some 1) := by
    decide +kernel
  obtain ⟨w, hrun, hw⟩ := Option.map_eq_some_iff.mp hend
  obtain ⟨hpersisted, hload⟩ := Prod.mk.inj hw
  have hsame := h _ _ _ w _ 0 1 (initial_freshState (by decide)) (throughout_reportUp _) hrun
    (fun _ _ => rfl) hload
  rw [hpersisted] at hsame
  revert hsame
  decide

end

end PppManager
