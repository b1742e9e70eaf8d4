import PppManager.Manager.Points

/-!
# Steps of the connection

`Status`, `ConnectionStatus`, `LastChange` and `AuthenticationProtocol` of an interface are written
by the switch of `PppMgr_ProcessStateChangedMsg`, and the first two by a stop.  `MarkStep` says what
an entry point does to them.
-/

namespace PppManager

open Effect CText

/-- The fields of an entry that say how its connection is. -/
def DmlPppIfFull.marks (e : DmlPppIfFull) :
    (DmlIfStatus × DmlPppConnStatus) × ULong × DmlPppAuth :=
  ((e.info.status, e.info.connectionStatus), e.info.lastChange, e.info.authenticationProtocol)

/-- The marks after a stop. -/
def DmlPppIfFull.stoppedMarks (e : DmlPppIfFull) :
    (DmlIfStatus × DmlPppConnStatus) × ULong × DmlPppAuth :=
  ((.down, .unconfigured), e.info.lastChange, e.info.authenticationProtocol)

/-- The entry point stops the client of the instance `n`. -/
inductive EntryPoint.Stops (s : Sys) : ℕ → EntryPoint → Prop
  | stop (n : ℕ) : Stops s n (.stop n)
  | disable (n : ℕ) : Stops s n (.enable n false)
  | reset (n : ℕ) : Stops s n (.reset n)
  | setDisabled (i : ℕ) :
      Stops s (s.table i).cfg.instanceNumber (.setter (.interfaceBool i "Enable".toList false))
  | setReset (i : ℕ) (v : Bool) (henabled : ((s.table i).cfg.bEnabled && v) = true) :
      Stops s (s.table i).cfg.instanceNumber (.setter (.interfaceBool i "Reset".toList v))

/-- The number of interfaces is read whenever the outside is asked for it. -/
def Access.ReadsCount (l : Access) : Prop :=
  ∀ k, l.answers k (.psmGet psmPppManagerPppIfCount) = true

/-- The message `m` is a state message for the entry `i`, which the PSM count covers: the entry has
its pid, and is the first that has it if the count is readable. -/
structure IpcMsgPayload.IsFor (m : IpcMsgPayload) (s : Sys) (i : ℕ) (readable : Prop) : Prop where
  type : m.msgType = .pppStateChange
  covered : i < s.pppIfCount.toNat
  pid : (s.table i).info.pppPid = m.pppEventMsg.pid
  first : readable → FirstWithPid s m.pppEventMsg.pid i

section

variable {A : (o : Op) → o.Ans → Prop} {b : Build} {s s' : Sys} {i n : ℕ}

/-! ### The entries -/

/-- What the handler of a message for the instance `k` does to the entries: it writes none of the
fields that quiet functions keep, or makes the switch on the entry of the instance. -/
inductive Switches (A : (o : Op) → o.Ans → Prop) (s : Sys) (k : ℤ) (msg : IpcPppEventMsg) (s' : Sys) :
    Prop
  | kept (h : ∀ i, (s'.table i).vital = (s.table i).vital)
  | switched (i : ℕ) (uptime : ULong) (id : Option ULong) (hk : k.toNat = i + 1)
      (hup : msg.pppState.writesLastChange = true → GivesUptime A uptime)
      (h : s'.table = Function.update s.table i (switchEntry msg uptime id (s.table i)))

/-- A write to an entry that keeps `f` of it keeps `f` of every entry. -/
theorem update_kept {α : Type} (f : DmlPppIfFull → α) {table : ℕ → DmlPppIfFull} {e : DmlPppIfFull}
    (he : f e = f (table i)) (j : ℕ) :
  f (Function.update table i e j) = f (table j)
  := by
  by_cases hj : j = i
  · rw [hj, Function.update_self, he]
  · rw [Function.update_of_ne hj]

theorem DispatchEnds.switches {k : ℤ} {msg : IpcPppEventMsg} {q : AnscStatus}
    (h : DispatchEnds A b s k msg q s') :
  Switches A s k msg s'
  := by
  cases h with
  | stateChanged hkind h =>
      cases h with
      | noEntry => apply Switches.kept (fun _ => rfl)
      | quiet i uptime id w hn hi hlink hup | refused i uptime id w v hn hi hlink hw hfail hup =>
          apply Switches.switched i uptime id hn hup
          apply switchState_table
      | told i uptime id w v r hn hi hlink hw hr hup =>
          apply Switches.switched i uptime id hn hup
          rw [Sys.sent_table, Sys.post_table, switchState_table]
  | ipcp hkind h =>
      apply Switches.kept
      intro j
      cases h with
      | noEntry => rfl
      | down r => rw [Sys.sent_table]
      | stored i v r q hn =>
          rw [Sys.sent_table, Sys.setEntry_table]
          apply update_kept
          rfl
  | ipv6cp hkind h =>
      apply Switches.kept
      intro j
      cases h with
      | badInstance => rfl
      | noEntry => rfl
      | completed i r hn =>
          rw [Sys.sent_table, Sys.emit_table, Sys.setEntry_table]
          apply update_kept
          rfl
      | down i r => rw [Sys.sent_table, Sys.emit_table]
  | unknown => apply Switches.kept (fun _ => rfl)

theorem marks_of_vital {e e' : DmlPppIfFull} (h : e'.vital = e.vital) :
  e'.marks = e.marks
  := congrArg (fun v => ((v.2.2.1.1, v.2.2.1.2.1), v.2.2.2.2)) h

theorem EnqueueEnds.marks {q : AnscStatus} (h : EnqueueEnds A s n q s') (i : ℕ) :
  (s'.table i).marks = (s.table i).marks
  := by
  cases h with
  | noEntry | refused => rfl
  | posted j hn =>
      rw [Sys.post_table, Sys.setEntry_table]
      apply update_kept
      rfl

theorem StartEnds.marks {q : AnscStatus} (h : StartEnds A b s n q s') (i : ℕ) :
  (s'.table i).marks = (s.table i).marks
  := by
  cases h with
  | noWanIface | alreadyRunning => rfl
  | rejected j e hn hi hstopped he =>
      obtain ⟨u, p, -, rfl⟩ := he
      rw [Sys.setEntry_table]
      apply update_kept
      rfl
  | launched j e cs command r w v hn hi hstopped he =>
      obtain ⟨u, p, -, rfl⟩ := he
      rw [Sys.systems_table, Sys.setEntry_table]
      apply update_kept
      rfl

theorem EventEnds.marks {ev : PppEventQData} {q : AnscStatus} (h : EventEnds A b s ev q s')
    (i : ℕ) :
  (s'.table i).marks = (s.table i).marks
  := by
  cases h with
  | invalid | busSet => rfl
  | exec q s' hpos haction h => apply h.marks

/-- A stop writes the marks of the entry of its instance only. -/
theorem StopEnds.marks {q : AnscStatus} (h : StopEnds A b s n q s') (i : ℕ) :
  (s'.table i).marks = (s.table i).marks ∨
    n = i + 1 ∧ (s'.table i).marks = (s.table i).stoppedMarks
  := by
  cases h with
  | noEntry => apply Or.inl rfl
  | stopped j r₁ r₂ r₃ hn =>
      simp only [stoppedState, Sys.sent_table, Sys.emit_table, Sys.setEntry_table]
      by_cases hj : i = j
      · obtain rfl := hj
        rw [Function.update_self]
        refine .inr ⟨hn, ?_⟩
        rw [stoppedEntry]
        split_ifs <;> rfl
      · rw [Function.update_of_ne hj]
        apply Or.inl rfl

/-! ### The entry points -/

/-- What an entry point does to the marks of the entry `i`, where the run gets the answers `A`. -/
inductive MarkStep (A : (o : Op) → o.Ans → Prop) (p : EntryPoint) (s : Sys) (i : ℕ)
    (e : DmlPppIfFull) : Prop
  | kept (h : e.marks = (s.table i).marks)
  | stopped (hstop : p.Stops s (i + 1)) (h : e.marks = (s.table i).stoppedMarks)
  | switched (m : IpcMsgPayload) (uptime : ULong) (id : Option ULong) (hp : p = .message m)
      (hfor : m.IsFor s i (¬ A (.psmGet psmPppManagerPppIfCount) false))
      (hup : m.pppEventMsg.pppState.writesLastChange = true → GivesUptime A uptime)
      (h : e = switchEntry m.pppEventMsg uptime id (s.table i))

theorem StopEnds.markStep {p : EntryPoint} {q : AnscStatus} (hp : p.Stops s n)
    (h : StopEnds A b s n q s') (i : ℕ) :
  MarkStep A p s i (s'.table i)
  := by
  obtain hkept | ⟨rfl, hstopped⟩ := h.marks i
  · apply MarkStep.kept hkept
  · apply MarkStep.stopped hp hstopped

theorem ResetEnds.markStep {p : EntryPoint} {r : Bool} (hp : p.Stops s n)
    (h : ResetEnds A b s n r s') (i : ℕ) :
  MarkStep A p s i (s'.table i)
  := by
  cases h with
  | notStopped h => apply h.markStep hp
  | stopped h h' =>
      have hmarks := h'.marks i
      obtain hkept | ⟨rfl, hstopped⟩ := h.marks i
      · apply MarkStep.kept (hmarks.trans hkept)
      · apply MarkStep.stopped hp (hmarks.trans hstopped)

theorem PppStateEnds.markStep {m : IpcMsgPayload} {q : AnscStatus} (hs : Numbered s)
    (h : PppStateEnds A b s m q s') (i : ℕ) :
  MarkStep A (.message m) s i (s'.table i)
  := by
  cases h with
  | ignored => apply MarkStep.kept rfl
  | dispatched j hj hcount hpid hfirst h htype =>
      obtain hkept | ⟨j', uptime, id, hk, hup, htable⟩ := h.switches
      · apply MarkStep.kept (marks_of_vital (hkept i))
      · rw [hs.toInt_instanceNumber hcount, Int.toNat_natCast] at hk
        obtain rfl := Nat.succ_inj.mp hk
        rw [htable]
        by_cases hij : i = j
        · obtain rfl := hij
          rw [Function.update_self]
          apply MarkStep.switched m uptime id rfl ⟨htype, hcount, hpid, hfirst⟩ hup rfl
        · rw [Function.update_of_ne hij]
          apply MarkStep.kept rfl

/-- What an entry point does to the marks of an entry. -/
theorem PointEnds.markStep {p : EntryPoint} (hs : Numbered s) (h : PointEnds A b s p s') (i : ℕ) :
  MarkStep A p s i (s'.table i)
  := by
  cases h with
  | quiet p hp h => apply MarkStep.kept (marks_of_vital (h.vital i))
  | getEntry nIndex =>
      apply MarkStep.kept
      rw [Sys.setEntry_table]
      apply update_kept
      rfl
  | message h => apply h.markStep hs
  | setEnable h =>
      cases h with
      | start h => apply MarkStep.kept (h.marks i)
      | stop h => apply h.markStep (.setDisabled _)
  | enable h =>
      cases h with
      | start h => apply MarkStep.kept (h.marks i)
      | stop h => apply h.markStep (.disable _)
  | setReset h henabled => apply h.markStep (.setReset _ _ henabled)
  | reset h => apply h.markStep (.reset _)
  | takeEvent hqueue h => exact .kept (h.marks i)
  | event h => apply MarkStep.kept (h.marks i)
  | start h => apply MarkStep.kept (h.marks i)
  | stop h => apply h.markStep (.stop _)

end

/-- A message that is for an entry where the count is readable in the run is for it where the count
is readable whenever the outside is asked. -/
theorem IpcMsgPayload.IsFor.readsCount {b : Build} {l : Access} {s : Sys} {i : ℕ}
    {m : IpcMsgPayload}
    (h : m.IsFor s i (¬ l.Gets b s (.psmGet psmPppManagerPppIfCount) false)) :
  m.IsFor s i l.ReadsCount
  where
    type := h.type
    covered := h.covered
    pid := h.pid
    first := by
      intro hreads
      apply h.first
      intro hgets
      obtain ⟨k, -, hk⟩ := hgets.exists
      rw [hreads k] at hk
      cases hk

end PppManager
