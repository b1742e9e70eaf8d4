import PppManager.Manager.Waiting
import PppManager.Manager.Sends
import Mathlib.Data.List.Forall2

/-!
# Deliveries

An event that sets a parameter travels from a thread that posts it through the queue to the event
thread, which writes it to the bus.  In every interleaving of the two threads the events are taken in
the order they are posted in, and each of them that sets a parameter is written once, in that order,
before the next one is taken (`delivered_in_order`).  So the status that was written last for an event
of the interface agrees with that of the interface once the events about it are taken
(`written_status_agrees`).

A write is a call that sets a parameter of the WAN manager.  Nothing is said of the instance pair that
the name of the parameter is made with, nor of whether the WAN manager accepts the value.
-/

namespace PppManager

open Effect Effect.Program Function CText

/-! ### The log of the event thread -/

/-- What the event thread does for the queue: it takes an event, or writes to the bus. -/
inductive Handling where
  | took (ev : PppEventQData)
  | wrote (component bus name value : CStr)

/-- A write to the bus. -/
abbrev BusWrite := CStr × CStr × CStr × CStr

/-- The event an item of the log takes. -/
def Handling.taken? : Handling → Option PppEventQData
  | .took ev => some ev
  | .wrote _ _ _ _ => none

/-- The write of an item of the log. -/
def Handling.write? : Handling → Option BusWrite
  | .took _ => none
  | .wrote component bus name value => some (component, bus, name, value)

/-- The write of an act. -/
def Act.write? : Act → Option BusWrite
  | .busSet component bus name value => some (component, bus, name, value)
  | _ => none

/-- The writes to the bus of a list of acts. -/
def busWrites (acts : List Act) : List BusWrite :=
  acts.filterMap Act.write?

/-- The event thread writes to the bus for the event. -/
def PppEventQData.IsWritten (ev : PppEventQData) : Prop :=
  0 < ev.pppIfInstance ∧ ev.action = .busSet ∧ ev.HasPaths

/-- The write is one for the event: of its value, to its parameter of some instance pair of the WAN
manager. -/
def PppEventQData.Writes (ev : PppEventQData) (w : BusWrite) : Prop :=
  ev.comPath = some w.1 ∧ ev.busPath = some w.2.1 ∧ (∃ pair, w.2.2.1 = ev.key pair) ∧
    w.2.2.2 = ev.val

/-- Every event of the log is handled: those that are written to the bus have been. -/
inductive Handled : List Handling → Prop
  | none : Handled []
  | other (h : List Handling) (ev : PppEventQData) (hh : Handled h) (hev : ¬ ev.IsWritten) :
      Handled (h ++ [.took ev])
  | written (h : List Handling) (ev : PppEventQData) (component bus name value : CStr)
      (hh : Handled h) (hev : ev.IsWritten) (hw : ev.Writes (component, bus, name, value)) :
      Handled (h ++ [.took ev, .wrote component bus name value])

/-- Every event of the log but perhaps the last one is handled. -/
inductive AlmostHandled : List Handling → Prop
  | handled (h : List Handling) (hh : Handled h) : AlmostHandled h
  | last (h : List Handling) (ev : PppEventQData) (hh : Handled h) : AlmostHandled (h ++ [.took ev])

/-- The meaning of the operations for the log. -/
def logStep : (o : Op) → o.Res → List Handling → Except Unit (o.Res × List Handling)
  | .mqReceive, none, h => .ok (none, h)
  | .mqReceive, some ev, h => .ok (some ev, h ++ [.took ev])
  | .busSet component bus name value, r, h => .ok (r, h ++ [.wrote component bus name value])
  | _, r, h => .ok (r, h)

/-- The machine of a thread with its log. -/
@[reducible] def logMachine : Machine sig (List Handling) Unit where
  Ans := Op.Res
  step := logStep

/-- The operation takes no event and does not write to the bus. -/
def Op.IsUnlogged : Op → Prop
  | .mqReceive => False
  | .busSet _ _ _ _ => False
  | _ => True

/-- The operation may be performed with the log: an event is taken only when those before are handled,
and a write is that of the event taken last. -/
def Op.SafeWith : Op → List Handling → Prop
  | .mqReceive, h => Handled h
  | .busSet component bus name value, h =>
    ∃ h₀ ev, h = h₀ ++ [.took ev] ∧ Handled h₀ ∧ ev.IsWritten ∧
      ev.Writes (component, bus, name, value)
  | _, _ => True

/-- The contract of a thread with its log; only the event thread has one. -/
def logging (t : Thread) : Contract logMachine where
  Allows := fun _ _ => True
  Safe := fun o h => o.SafeWith h ∧ (t = .dataModel → o.IsUnlogged)
  Admits := fun _ => True

section

variable {t : Thread} {b : Build} {h : List Handling} {α : Type} {n i : ℕ}

/-! ### Rules -/

theorem Op.IsUnlogged.step {o : Op} (ho : o.IsUnlogged) (r : o.Res) :
  logStep o r h = .ok (r, h)
  := by
  cases o with
  | mqReceive | busSet => apply ho.elim
  | _ => rfl

theorem Op.IsUnlogged.safeWith {o : Op} (ho : o.IsUnlogged) :
  o.SafeWith h
  := by
  cases o with
  | mqReceive | busSet => apply ho.elim
  | _ => trivial

/-- A program that takes no event and does not write to the bus. -/
theorem logging_unlogged {p : Code α} (hp : Only Op.IsUnlogged p) {Q : α → List Handling → Prop}
    (hQ : ∀ a, Q a h) :
  (logging t).wp p Q h
  := by
  have hkept : (logging t).wp p (fun _ h' => h' = h) h := by
    apply Contract.wp_of_only (P := Op.IsUnlogged) (I := fun h' => h' = h) _ _ hp rfl
    · intro o h' ho _
      exact ⟨ho.safeWith, fun _ => ho⟩
    · rintro o r h' ho - rfl
      rw [show logMachine.step o r h' = .ok (r, h') from ho.step r]
  apply Contract.wp_mono _ hkept
  rintro a h' rfl
  apply hQ

/-! ### Programs without a log -/

theorem unlogged_op {o : Op} (ho : o.IsUnlogged) :
  Only Op.IsUnlogged (perform o)
  := reads_op ho

theorem unlogged_quiet {C : Prop} {p : Code α} (hp : Only (Op.IsQuiet C) p) :
  Only Op.IsUnlogged p
  := by
  apply hp.mono
  intro o ho
  cases o with
  | mqReceive | busSet => apply ho.elim
  | _ => trivial

theorem unlogged_local {K : (DmlPppIfFull → DmlPppIfFull) → Prop} {W C : Prop} {p : Code α}
    (hp : Only (Op.OnEntry K W C i) p) :
  Only Op.IsUnlogged p
  := by
  apply hp.mono
  intro o ho
  cases o with
  | mqReceive | busSet => apply ho.elim
  | _ => trivial

theorem unlogged_queries {p : Code α} (hp : Only Op.IsQuery p) :
  Only Op.IsUnlogged p
  := unlogged_quiet (C := True) (hp.mono (fun _ ho => ho.isQuietRead.1))

theorem unlogged_getIfaceDataLocked :
  Only Op.IsUnlogged (getIfaceDataLocked n)
  := only_getIfaceDataLocked (P := Op.IsUnlogged) trivial (fun _ => trivial)

theorem unlogged_load :
  Only Op.IsUnlogged (load i)
  := unlogged_op (o := .load i) trivial

theorem unlogged_store (f : DmlPppIfFull → DmlPppIfFull) :
  Only Op.IsUnlogged (store i f)
  := unlogged_op (o := .store i f) trivial

theorem unlogged_done (a : α) :
  Only Op.IsUnlogged (do getIfaceDataRelease i; pure a)
  := by
  apply only_bind (unlogged_op (o := .unlock i) trivial)
  intro _
  apply only_pure

theorem unlogged_sendDataToQ (ev : PppEventQData) :
  Only Op.IsUnlogged (sendDataToQ ev)
  := by
  apply only_bind (unlogged_op (o := .mqOpen) trivial)
  rintro (_ | _)
  · apply only_pure
  · apply only_bind (unlogged_op (o := .mqSend ev) trivial)
    rintro (_ | _) <;> apply only_pure

theorem unlogged_stopPppClient :
  Only Op.IsUnlogged (stopPppClient b n)
  := by
  apply only_bind unlogged_getIfaceDataLocked
  rintro (_ | i)
  · apply only_pure
  · apply only_bind (unlogged_store _)
    intro _
    apply only_bind (unlogged_local (W := True) local_stopClient)
    intro _
    apply only_bind (unlogged_store _)
    intro _
    apply only_bind (unlogged_op (o := .unlock i) trivial)
    intro _
    apply only_bind (unlogged_sendDataToQ _)
    intro _
    apply only_bind (unlogged_sendDataToQ _)
    intro _
    apply only_bind (unlogged_sendDataToQ _)
    intro _
    apply only_pure

theorem unlogged_sendPppdStartEventToQ :
  Only Op.IsUnlogged (sendPppdStartEventToQ n)
  := by
  apply only_bind unlogged_getIfaceDataLocked
  rintro (_ | i)
  · apply only_pure
  · apply only_bind unlogged_load
    intro pEntry
    apply only_bind (unlogged_sendDataToQ _)
    rintro (_ | _)
    · apply only_bind (unlogged_store _)
      intro _
      apply unlogged_done
    · apply unlogged_done

theorem unlogged_enableIf (enable : Bool) :
  Only Op.IsUnlogged (enableIf b n enable)
  := by
  apply only_ite
  · intro _
    apply only_bind unlogged_sendPppdStartEventToQ
    rintro (_ | _) <;> apply only_pure
  · intro _
    apply only_bind unlogged_stopPppClient
    rintro (_ | _) <;> apply only_pure

theorem unlogged_pppDmlIfReset :
  Only Op.IsUnlogged (pppDmlIfReset b n)
  := by
  apply only_bind unlogged_stopPppClient
  rintro (_ | _)
  · apply only_bind unlogged_sendPppdStartEventToQ
    rintro (_ | _) <;> apply only_pure
  · apply only_pure

theorem unlogged_writeBoolParam (paramName : CStr) (v : Bool) :
  Only Op.IsUnlogged (writeBoolParam b i paramName v)
  := by
  have hwrite : ∀ f, Only Op.IsUnlogged (do store i f; pure true) := by
    intro f
    apply only_bind (unlogged_store f)
    intro _
    apply only_pure
  rw [writeBoolParam]
  split_ifs
  · apply only_bind unlogged_load
    intro pEntry
    apply unlogged_enableIf
  · apply hwrite
  · apply hwrite
  · apply only_bind unlogged_load
    intro pEntry
    apply only_ite
    · intro _
      apply unlogged_pppDmlIfReset
    · intro _
      apply only_pure
  · apply only_pure

theorem unlogged_setter (w : Setter) :
  Only Op.IsUnlogged (w.code b)
  := by
  cases hw : w.isRequest with
  | false => apply unlogged_quiet (quiet_setter hw)
  | true =>
      cases w with
      | interfaceBool i paramName v =>
          apply only_bind (unlogged_op (o := .lock i) trivial)
          intro _
          apply only_bind (unlogged_writeBoolParam paramName v)
          intro q
          apply unlogged_done (i := i)
      | _ => cases hw

theorem unlogged_processStateChangedMsg (k : ℤ) (msg : IpcPppEventMsg) :
  Only Op.IsUnlogged (processStateChangedMsg b k msg)
  := by
  apply only_ite
  · intro _
    apply only_pure
  · intro _
    apply only_bind unlogged_getIfaceDataLocked
    rintro (_ | i)
    · apply only_pure
    · apply only_bind (unlogged_local (W := True) (local_switchPppState msg))
      rintro (_ | wanPppLinkStatus)
      · apply unlogged_done
      · apply only_bind unlogged_load
        intro pEntry
        apply only_bind (unlogged_sendDataToQ _)
        rintro (_ | _)
        · apply only_bind (unlogged_sendDataToQ _)
          rintro (_ | _) <;> apply unlogged_done
        · apply unlogged_done

theorem unlogged_storeIpcpParams (msg : PppIpcpMsg) :
  Only Op.IsUnlogged (storeIpcpParams b i msg)
  := by
  have hreject : Only Op.IsUnlogged (rejectIpcpParams b i) := by
    apply only_bind unlogged_load
    intro pEntry
    apply only_bind (unlogged_sendDataToQ _)
    intro _
    apply unlogged_done
  rw [storeIpcpParams]
  apply only_bind (unlogged_store _)
  intro _
  apply only_bind (unlogged_store _)
  intro _
  apply only_bind (unlogged_store _)
  intro _
  obtain ⟨ip, ret⟩ := dmlSetIp4Param msg.ip (fun _ => 0)
  apply only_bind (unlogged_store _)
  intro _
  cases ret with
  | failure => apply hreject
  | success =>
      obtain ⟨gateway, ret⟩ := dmlSetIp4Param msg.gateway (fun _ => 0)
      apply only_bind (unlogged_store _)
      intro _
      cases ret with
      | failure => apply hreject
      | success =>
          dsimp only
          cases dnsServersOf (strtok ',' msg.nameserver) with
          | none => apply hreject
          | some dnsServers =>
              apply only_bind (unlogged_store _)
              intro _
              apply only_bind unlogged_load
              intro pEntry
              apply only_bind (unlogged_sendDataToQ _)
              rintro (_ | _) <;> apply unlogged_done

theorem unlogged_processIpcpParams (k : ℤ) (msg : IpcPppEventMsg) :
  Only Op.IsUnlogged (processIpcpParams b k msg)
  := by
  have hdown : Only Op.IsUnlogged (do
      let _ ← setIPCPStatusDown b k
      pure AnscStatus.failure) := by
    apply only_bind (unlogged_sendDataToQ _)
    intro _
    apply only_pure
  rw [processIpcpParams]
  split_ifs
  · apply only_pure
  · apply hdown
  · apply hdown
  · apply only_bind unlogged_getIfaceDataLocked
    rintro (_ | i)
    · apply only_pure
    · apply unlogged_storeIpcpParams

theorem unlogged_processIpv6cpParams (k : ℤ) (msg : IpcPppEventMsg) :
  Only Op.IsUnlogged (processIpv6cpParams b k msg)
  := by
  rw [processIpv6cpParams]
  split_ifs
  · apply only_pure
  · apply only_bind unlogged_getIfaceDataLocked
    rintro (_ | i)
    · apply only_pure
    · apply only_bind unlogged_load
      intro pEntry
      apply only_bind (unlogged_local (W := True) (local_storeIpv6cpParams _))
      intro _
      apply only_bind (unlogged_op (o := .generateDuidFile _) trivial)
      intro _
      apply only_bind (unlogged_sendDataToQ _)
      rintro (_ | _) <;> apply unlogged_done
  · apply only_bind unlogged_getIfaceDataLocked
    rintro (_ | i)
    · apply only_pure
    · apply only_bind unlogged_load
      intro pEntry
      apply only_bind (unlogged_op (o := .removeDuidFile _) trivial)
      intro _
      apply only_bind (unlogged_sendDataToQ _)
      intro _
      apply unlogged_done

theorem unlogged_getIfaceDataWithPid (pid : ℤ) :
  Only Op.IsUnlogged (getIfaceDataWithPid pid)
  := by
  have hloop : ∀ j k, Only Op.IsUnlogged (getIfaceDataWithPidLoop pid j k) := by
    intro j k
    induction k generalizing j with
    | zero => apply only_pure
    | succ k ih =>
        apply only_bind unlogged_getIfaceDataLocked
        rintro (_ | i)
        · apply ih
        · apply only_bind unlogged_load
          intro pEntry
          apply only_ite
          · intro _
            apply unlogged_done
          · intro _
            apply only_bind (unlogged_op (o := .unlock i) trivial)
            intro _
            apply ih
  apply only_bind (unlogged_queries reads_dmlGetTotalNoOfPPPInterfaces)
  intro total
  apply hloop

theorem unlogged_processPppState (m : IpcMsgPayload) :
  Only Op.IsUnlogged (processPppState b m)
  := by
  apply only_ite
  · intro _
    apply only_pure
  · intro _
    apply only_bind (unlogged_getIfaceDataWithPid _)
    intro k
    apply only_ite
    · intro _
      apply only_pure
    · intro _
      rw [dispatchPppState]
      cases m.pppEventMsg.pppState with
      | ipcpCompleted | ipcpFailed => apply unlogged_processIpcpParams
      | ipv6cpCompleted | ipv6cpFailed => apply unlogged_processIpv6cpParams
      | unknown code => apply only_pure
      | _ => apply unlogged_processStateChangedMsg

theorem unlogged_startPppClient :
  Only Op.IsUnlogged (startPppClient b n)
  := by
  have hlaunch : ∀ i w v, Only Op.IsUnlogged (launchPppClient b i w v) := by
    intro i w v
    apply (launchStep_launchPppClient w v).mono
    intro o ho
    cases o with
    | mqReceive | busSet => apply ho.elim
    | _ => trivial
  rw [startPppClient_eq]
  apply only_bind (unlogged_queries (reads_getWanIfaceInstance _ _ _))
  rintro ⟨_, w, v⟩
  apply only_ite
  · intro _
    apply only_pure
  · intro _
    apply only_bind unlogged_getIfaceDataLocked
    rintro (_ | i)
    · apply reads_undefined (P := Op.IsUnlogged) trivial
    · apply only_bind unlogged_load
      intro pEntry
      apply only_bind (unlogged_queries (reads_checkPidExist _))
      rintro (_ | _)
      · apply unlogged_done
      · apply hlaunch

/-! ### Events -/

/-- The handling of an event that is not written to the bus. -/
theorem unlogged_processPppEvent {ev : PppEventQData} (hev : ¬ ev.IsWritten) :
  Only Op.IsUnlogged (processPppEvent b ev)
  := by
  obtain ⟨action, inst, keyPath, comPath, busPath, val⟩ := ev
  rw [processPppEvent]
  dsimp only
  split_ifs with hpos
  · apply only_pure
  · cases action with
    | execPppClient =>
        apply only_bind unlogged_startPppClient
        intro _
        apply only_pure
    | busSet =>
        rcases keyPath with _ | keyPath
        · apply only_pure
        rcases comPath with _ | comPath
        · apply only_pure
        rcases busPath with _ | busPath
        · apply only_pure
        exfalso
        apply hev
        use Int.not_le.mp hpos, rfl
        refine ⟨?_, ?_, ?_⟩ <;> apply Option.some_ne_none

/-- The event thread takes an event and handles it. -/
theorem logging_handleQueue (hh : Handled h) :
  (logging .event).wp (handleQueue b) (fun _ => Handled) h
  := by
  rw [handleQueue, Contract.wp_bind, mqReceive, perform, Contract.wp_perform]
  constructor
  · use hh
    rintro ⟨⟩
  · rintro (_ | ev) _
    · apply hh
    · show (logging .event).wp _ _ (h ++ [.took ev])
      dsimp only
      rw [Contract.wp_bind]
      by_cases hev : ev.IsWritten
      · obtain ⟨hpos, haction, hkey, hcom, hbus⟩ := id hev
        obtain ⟨keyPath, hkey⟩ := Option.ne_none_iff_exists'.mp hkey
        obtain ⟨comPath, hcom⟩ := Option.ne_none_iff_exists'.mp hcom
        obtain ⟨busPath, hbus⟩ := Option.ne_none_iff_exists'.mp hbus
        rw [processPppEvent, if_neg (Int.not_le.mpr hpos), haction, hkey, hcom, hbus]
        dsimp only
        rw [Contract.wp_bind]
        apply logging_unlogged
        · apply only_bind unlogged_getIfaceDataLocked
          rintro (_ | i)
          · apply only_pure
          · apply only_bind unlogged_load
            intro pEntry
            apply unlogged_done
        · rintro ⟨w, v⟩
          have hwrites : ev.Writes
              (comPath, busPath, snprintf 255 keyPath [.int w, .int v], ev.val) := by
            refine ⟨hcom, hbus, ⟨(w, v), ?_⟩, rfl⟩
            rw [PppEventQData.key, hkey]
            rfl
          rw [dmlWanmanagerSetParamValues, Contract.wp_bind, busSet, perform, Contract.wp_perform]
          constructor
          · use ⟨h, ev, rfl, hh, hev, hwrites⟩
            rintro ⟨⟩
          · rintro ⟨success, faultParam⟩ _
            have hdone := Handled.written h ev comPath busPath _ _ hh hev hwrites
            rw [show h ++ [.took ev, .wrote comPath busPath
              (snprintf 255 keyPath [.int w, .int v]) ev.val] = (h ++ [.took ev]) ++ [.wrote comPath
                busPath (snprintf 255 keyPath [.int w, .int v]) ev.val] by simp] at hdone
            cases success <;> cases faultParam <;> apply hdone
      · apply logging_unlogged (unlogged_processPppEvent hev)
        intro _
        apply Handled.other h ev hh hev

/-! ### The two threads -/

/-- What the threads have logged fits the state: the events have been posted in the order in which they
are taken and wait in the queue, and the writes are those of the log. -/
structure LogFits (v : Thread → List Handling) (s : Sys) : Prop where
  dataModel : v .dataModel = []
  order : events s.acts = (v .event).filterMap Handling.taken? ++ s.queue
  writes : busWrites s.acts = (v .event).filterMap Handling.write?
  shape : AlmostHandled (v .event)

theorem busWrites_concat (acts : List Act) (a : Act) :
  busWrites (acts ++ [a]) = busWrites acts ++ a.write?.toList
  := by
  rw [busWrites, List.filterMap_append, busWrites]
  congr 1

/-- An operation without a log sends the events that it adds to the queue, and writes nothing to the
bus. -/
theorem step_unlogged {o : Op} (ho : o.IsUnlogged) {a : o.Ans} {s s' : Sys} {q : o.Res}
    (hstep : step t o a s = .ok (q, s')) :
  ∃ evs, Sends evs s s' ∧ busWrites s'.acts = busWrites s.acts
  := by
  have hkept : s'.queue = s.queue → s'.acts = s.acts →
      ∃ evs, Sends evs s s' ∧ busWrites s'.acts = busWrites s.acts := by
    intro hqueue hacts
    use []
    rw [hacts]
    use sends_nil hqueue (by rw [hacts])
  have hemit : ∀ {a : Act}, a.sent? = none → a.write? = none →
      ∃ evs, Sends evs s (s.emit a) ∧ busWrites (s.emit a).acts = busWrites s.acts := by
    intro a hsent hwrite
    use [], (sends_self s).emit hsent
    rw [Sys.emit_acts, busWrites_concat, hwrite, Option.toList_none, List.append_nil]
  cases o with
  | mqReceive | busSet => apply ho.elim
  | lock i | load i | store i f =>
      rw [step] at hstep
      split_ifs at hstep
      obtain ⟨-, rfl⟩ := Prod.mk.inj (Except.ok.inj hstep)
      apply hkept rfl rfl
  | unlock i =>
      rw [step] at hstep
      split at hstep
      · split_ifs at hstep
        obtain ⟨-, rfl⟩ := Prod.mk.inj (Except.ok.inj hstep)
        apply hkept rfl rfl
      · cases hstep
  | undefined u => cases hstep
  | mqSend ev =>
      rw [step] at hstep
      split_ifs at hstep
      · obtain ⟨-, rfl⟩ := Prod.mk.inj (Except.ok.inj hstep)
        use [ev], (sends_self s).post
        rw [Sys.post_acts, busWrites_concat]
        apply List.append_nil
      · obtain ⟨-, rfl⟩ := Prod.mk.inj (Except.ok.inj hstep)
        apply hkept rfl rfl
  | psmSet name value =>
      obtain ⟨-, rfl⟩ := Prod.mk.inj (Except.ok.inj hstep)
      cases a with
      | false => apply hkept rfl rfl
      | true => apply hkept rfl rfl
  | generateDuidFile | removeDuidFile | system | kill =>
      obtain ⟨-, rfl⟩ := Prod.mk.inj (Except.ok.inj hstep)
      apply hemit rfl rfl
  | _ =>
      obtain ⟨-, rfl⟩ := Prod.mk.inj (Except.ok.inj hstep)
      apply hkept rfl rfl

namespace LogFits

variable {v : Thread → List Handling} {s s' : Sys}

theorem unlogged (h : LogFits v s) {o : Op} (ho : o.IsUnlogged) {a : o.Ans} {q : o.Res}
    (hstep : PppManager.step t o a s = .ok (q, s')) :
  LogFits v s'
  := by
  obtain ⟨evs, hsends, hwrites⟩ := step_unlogged ho hstep
  constructor
  · apply h.dataModel
  · rw [hsends.acts, hsends.queue, h.order, List.append_assoc]
  · rw [hwrites, h.writes]
  · apply h.shape

/-- The event thread takes an event. -/
theorem took (h : LogFits v s) {ev : PppEventQData} {evs : List PppEventQData}
    (hqueue : s.queue = ev :: evs) (hh : Handled (v .event)) :
  LogFits (update v .event (v .event ++ [.took ev])) { s with queue := evs }
  where
    dataModel := by
      rw [update_of_ne (by decide)]
      apply h.dataModel
    order := by
      rw [update_self, List.filterMap_append, h.order, hqueue, List.append_assoc]
      rfl
    writes := by
      rw [update_self, List.filterMap_append, h.writes]
      symm
      apply List.append_nil
    shape := by
      rw [update_self]
      apply AlmostHandled.last _ ev hh

/-- The event thread writes to the bus. -/
theorem wrote (h : LogFits v s) {component bus name value : CStr}
    (hsafe : (Op.busSet component bus name value).SafeWith (v .event)) :
  LogFits (update v .event (v .event ++ [.wrote component bus name value]))
    (s.emit (.busSet component bus name value))
  where
    dataModel := by
      rw [update_of_ne (by decide)]
      apply h.dataModel
    order := by
      rw [update_self, List.filterMap_append, Sys.emit_acts, events_concat, h.order]
      simp [Handling.taken?, Act.sent?]
    writes := by
      rw [update_self, List.filterMap_append, Sys.emit_acts, busWrites_concat, h.writes]
      rfl
    shape := by
      obtain ⟨h₀, ev, heq, hh, hev, hw⟩ := hsafe
      rw [update_self, heq, List.append_assoc]
      apply AlmostHandled.handled
      apply Handled.written h₀ ev component bus name value hh hev hw

theorem step (h : LogFits v s) {o : Op} {a : o.Ans} {q : o.Res}
    (hsafe : (logging t).Safe o (v t)) (hstep : PppManager.step t o a s = .ok (q, s')) :
  ∃ k, logStep o q (v t) = .ok (q, k) ∧ LogFits (update v t k) s'
  := by
  have hkept : o.IsUnlogged → ∃ k, logStep o q (v t) = .ok (q, k) ∧ LogFits (update v t k) s' := by
    intro ho
    use v t, ho.step q
    rw [update_eq_self]
    apply h.unlogged ho hstep
  obtain ⟨hsafe, hdata⟩ := hsafe
  cases t with
  | dataModel => apply hkept (hdata rfl)
  | event =>
      cases o with
      | mqReceive =>
          rw [PppManager.step] at hstep
          cases hqueue : s.queue with
          | nil =>
              rw [hqueue] at hstep
              obtain ⟨rfl, rfl⟩ := Prod.mk.inj (Except.ok.inj hstep)
              use v .event, rfl
              rw [update_eq_self]
              apply h
          | cons ev evs =>
              rw [hqueue] at hstep
              obtain ⟨rfl, rfl⟩ := Prod.mk.inj (Except.ok.inj hstep)
              exact ⟨_, rfl, h.took hqueue hsafe⟩
      | busSet component bus name value =>
          obtain ⟨-, rfl⟩ := Prod.mk.inj (Except.ok.inj hstep)
          exact ⟨_, rfl, h.wrote hsafe⟩
      | _ => apply hkept trivial

end LogFits

/-- What the threads have logged. -/
def logViews : Views machine (List Handling) Unit Unit where
  view := logMachine
  contract := logging
  Fits := fun _ => LogFits
  Answers := fun _ _ _ => True
  Rests := Handled
  Evolves := fun _ _ => True
  step := fun {_ _ _ _ _ _ q _} h hsafe _ hstep => by
    obtain ⟨k, hview, hfits⟩ := h.step hsafe hstep
    exact ⟨(), q, k, trivial, hview, .inl rfl, hfits⟩

/-! ### Runs -/

/-- An entry point that is begun is not the handling of an event by itself: the event thread takes the
events it handles from the queue. -/
def TakesEvents : PointMove → Prop
  | .enter _ (.event _) => False
  | _ => True

/-- The entry points that take no event and do not write to the bus. -/
theorem unlogged_point {p : EntryPoint} (htake : p ≠ .takeEvent) (hevent : ∀ ev, p ≠ .event ev) :
  Only Op.IsUnlogged (p.code b)
  := by
  cases p with
  | takeEvent => apply absurd rfl htake
  | event ev => apply absurd rfl (hevent ev)
  | getter g => apply unlogged_quiet (C := True) (quiet_getter g)
  | setter w => apply only_map (unlogged_setter w)
  | constant => apply only_pure
  | getEntryCount => apply only_map (unlogged_queries reads_dmlGetTotalNoOfPPPInterfaces)
  | getEntry nIndex =>
      apply only_map
      apply only_bind (unlogged_op (o := .lock nIndex) trivial)
      intro _
      apply only_bind (unlogged_store _)
      intro _
      apply unlogged_done
  | validate i =>
      have hquiet := (quiet_interfaceValidate (C := True) i).mono (fun _ ho => ho.1)
      apply only_map (unlogged_quiet hquiet)
  | message m => apply only_map (unlogged_processPppState m)
  | start n => apply only_map unlogged_startPppClient
  | stop n => apply only_map unlogged_stopPppClient
  | enable n v => apply only_map (unlogged_enableIf v)
  | reset n => apply only_map unlogged_pppDmlIfReset

/-- An entry point that is begun keeps to the contract. -/
theorem admits_of_takesEvents {l : PointMove} (hl : TakesEvents l) (w : Threads) :
  logViews.Admits (enters b) l w
  where
    job := by
      rintro t p q s' rfl henters
      rw [enters] at henters
      split_ifs at henters with ht
      obtain ⟨rfl, rfl⟩ := Prod.mk.inj (Option.some.inj henters)
      use rfl
      intro k hk
      by_cases htake : p = .takeEvent
      · obtain rfl := htake
        obtain rfl := ht
        apply logging_handleQueue hk
      · apply logging_unlogged (unlogged_point htake _)
        · intro _
          apply hk
        · rintro ev rfl
          apply hl
    answers := fun _ _ _ _ => trivial

/-- The events of a list that set a parameter. -/
def busSets (evs : List PppEventQData) : List PppEventQData :=
  evs.filter fun ev => ev.action = .busSet

/-- In a log of events with their texts, the writes are those of the events that set a parameter. -/
theorem Handled.forall₂ {c : ℕ} (hh : Handled h)
    (hposts : ∀ ev ∈ h.filterMap Handling.taken?, ev.WellFormed c) :
  List.Forall₂ PppEventQData.Writes (busSets (h.filterMap Handling.taken?))
    (h.filterMap Handling.write?)
  := by
  induction hh with
  | none => apply List.Forall₂.nil
  | other h ev hh hev ih =>
      rw [List.filterMap_append] at hposts
      have hwell : ev.WellFormed c := by
        apply hposts ev
        apply List.mem_append_right _ (List.mem_singleton.mpr rfl)
      have haction : ev.action ≠ .busSet :=
        fun haction => hev ⟨hwell.pos, haction, hwell.paths haction⟩
      have hnone : busSets [ev] = [] := List.filter_cons_of_neg (by rw [decide_eq_true_iff]; apply haction)
      rw [List.filterMap_append, List.filterMap_append, busSets, List.filter_append]
      apply List.rel_append (ih fun ev' hev' => hposts ev' (List.mem_append_left _ hev'))
      show List.Forall₂ _ (busSets [ev]) []
      rw [hnone]
      apply List.Forall₂.nil
  | written h ev component bus name value hh hev hw ih =>
      have hone : busSets [ev] = [ev] := List.filter_cons_of_pos (by rw [decide_eq_true_iff]; apply hev.2.1)
      rw [List.filterMap_append] at hposts
      rw [List.filterMap_append, List.filterMap_append, busSets, List.filter_append]
      apply List.rel_append (ih fun ev' hev' => hposts ev' (List.mem_append_left _ hev'))
      show List.Forall₂ _ (busSets [ev]) [(component, bus, name, value)]
      rw [hone]
      apply List.Forall₂.cons hw .nil

/-- In every run that has taken its events from the queue, what the event thread has taken and written
fits the state, and every event that has been posted has its texts. -/
theorem run_logged {s : Sys} {ls : List PointMove} {w : Threads} (hs : Initial s)
    (hls : ∀ l ∈ ls, TakesEvents l) (hrun : run (Threads.go b) ls (Pool.idle s) = some w) :
  logViews.Good () w
  := by
  have hgood : logViews.Good () (Pool.idle s : Threads) := by
    apply Views.good_idle (v := fun _ => [])
    · constructor
      · rfl
      · rw [hs.acts, hs.queue]
        rfl
      · rw [hs.acts]
        rfl
      · apply AlmostHandled.handled _ .none
    · intro _
      apply Handled.none
  have hadmits : Throughout (Pool.next (enters b)) (logViews.Admits (enters b)) ls (Pool.idle s) := by
    apply throughout_of_forall
    intro l hl w
    apply admits_of_takesEvents (hls l hl)
  obtain ⟨⟨⟩, -, h⟩ := Views.run_good hgood hadmits hrun
  apply h

theorem mem_events {acts : List Act} {ev : PppEventQData} :
  ev ∈ events acts ↔ Act.post ev ∈ acts
  := by
  rw [events, List.mem_filterMap]
  constructor
  · rintro ⟨a, ha, hsent⟩
    cases a with
    | post ev' =>
        obtain rfl := Option.some.inj hsent
        apply ha
    | _ => cases hsent
  · intro h
    exact ⟨_, h, rfl⟩

/-- Where the threads keep to their contracts, the events are taken in order and are written in order. -/
theorem delivered_of_good {A : Prop} {r : Option CStr} {g : ℕ → DmlPppIfFull} {w : Threads}
    (hgood : (sectionViews b r A).Good g w) (hlogged : logViews.Good () w) :
  ∃ taken done, events w.state.acts = taken ++ w.state.queue ∧
    (taken = done ∨ (w.code .event).isDone = false ∧ ∃ ev, taken = done ++ [ev]) ∧
    List.Forall₂ PppEventQData.Writes (busSets done) (busWrites w.state.acts)
  := by
  obtain ⟨v, hfits, hrests, -⟩ := hlogged.safe
  have hposts : ∀ ev ∈ (v .event).filterMap Handling.taken?,
      ev.WellFormed (pppIfCountOf r).toNat := by
    intro ev hev
    apply (disciplined_of_good hgood).posts
    rw [← mem_events, hfits.order]
    apply List.mem_append_left _ hev
  refine ⟨(v .event).filterMap Handling.taken?, ?_⟩
  rw [hfits.writes]
  cases hdone : (w.code .event).isDone with
  | true => exact ⟨_, hfits.order, .inl rfl, Handled.forall₂ (hrests _ hdone) hposts⟩
  | false =>
      obtain ⟨h, heq⟩ : ∃ h, v .event = h := ⟨_, rfl⟩
      have hshape := hfits.shape
      have horder := hfits.order
      rw [heq] at hshape horder hposts ⊢
      cases hshape with
      | handled h hh => exact ⟨_, horder, .inl rfl, hh.forall₂ hposts⟩
      | last h ev hh =>
          refine ⟨h.filterMap Handling.taken?, horder, .inr ⟨rfl, ev, ?_⟩, ?_⟩
          · rw [List.filterMap_append]
            rfl
          · rw [List.filterMap_append] at hposts ⊢
            rw [show [Handling.took ev].filterMap Handling.write? = [] from rfl, List.append_nil]
            apply hh.forall₂
            intro ev' hev'
            apply hposts ev' (List.mem_append_left _ hev')

/-- However the operations of the two threads interleave, the events are taken in the order they have
been posted in, and the writes to the bus are those of the events that have been taken and set a
parameter, one for each, in that order; only the last event that has been taken may not be handled
yet, while the event thread is at work. -/
theorem delivered_in_order {s : Sys} {ls : List PointMove} {w : Threads} (hs : Initial s)
    (hls : ∀ l ∈ ls, HandledBelow s.pppIfCount.toNat l ∧ TakesEvents l)
    (hrun : run (Threads.go b) ls (Pool.idle s) = some w) :
  ∃ taken done, events w.state.acts = taken ++ w.state.queue ∧
    (taken = done ∨ (w.code .event).isDone = false ∧ ∃ ev, taken = done ++ [ev]) ∧
    List.Forall₂ PppEventQData.Writes (busSets done) (busWrites w.state.acts)
  := by
  obtain ⟨g, -, hgood⟩ := run_sections False hs (fun l hl => (hls l hl).1) False.elim hrun
  apply delivered_of_good hgood (run_logged hs (fun l hl => (hls l hl).2) hrun)

/-! ### What is written of a status -/

/-- The last LCP status that is written to the bus for an event of the instance `n`, where `ws` are the
writes of the events `es`, whatever pair they are written with. -/
def lastLcpWritten (b : Build) (n : ℤ) (es : List PppEventQData) (ws : List BusWrite) :
    Option CStr :=
  (es.zip ws).foldl (fun v p => ((lcpValue b n (.post p.1)).map fun _ => p.2.2.2.2).or v) none

/-- The last LCP status that some events tell, after `v` was told. -/
def lcpAfter (b : Build) (n : ℤ) (es : List PppEventQData) (v : Option CStr) : Option CStr :=
  es.foldl (fun v ev => (lcpValue b n (.post ev)).or v) v

variable {n : ℤ} {es : List PppEventQData} {ws : List BusWrite} {v : Option CStr}

/-- The acts that are no posts tell nothing. -/
theorem lastLcp_eq_lcpAfter (acts : List Act) :
  lastLcp b n acts = lcpAfter b n (events acts) none
  := by
  have h : ∀ v, acts.foldl (fun v a => (lcpValue b n a).or v) v =
      lcpAfter b n (events acts) v := by
    induction acts with
    | nil =>
        intro v
        rfl
    | cons a acts ih =>
        intro v
        rw [List.foldl_cons, ih]
        cases a <;> rfl
  apply h

/-- Events that tell nothing. -/
theorem lcpAfter_quiet (h : ∀ ev ∈ es, lcpValue b n (.post ev) = none) :
  lcpAfter b n es v = v
  := by
  induction es with
  | nil => rfl
  | cons ev es ih =>
      rw [lcpAfter, List.foldl_cons, h ev List.mem_cons_self]
      apply ih
      intro ev' hev'
      apply h ev' (List.mem_cons_of_mem _ hev')

/-- The events that set no parameter tell nothing. -/
theorem lcpAfter_busSets (h : ∀ ev ∈ es, ev.action ≠ .busSet → ev.keyPath = none) :
  lcpAfter b n (busSets es) v = lcpAfter b n es v
  := by
  induction es generalizing v with
  | nil => rfl
  | cons ev es ih =>
      have ih' := fun v => ih (v := v) fun ev' hev' => h ev' (List.mem_cons_of_mem _ hev')
      by_cases haction : ev.action = .busSet
      · rw [busSets, List.filter_cons_of_pos (by rw [decide_eq_true_iff]; apply haction)]
        apply ih'
      · have hnone : lcpValue b n (.post ev) = none := by
          rw [lcpValue, if_neg]
          rintro ⟨hkey, -⟩
          rw [h ev List.mem_cons_self haction] at hkey
          cases hkey
        rw [busSets, List.filter_cons_of_neg (by rw [decide_eq_true_iff]; apply haction)]
        rw [lcpAfter, lcpAfter, List.foldl_cons, hnone]
        apply ih'

/-- The status that is written last is that of the event that tells it last. -/
theorem lastLcpWritten_eq (h : List.Forall₂ PppEventQData.Writes es ws) (es' : List PppEventQData) :
  lastLcpWritten b n (es ++ es') ws = lcpAfter b n es none
  := by
  have hfold : ∀ v, ((es ++ es').zip ws).foldl
      (fun v p => ((lcpValue b n (.post p.1)).map fun _ => p.2.2.2.2).or v) v =
        lcpAfter b n es v := by
    induction h with
    | nil =>
        intro v
        rw [List.zip_nil_right]
        rfl
    | cons hw _ ih =>
        intro v
        rw [List.cons_append, List.zip_cons_cons, List.foldl_cons, ih, hw.2.2.2, lcpAfter, lcpAfter,
          List.foldl_cons]
        congr 2
        rw [lcpValue]
        split_ifs <;> rfl
  apply hfold

/-- Where the threads keep to their contracts, the status that was written last for an event of the
interface agrees with that of the interface once the events about it are handled. -/
theorem written_of_good {r : Option CStr} {g : ℕ → DmlPppIfFull} {w : Threads} {i : ℕ}
    (hgood : (sectionViews b r True).Good g w) (hlogged : logViews.Good () w)
    (hdone : (w.code .event).isDone = true) (hfree : w.state.locks i = [])
    (hqueue : ∀ ev ∈ w.state.queue, lcpValue b (i + 1 : ℕ) (.post ev) = none) :
  Agree (w.state.table i).statuses
    (lastLcpWritten b (i + 1 : ℕ) (busSets (events w.state.acts)) (busWrites w.state.acts))
  := by
  have hposts := (disciplined_of_good hgood).posts
  obtain ⟨taken, done, horder, hhandled, hwrites⟩ := delivered_of_good hgood hlogged
  obtain rfl : taken = done := by
    apply hhandled.resolve_right
    rintro ⟨hbusy, -⟩
    rw [hdone] at hbusy
    cases hbusy
  have htold : lastLcp b (i + 1 : ℕ) w.state.acts = lcpAfter b (i + 1 : ℕ) taken none := by
    rw [lastLcp_eq_lcpAfter, horder, lcpAfter, List.foldl_append]
    apply lcpAfter_quiet hqueue
  have hsplit : busSets (events w.state.acts) = busSets taken ++ busSets w.state.queue := by
    rw [horder]
    apply List.filter_append
  rw [hsplit, lastLcpWritten_eq hwrites, lcpAfter_busSets, ← htold]
  · obtain ⟨v, hfits, -⟩ := hgood
    have hfree := hfits.of_free hfree
    rw [hfree.entry]
    apply hfree.told trivial
  · intro ev hev
    apply (hposts ev _).noKey
    rw [← mem_events, horder]
    apply List.mem_append_left _ hev

/-- In every interleaving in which the sends succeed and a stop is requested in the setters only,
whenever the event thread is done, no LCP status of the interface is left in the queue and its mutex is
free, the status that was written last for an event of the interface agrees with that of the
interface. -/
theorem written_status_agrees {s : Sys} {ls : List PointMove} {w : Threads} {i : ℕ} (hs : Initial s)
    (hls : ∀ l ∈ ls, HandledBelow s.pppIfCount.toNat l ∧ TakesEvents l ∧ TellsInSections l)
    (hrun : run (Threads.go b) ls (Pool.idle s) = some w)
    (hdone : (w.code .event).isDone = true) (hfree : w.state.locks i = [])
    (hqueue : ∀ ev ∈ w.state.queue, lcpValue b (i + 1 : ℕ) (.post ev) = none) :
  Agree (w.state.table i).statuses
    (lastLcpWritten b (i + 1 : ℕ) (busSets (events w.state.acts)) (busWrites w.state.acts))
  := by
  obtain ⟨g, -, hgood⟩ := run_sections True hs (fun l hl => (hls l hl).1)
    (fun _ l hl => (hls l hl).2.2) hrun
  have hlogged := run_logged hs (fun l hl => (hls l hl).2.1) hrun
  apply written_of_good hgood hlogged hdone hfree hqueue

end

/-! ### Events of a stop -/

/-- The interface 1 is disabled, and the event thread takes the first event of the stop while the other
two are still to be sent. -/
def stoppingMoves : List PointMove :=
  [.enter .dataModel (.setter (.interfaceBool 0 "Enable".toList false))] ++
    List.replicate 12 (goOn .dataModel) ++ [.enter .event .takeEvent, goOn .event] ++
    List.replicate 3 (goOn .dataModel) ++ List.replicate 5 (goOn .event)

theorem handled_stoppingMoves :
  ∀ l ∈ stoppingMoves, HandledBelow 1 l ∧ TakesEvents l
  := by
  have hgoOn : ∀ t, HandledBelow 1 (goOn t) ∧ TakesEvents (goOn t) := fun _ => ⟨trivial, trivial⟩
  intro l hl
  simp only [stoppingMoves, List.mem_append, List.mem_cons, List.not_mem_nil, or_false,
    List.mem_replicate] at hl
  rcases hl with (((rfl | ⟨-, rfl⟩) | rfl | rfl) | ⟨-, rfl⟩) | ⟨-, rfl⟩
  · exact ⟨Nat.zero_lt_one, trivial⟩
  · apply hgoOn
  · exact ⟨trivial, trivial⟩
  · apply hgoOn
  · apply hgoOn
  · apply hgoOn

theorem delivered_in_order_stopping :
  ∃ w, run (Threads.go (plainBuild false)) stoppingMoves (Pool.idle (freshState 1)) = some w ∧
    w.state.queue.length = 2 ∧ (busWrites w.state.acts).length = 1 ∧
    ∃ taken done, events w.state.acts = taken ++ w.state.queue ∧
      (taken = done ∨ (w.code .event).isDone = false ∧ ∃ ev, taken = done ++ [ev]) ∧
      List.Forall₂ PppEventQData.Writes (busSets done) (busWrites w.state.acts)
  := by
  have hend : (run (Threads.go (plainBuild false)) stoppingMoves (Pool.idle (freshState 1))).map
      (fun w => (w.state.queue.length, (busWrites w.state.acts).length)) = some (2, 1) := by
    decide +kernel
  obtain ⟨w, hrun, hw⟩ := Option.map_eq_some_iff.mp hend
  obtain ⟨hqueue, hwrites⟩ := Prod.mk.inj hw
  refine ⟨w, hrun, hqueue, hwrites, ?_⟩
  apply delivered_in_order (initial_freshState (by rw [pppIfCount_freshState_one]; decide)) _ hrun
  rw [pppIfCount_freshState_one]
  apply handled_stoppingMoves

theorem tellsInSections_stoppingMoves :
  ∀ l ∈ stoppingMoves, TellsInSections l
  := by
  intro l hl
  simp only [stoppingMoves, List.mem_append, List.mem_cons, List.not_mem_nil, or_false,
    List.mem_replicate] at hl
  rcases hl with (((rfl | ⟨-, rfl⟩) | rfl | rfl) | ⟨-, rfl⟩) | ⟨-, rfl⟩
  · rfl
  · apply tellsInSections_goOn
  · rfl
  · apply tellsInSections_goOn
  · apply tellsInSections_goOn
  · apply tellsInSections_goOn

/-- That the link is down has been written, while the other two events wait. -/
theorem written_status_agrees_stopping :
  ∃ w, run (Threads.go (plainBuild false)) stoppingMoves (Pool.idle (freshState 1)) = some w ∧
    lastLcpWritten (plainBuild false) 1 (busSets (events w.state.acts)) (busWrites w.state.acts) =
      some down ∧
    Agree (w.state.table 0).statuses
      (lastLcpWritten (plainBuild false) 1 (busSets (events w.state.acts)) (busWrites w.state.acts))
  := by
  have hend : (run (Threads.go (plainBuild false)) stoppingMoves (Pool.idle (freshState 1))).map
      (fun w => ((w.code .event).isDone, w.state.locks 0,
        w.state.queue.all fun ev => (lcpValue (plainBuild false) 1 (.post ev)).isNone,
        lastLcpWritten (plainBuild false) 1 (busSets (events w.state.acts))
          (busWrites w.state.acts))) = some (true, [], true, some down) := by
    decide +kernel
  obtain ⟨w, hrun, hw⟩ := Option.map_eq_some_iff.mp hend
  obtain ⟨hdone, hw⟩ := Prod.mk.inj hw
  obtain ⟨hfree, hw⟩ := Prod.mk.inj hw
  obtain ⟨hqueue, hwritten⟩ := Prod.mk.inj hw
  refine ⟨w, hrun, hwritten, ?_⟩
  apply written_status_agrees (initial_freshState (by rw [pppIfCount_freshState_one]; decide)) _ hrun
    hdone hfree
  · intro ev hev
    apply Option.isNone_iff_eq_none.mp (List.all_eq_true.mp hqueue ev hev)
  · intro l hl
    rw [pppIfCount_freshState_one]
    obtain ⟨hbelow, htakes⟩ := handled_stoppingMoves l hl
    exact ⟨hbelow, htakes, tellsInSections_stoppingMoves l hl⟩

end PppManager
