import PppManager.Effect.Pool
import PppManager.Effect.Runs
import PppManager.Manager.EventSteps
import PppManager.Manager.LockDiscipline

/-!
# A wait cycle

The setters of `Enable` and `Reset` hold the mutex of their entry while they send events, and a send
to the full queue waits until the event thread takes an event.  If the event thread waits for that
mutex, neither goes on (`setter_waits_for_event_thread`).  This does not happen if a thread begins its
work, while the other is at work, only if the queue has room for all events the two can still send
(`never_deadlocked`).
-/

namespace PppManager

open Effect Effect.Program Function CText

/-! ### The two threads -/

/-- What the threads are asked to do: the data-model thread to set `Enable` or `Reset` of an
interface, the event thread to handle a message, or the next event of the queue. -/
inductive Job where
  | setEnable (i : ℕ) (bValue : Bool)
  | setReset (i : ℕ) (bValue : Bool)
  | message (m : IpcMsgPayload)
  | queueEvent

/-- What a thread runs for a job.  An event is taken from the queue before it is handled. -/
def begins (b : Build) : Thread → Job → Sys → Option (Code Unit × Sys)
  | .dataModel, .setEnable i v, s =>
    some ((fun _ => ()) <$> interfaceSetParamBoolValue b i "Enable".toList v, s)
  | .dataModel, .setReset i v, s =>
    some ((fun _ => ()) <$> interfaceSetParamBoolValue b i "Reset".toList v, s)
  | .event, .message m, s => some ((fun _ => ()) <$> processPppState b m, s)
  | .event, .queueEvent, s =>
    match s.queue with
    | [] => none
    | ev :: evs => some ((fun _ => ()) <$> processPppEvent b ev, { s with queue := evs })
  | _, _, _ => none

/-- The two threads at work. -/
abbrev Threads := Pool sig Sys Thread

/-- A move of one of the threads. -/
abbrev ThreadMove := Move machine Job

/-- The threads after a move. -/
def Threads.next (b : Build) : ThreadMove → Threads → Option Threads :=
  Pool.next (begins b)

/-- The data-model thread waits to send to the full queue while it holds the mutex of an entry, and
the event thread waits for that mutex. -/
def Threads.deadlocked (w : Threads) : Bool :=
  match w.code .dataModel, w.code .event with
  | .call (Op.mqSend _) _, .call (Op.lock i) _ =>
    decide (maxQueueLength ≤ w.state.queue.length) && decide (Thread.dataModel ∈ w.state.locks i)
  | _, _ => false

/-! ### Room for two -/

/-- The operation sends an event. -/
def Op.IsSend : Op → Prop
  | .mqSend _ => True
  | _ => False

/-- The operation sends no event. -/
@[reducible] def Op.IsSilent (o : Op) : Prop := ¬ o.IsSend

/-- The queue has room for all events that two programs can still send. -/
def RoomFor (p q : Code Unit) (s : Sys) : Prop :=
  ∃ m n, p.AtMost Op.IsSend m ∧ q.AtMost Op.IsSend n ∧ s.queue.length + m + n ≤ maxQueueLength

/-- The other thread. -/
def Thread.other : Thread → Thread
  | .dataModel => .event
  | .event => .dataModel

/-- A thread that begins a job while the other is at work finds room for what both can still
send. -/
def BeginsWithRoom (b : Build) : ThreadMove → Threads → Prop
  | .enter t job, w =>
    (w.code t.other).isDone = false →
      ∀ p s', begins b t job w.state = some (p, s') → RoomFor p (w.code t.other) s'
  | .perform _ _, _ => True

/-- While both threads are at work, there is room for what they can still send. -/
def RoomForBoth (w : Threads) : Prop :=
  (w.code .dataModel).isDone = false → (w.code .event).isDone = false →
    RoomFor (w.code .dataModel) (w.code .event) w.state

theorem RoomFor.symm {p q : Code Unit} {s : Sys} (h : RoomFor p q s) :
  RoomFor q p s
  := by
  obtain ⟨m, n, hp, hq, hroom⟩ := h
  use n, m, hq, hp
  rw [Nat.add_right_comm]
  apply hroom

/-- An operation of one of two threads leaves room for both. -/
theorem RoomFor.step {t : Thread} {o : Op} {k : o.Res → Code Unit} {q : Code Unit} {x : o.Ans}
    {s s' : Sys} {r : o.Res} (h : RoomFor (.call o k) q s)
    (hstep : PppManager.step t o x s = .ok (r, s')) :
  RoomFor (k r) q s'
  := by
  obtain ⟨m, n, hp, hq, hroom⟩ := h
  rcases queue_length_step hstep with hle | ⟨⟨ev, rfl⟩, -, hle⟩
  · use m, n, hp.rest r, hq
    omega
  · have hsend : Op.IsSend (.mqSend ev) := trivial
    obtain ⟨m, rfl, hk⟩ := hp.of_call hsend
    use m, n, hk r, hq
    omega

/-- What is left to one thread and to the other one, with room for both. -/
theorem roomForBoth_iff {w : Threads} (t : Thread) :
  RoomForBoth w ↔ ((w.code t).isDone = false → (w.code t.other).isDone = false →
    RoomFor (w.code t) (w.code t.other) w.state)
  := by
  cases t with
  | dataModel => rfl
  | event =>
      constructor
      · intro h hevent hdata
        apply (h hdata hevent).symm
      · intro h hdata hevent
        apply (h hevent hdata).symm

theorem Thread.other_ne (t : Thread) :
  t.other ≠ t
  := by
  cases t <;> nofun

/-- A move leaves room for both. -/
theorem RoomForBoth.next {b : Build} {l : ThreadMove} {w w' : Threads} (h : RoomForBoth w)
    (hl : BeginsWithRoom b l w) (hnext : w.next b l = some w') :
  RoomForBoth w'
  := by
  cases l with
  | enter t job =>
      obtain ⟨-, p, s', hbegins, rfl⟩ := Pool.next_enter hnext
      rw [roomForBoth_iff t]
      dsimp only
      rw [update_self, update_of_ne t.other_ne]
      intro _ hother
      apply hl hother p s' hbegins
  | perform t x =>
      obtain ⟨o, k, r, s', hcode, hstep, rfl⟩ := Pool.next_perform hnext
      rw [roomForBoth_iff t, hcode] at h
      rw [roomForBoth_iff t]
      dsimp only
      rw [update_self, update_of_ne t.other_ne]
      intro _ hother
      apply (h rfl hother).step hstep

/-- With room for both, the data-model thread does not wait to send. -/
theorem RoomForBoth.not_deadlocked {w : Threads} (h : RoomForBoth w) :
  w.deadlocked = false
  := by
  rw [Threads.deadlocked]
  split
  case h_1 ev k i k' hdata hevent =>
    rw [RoomForBoth, hdata, hevent] at h
    obtain ⟨m, n, hsend, -, hroom⟩ := h rfl rfl
    obtain ⟨m, rfl, -⟩ := hsend.of_call trivial
    apply Bool.and_eq_false_iff.mpr
    left
    apply decide_eq_false
    omega
  case h_2 => rfl

/-- Where a thread that begins a job while the other is at work finds room for all events the two can
still send, no state that is reached has the wait cycle. -/
theorem never_deadlocked {b : Build} {ls : List ThreadMove} {s : Sys} {w : Threads}
    (hls : Throughout (Threads.next b) (BeginsWithRoom b) ls (Pool.idle s))
    (hrun : run (Threads.next b) ls (Pool.idle s) = some w) :
  w.deadlocked = false
  := by
  apply RoomForBoth.not_deadlocked
  apply run_invariant (I := RoomForBoth) _ _ hls hrun
  · intro l w w' h hl hnext
    apply h.next hl hnext
  · intro hdata
    cases hdata

/-! ### How many events a job sends -/

section

variable {W : Prop} {i n : ℕ} {α β : Type} {b : Build}

theorem silent_local {K : (DmlPppIfFull → DmlPppIfFull) → Prop} {C : Prop} {p : Code α}
    (hp : Only (Op.OnEntry K W C i) p) :
  Only Op.IsSilent p
  := by
  apply hp.mono
  intro o ho hsend
  cases o with
  | mqSend ev => apply ho
  | _ => apply hsend

theorem silent_queries {p : Code α} (hp : Only Op.IsQuery p) :
  Only Op.IsSilent p
  := by
  apply hp.mono
  intro o ho hsend
  cases o with
  | mqSend ev => apply ho
  | _ => apply hsend

theorem silent_load :
  Only Op.IsSilent (load i)
  := silent_local (K := AnyWrite) (C := True) (W := True) local_load

theorem silent_set (f : DmlPppIfFull → DmlPppIfFull) :
  Only Op.IsSilent (store i f)
  := silent_local (W := True) (local_set f)

theorem silent_getIfaceDataLocked :
  Only Op.IsSilent (getIfaceDataLocked n)
  := only_getIfaceDataLocked (P := Op.IsSilent) not_false (fun _ => not_false)

theorem silent_release (a : α) :
  Only Op.IsSilent (do getIfaceDataRelease i; pure a)
  := by
  apply only_bind (reads_op (P := Op.IsSilent) (o := .unlock _) not_false)
  intro _
  apply only_pure

theorem atMost_release (a : α) :
  AtMost Op.IsSend n (do getIfaceDataRelease i; pure a)
  := AtMost.of_only (silent_release a)

theorem atMost_pure (a : α) :
  AtMost Op.IsSend n (pure a : Code α)
  := AtMost.of_only (only_pure a)

theorem atMost_sendDataToQ (ev : PppEventQData) :
  AtMost Op.IsSend 1 (sendDataToQ ev)
  := by
  apply AtMost.bind_of_only (reads_op (P := Op.IsSilent) (o := .mqOpen) not_false)
  rintro (_ | _)
  · apply atMost_pure
  · apply AtMost.counted 0
    rintro (_ | _) <;> apply atMost_pure

theorem atMost_stopPppClient :
  AtMost Op.IsSend 3 (stopPppClient b n)
  := by
  apply AtMost.bind_of_only silent_getIfaceDataLocked
  rintro (_ | i)
  · apply atMost_pure
  · apply AtMost.bind_of_only (silent_set _)
    intro _
    apply AtMost.bind_of_only (silent_local (W := True) local_stopClient)
    intro _
    apply AtMost.bind_of_only (silent_set _)
    intro _
    apply AtMost.bind_of_only (reads_op (P := Op.IsSilent) (o := .unlock _) not_false)
    intro _
    apply AtMost.bind_one (atMost_sendDataToQ _)
    intro _
    apply AtMost.bind_one (atMost_sendDataToQ _)
    intro _
    apply AtMost.bind_one (atMost_sendDataToQ _)
    intro _
    apply atMost_pure

theorem atMost_sendPppdStartEventToQ :
  AtMost Op.IsSend 1 (sendPppdStartEventToQ n)
  := by
  apply AtMost.bind_of_only silent_getIfaceDataLocked
  rintro (_ | i)
  · apply atMost_pure
  · apply AtMost.bind_of_only silent_load
    intro pEntry
    apply AtMost.bind_one (atMost_sendDataToQ _)
    rintro (_ | _)
    · apply AtMost.bind_of_only (silent_set _)
      intro _
      apply atMost_release
    · apply atMost_release

theorem atMost_enableIf (enable : Bool) :
  AtMost Op.IsSend 3 (enableIf b n enable)
  := by
  apply AtMost.ite
  · intro _
    apply AtMost.bind (m := 1) (n := 2) atMost_sendPppdStartEventToQ
    rintro (_ | _) <;> apply atMost_pure
  · intro _
    apply AtMost.bind (m := 3) (n := 0) atMost_stopPppClient
    rintro (_ | _) <;> apply atMost_pure

theorem atMost_pppDmlIfReset :
  AtMost Op.IsSend 4 (pppDmlIfReset b n)
  := by
  apply AtMost.bind (m := 3) (n := 1) atMost_stopPppClient
  rintro (_ | _)
  · apply AtMost.bind (m := 1) (n := 0) atMost_sendPppdStartEventToQ
    rintro (_ | _) <;> apply atMost_pure
  · apply atMost_pure

/-- A setter sends at most four events. -/
theorem atMost_interfaceSetParamBoolValue (paramName : CStr) (bValue : Bool) :
  AtMost Op.IsSend 4 (interfaceSetParamBoolValue b i paramName bValue)
  := by
  have hwrite : ∀ f, AtMost Op.IsSend 4 (do store i f; pure true) := by
    intro f
    apply AtMost.bind_of_only (silent_set f)
    intro _
    apply atMost_pure
  apply AtMost.bind_of_only (reads_op (P := Op.IsSilent) (o := .lock _) not_false)
  intro _
  apply AtMost.bind (m := 4) (n := 0)
  · rw [writeBoolParam]
    split_ifs
    · apply AtMost.bind_of_only silent_load
      intro pEntry
      apply (atMost_enableIf bValue).mono
      decide
    · apply hwrite
    · apply hwrite
    · apply AtMost.bind_of_only silent_load
      intro pEntry
      apply AtMost.ite
      · intro _
        apply atMost_pppDmlIfReset
      · intro _
        apply atMost_pure
    · apply atMost_pure
  · intro retStatus
    apply AtMost.of_only
    apply silent_release (i := i)

theorem atMost_processStateChangedMsg (inst : ℤ) (msg : IpcPppEventMsg) :
  AtMost Op.IsSend 2 (processStateChangedMsg b inst msg)
  := by
  apply AtMost.ite
  · intro _
    apply atMost_pure
  · intro _
    apply AtMost.bind_of_only silent_getIfaceDataLocked
    rintro (_ | i)
    · apply atMost_pure
    · apply AtMost.bind_of_only (silent_local (W := True) (local_switchPppState msg))
      rintro (_ | wanPppLinkStatus)
      · apply atMost_release
      · apply AtMost.bind_of_only silent_load
        intro pEntry
        apply AtMost.bind_one (atMost_sendDataToQ _)
        rintro (_ | _)
        · apply AtMost.bind_one (atMost_sendDataToQ _)
          rintro (_ | _) <;> apply atMost_release
        · apply atMost_release

theorem atMost_rejectIpcpParams :
  AtMost Op.IsSend 1 (rejectIpcpParams b i)
  := by
  apply AtMost.bind_of_only silent_load
  intro pEntry
  apply AtMost.bind_one (atMost_sendDataToQ _)
  intro _
  apply atMost_release

theorem atMost_acceptIpcpParams :
  AtMost Op.IsSend 1 (acceptIpcpParams b i)
  := by
  apply AtMost.bind_of_only silent_load
  intro pEntry
  apply AtMost.bind_one (atMost_sendDataToQ _)
  rintro (_ | _) <;> apply atMost_release

theorem atMost_storeIpcpParams (msg : PppIpcpMsg) :
  AtMost Op.IsSend 1 (storeIpcpParams b i msg)
  := by
  rw [storeIpcpParams]
  apply AtMost.bind_of_only (silent_set _)
  intro _
  apply AtMost.bind_of_only (silent_set _)
  intro _
  apply AtMost.bind_of_only (silent_set _)
  intro _
  obtain ⟨ip, ret⟩ := dmlSetIp4Param msg.ip (fun _ => 0)
  apply AtMost.bind_of_only (silent_set _)
  intro _
  cases ret with
  | failure => apply atMost_rejectIpcpParams
  | success =>
      obtain ⟨gateway, ret⟩ := dmlSetIp4Param msg.gateway (fun _ => 0)
      apply AtMost.bind_of_only (silent_set _)
      intro _
      cases ret with
      | failure => apply atMost_rejectIpcpParams
      | success =>
          dsimp only
          cases dnsServersOf (strtok ',' msg.nameserver) with
          | none => apply atMost_rejectIpcpParams
          | some dnsServers =>
              apply AtMost.bind_of_only (silent_set _)
              intro _
              apply atMost_acceptIpcpParams

theorem atMost_processIpcpParams (inst : ℤ) (msg : IpcPppEventMsg) :
  AtMost Op.IsSend 1 (processIpcpParams b inst msg)
  := by
  have hdown : AtMost Op.IsSend 1 (do let _ ← setIPCPStatusDown b inst; pure AnscStatus.failure) := by
    apply AtMost.bind_one (atMost_sendDataToQ _)
    intro _
    apply atMost_pure
  apply AtMost.ite
  · intro _
    apply atMost_pure
  · intro _
    apply AtMost.ite
    · intro _
      apply hdown
    · intro _
      apply AtMost.ite
      · intro _
        apply hdown
      · intro _
        apply AtMost.bind_of_only silent_getIfaceDataLocked
        rintro (_ | i)
        · apply atMost_pure
        · apply atMost_storeIpcpParams

theorem atMost_processIpv6cpParams (inst : ℤ) (msg : IpcPppEventMsg) :
  AtMost Op.IsSend 1 (processIpv6cpParams b inst msg)
  := by
  apply AtMost.ite
  · intro _
    apply atMost_pure
  · intro _
    apply AtMost.bind_of_only silent_getIfaceDataLocked
    rintro (_ | i)
    · apply atMost_pure
    · apply AtMost.bind_of_only silent_load
      intro pEntry
      apply AtMost.ite
      · intro _
        apply AtMost.bind_of_only (silent_local (W := True) (local_storeIpv6cpParams _))
        intro _
        apply AtMost.bind_of_only
          (reads_op (P := Op.IsSilent) (o := .generateDuidFile _) not_false)
        intro _
        apply AtMost.bind_one (atMost_sendDataToQ _)
        rintro (_ | _) <;> apply atMost_release
      · intro _
        apply AtMost.bind_of_only
          (reads_op (P := Op.IsSilent) (o := .removeDuidFile _) not_false)
        intro _
        apply AtMost.bind_one (atMost_sendDataToQ _)
        intro _
        apply atMost_release

theorem silent_getIfaceDataWithPid (pid : ℤ) :
  Only Op.IsSilent (getIfaceDataWithPid pid)
  := by
  have hloop : ∀ k n, Only Op.IsSilent (getIfaceDataWithPidLoop pid n k) := by
    intro k
    induction k with
    | zero =>
        intro n
        apply only_pure
    | succ k ih =>
        intro n
        apply only_bind silent_getIfaceDataLocked
        rintro (_ | i)
        · apply ih
        · apply only_bind silent_load
          intro pEntry
          apply only_ite
          · intro _
            apply silent_release
          · intro _
            apply only_bind (reads_op (P := Op.IsSilent) (o := .unlock _) not_false)
            intro _
            apply ih
  apply only_bind (silent_queries reads_dmlGetTotalNoOfPPPInterfaces)
  intro total
  apply hloop

/-- The handling of a message sends at most two events. -/
theorem atMost_processPppState (m : IpcMsgPayload) :
  AtMost Op.IsSend 2 (processPppState b m)
  := by
  apply AtMost.ite
  · intro _
    apply atMost_pure
  · intro _
    apply AtMost.bind_of_only (silent_getIfaceDataWithPid _)
    intro inst
    apply AtMost.ite
    · intro _
      apply atMost_pure
    · intro _
      rw [dispatchPppState]
      cases m.pppEventMsg.pppState with
      | ipcpCompleted | ipcpFailed =>
          apply (atMost_processIpcpParams inst _).mono
          decide
      | ipv6cpCompleted | ipv6cpFailed =>
          apply (atMost_processIpv6cpParams inst _).mono
          decide
      | unknown code => apply atMost_pure
      | _ => apply atMost_processStateChangedMsg

theorem silent_launchPppClient (w v : ℤ) :
  Only Op.IsSilent (launchPppClient b i w v)
  := by
  apply (launchStep_launchPppClient (i := i) w v).mono
  rintro o ho hsend
  cases o <;> first | apply ho | apply hsend

/-- The handling of an event sends none. -/
theorem silent_processPppEvent (ev : PppEventQData) :
  Only Op.IsSilent (processPppEvent b ev)
  := by
  cases haction : ev.action with
  | busSet =>
      apply only_processPppEvent_busSet (P := Op.IsSilent) not_false (fun _ => not_false)
        (fun _ => not_false) (fun _ => not_false) (fun _ _ _ _ => not_false) haction
  | execPppClient =>
      apply only_ite
      · intro _
        apply only_pure
      · intro _
        rw [haction]
        apply only_bind
        · rw [startPppClient_eq]
          apply only_bind (silent_queries (reads_getWanIfaceInstance _ _ _))
          intro r
          apply only_ite
          · intro _
            apply only_pure
          · intro _
            apply only_bind silent_getIfaceDataLocked
            rintro (_ | i)
            · apply reads_undefined not_false
            · apply only_bind silent_load
              intro pEntry
              apply only_bind (silent_queries (reads_checkPidExist _))
              rintro (_ | _)
              · apply silent_release
              · apply silent_launchPppClient
        · intro _
          apply only_pure

/-- The number of events a job of the thread sends at most. -/
def Thread.sendBound : Thread → ℕ
  | .dataModel => 4
  | .event => 2

/-- A job sends at most as many events, and does not begin with one. -/
theorem atMost_begins {t : Thread} {job : Job} {s s' : Sys} {p : Code Unit}
    (h : begins b t job s = some (p, s')) :
  p.AtMost Op.IsSend t.sendBound ∧ s'.queue.length ≤ s.queue.length
  := by
  have hend : ∀ {α : Type} {n : ℕ} {q : Code α}, AtMost Op.IsSend n q →
      AtMost Op.IsSend n ((fun _ => ()) <$> q) := by
    intro α n q hq
    apply AtMost.bind (n := 0) hq
    intro a
    apply atMost_pure
  cases t with
  | dataModel =>
      cases job with
      | setEnable | setReset =>
          obtain ⟨rfl, rfl⟩ := Prod.mk.inj (Option.some.inj h)
          exact ⟨hend (atMost_interfaceSetParamBoolValue _ _), Nat.le_refl _⟩
      | message | queueEvent => cases h
  | event =>
      cases job with
      | setEnable | setReset => cases h
      | message m =>
          obtain ⟨rfl, rfl⟩ := Prod.mk.inj (Option.some.inj h)
          exact ⟨hend (atMost_processPppState m), Nat.le_refl _⟩
      | queueEvent =>
          rw [begins] at h
          cases hqueue : s.queue with
          | nil =>
              rw [hqueue] at h
              cases h
          | cons ev evs =>
              rw [hqueue] at h
              obtain ⟨rfl, rfl⟩ := Prod.mk.inj (Option.some.inj h)
              exact ⟨hend (AtMost.of_only (silent_processPppEvent ev)), Nat.le_succ _⟩

/-- Each thread can send at most as many events as a job of it. -/
def SendsBounded (w : Threads) : Prop :=
  ∀ t, (w.code t).AtMost Op.IsSend t.sendBound

theorem SendsBounded.next {l : ThreadMove} {w w' : Threads} (h : SendsBounded w)
    (hnext : w.next b l = some w') :
  SendsBounded w'
  := by
  have hupdate : ∀ {t : Thread} {p : Code Unit} {s' : Sys}, p.AtMost Op.IsSend t.sendBound →
      SendsBounded ⟨update w.code t p, s'⟩ := by
    intro t p s' hp u
    dsimp only
    by_cases hu : u = t
    · obtain rfl := hu
      rw [update_self]
      apply hp
    · rw [update_of_ne hu]
      apply h u
  cases l with
  | enter t job =>
      obtain ⟨-, p, s', hbegins, rfl⟩ := Pool.next_enter hnext
      apply hupdate (atMost_begins hbegins).1
  | perform t x =>
      obtain ⟨o, k, r, s', hcode, -, rfl⟩ := Pool.next_perform hnext
      apply hupdate
      have ht := h t
      rw [hcode] at ht
      apply ht.rest r

/-- A thread that begins a job while the other is at work finds room for six events. -/
def BeginsWithSix : ThreadMove → Threads → Prop
  | .enter t _, w =>
    (w.code t.other).isDone = false → w.state.queue.length + 6 ≤ maxQueueLength
  | .perform _ _, _ => True

/-- Room for six events is room for what both threads can send. -/
theorem beginsWithRoom_of_six {ls : List ThreadMove} {s : Sys}
    (h : Throughout (Threads.next b) BeginsWithSix ls (Pool.idle s)) :
  Throughout (Threads.next b) (BeginsWithRoom b) ls (Pool.idle s)
  := by
  apply throughout_of_invariant (I := SendsBounded) (fun l w w' hw hnext => hw.next hnext) _ _ h
  · intro l w hw hl
    cases l with
    | enter t job =>
        intro hother p s' hbegins
        obtain ⟨hp, hle⟩ := atMost_begins hbegins
        have hsix : t.sendBound + t.other.sendBound = 6 := by
          cases t <;> rfl
        have hroom := hl hother
        use t.sendBound, t.other.sendBound, hp, hw t.other
        omega
    | perform t x => trivial
  · intro t
    apply atMost_pure

end

/-! ### A run to the wait cycle -/

/-- An operation of a thread, in an outside where everything works. -/
def performNext (t : Thread) : ThreadMove :=
  .perform t ((workingOutside 1 none []).answers 0)

theorem never_deadlocked_overlapping :
  ∃ w, run (Threads.next (plainBuild false)) [.enter .dataModel (.setEnable 0 true),
      performNext .dataModel, .enter .event (.message (stateMessage 7 .interfaceUp)),
      performNext .event] (Pool.idle (freshState 1)) = some w ∧
    (∀ t, (w.code t).isDone = false) ∧ w.deadlocked = false
  := by
  have hsix : check (Threads.next (plainBuild false))
      (fun _ w => decide (w.state.queue.length + 6 ≤ maxQueueLength))
      [.enter .dataModel (.setEnable 0 true), performNext .dataModel,
        .enter .event (.message (stateMessage 7 .interfaceUp)), performNext .event]
      (Pool.idle (freshState 1)) = true := by
    decide +kernel
  have hend : (run (Threads.next (plainBuild false)) [.enter .dataModel (.setEnable 0 true),
      performNext .dataModel, .enter .event (.message (stateMessage 7 .interfaceUp)),
      performNext .event] (Pool.idle (freshState 1))).map
        (fun w => ((w.code .dataModel).isDone, (w.code .event).isDone)) = some (false, false) := by
    decide +kernel
  obtain ⟨w, hrun, hw⟩ := Option.map_eq_some_iff.mp hend
  use w, hrun
  constructor
  · intro t
    cases t with
    | dataModel => apply (Prod.mk.inj hw).1
    | event => apply (Prod.mk.inj hw).2
  · apply never_deadlocked (beginsWithRoom_of_six _) hrun
    apply throughout_of_check _ hsix
    intro l _ w hroom
    cases l with
    | enter t job => exact fun _ => of_decide_eq_true hroom
    | perform t x => trivial

/-- A job of the data-model thread, for `n` operations. -/
def setterMoves (job : Job) (n : ℕ) : List ThreadMove :=
  .enter .dataModel job :: List.replicate n (performNext .dataModel)

/-- Requests fill the queue while the event thread does nothing; the next one waits to send, and then
the event thread looks for the client of a message. -/
def waitCycleMoves : List ThreadMove :=
  (List.replicate 33 (setterMoves (.setEnable 0 false) 15)).flatten ++
    setterMoves (.setEnable 0 true) 10 ++ setterMoves (.setEnable 0 true) 6 ++
      [.enter .event (.message (stateMessage 7 .interfaceUp)), performNext .event,
        performNext .event]

theorem setter_waits_for_event_thread :
  ¬ ∀ (b : Build) (s : Sys) (ls : List ThreadMove) (w : Threads), Initial s →
    run (Threads.next b) ls (Pool.idle s) = some w → w.deadlocked = false
  := by
  intro h
  have hend : (run (Threads.next (plainBuild false)) waitCycleMoves
      (Pool.idle (freshState 1))).map Threads.deadlocked = some true := by
    decide +kernel
  obtain ⟨w, hrun, hw⟩ := Option.map_eq_some_iff.mp hend
  have hcount : (freshState 1).pppIfCount.toNat = 1 := by
    decide +kernel
  rw [h _ _ _ w (initial_freshState (by rw [hcount]; decide)) hrun] at hw
  cases hw

end PppManager
