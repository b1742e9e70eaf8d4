import PppManager.Effect.Backlog
import PppManager.Manager.Outside

/-!
# The loop of the event thread

An iteration of `PppMgr_EventHandlerThread` handles the message the socket gives, if any, and then an
event of the queue, if any.  The event thread alone empties the queue, so it must never start to send
while the queue is full: it would wait for itself.

A message makes the thread send up to two events, and an iteration takes at most one.  The queue has
room for the events of an iteration as long as no stretch of iterations that ends with it brings
more than `MAX_QUEUE_LENGTH` events and one more for each iteration before the last
(`sendDataToQ_has_room`).
-/

namespace PppManager

open Effect CText

/-- The state after an iteration of the loop, unless its run stops. -/
def iteration (b : Build) (x : Answers) (s : Sys) : Option Sys :=
  match (machine .event).exec x (eventHandlerIteration b) 0 s with
  | .ok (_, s', _) => some s'
  | .error _ => none

/-- The operation `PppMgr_SendDataToQ` begins with. -/
def Op.beginsSend : Op → Bool
  | .mqOpen => true
  | _ => false

/-- The operation begins a send while the queue is full. -/
def BeginsAtFull (o : Op) (s : Sys) : Prop :=
  o.beginsSend ∧ maxQueueLength ≤ s.queue.length

instance (o : Op) (s : Sys) : Decidable (BeginsAtFull o s) :=
  inferInstanceAs (Decidable (o.beginsSend = true ∧ maxQueueLength ≤ s.queue.length))

/-- The iteration calls `PppMgr_SendDataToQ` while the queue is full. -/
def SendsToFull (b : Build) (x : Answers) (s : Sys) : Prop :=
  (machine .event).Performs x BeginsAtFull (eventHandlerIteration b) 0 s

instance (b : Build) (x : Answers) (s : Sys) : Decidable (SendsToFull b x s) :=
  Machine.decidablePerforms _ _ (eventHandlerIteration b) 0 s

/-- The message in what the socket gives. -/
def received (b : Build) : Option CStr → Option IpcMsgPayload
  | none => none
  | some ipcBuff =>
      if 0 < ipcBuff.length then
        some (b.readIpcMsgPayload
          (ipcBuff ++ List.replicate (b.sizeofIpcMsgPayload - ipcBuff.length) '\x00'))
      else none

/-- The number of events a message can make the thread send. -/
def demand (s : Sys) : Option IpcMsgPayload → ℕ
  | none => 0
  | some m =>
      if m.msgType = .pppStateChange ∧ HasPid s m.pppEventMsg.pid then
        eventCount m.pppEventMsg.pppState
      else 0

/-! ### An iteration -/

/-- The part of an iteration after the socket has given `r`. -/
def afterReceive (b : Build) (r : Option CStr) : Code Unit :=
  if r.any (fun ipcBuff => b.sizeofIpcMsgPayload < ipcBuff.length) then undefined .bufferOverflow
  else
    match received b r with
    | none => handleQueue b
    | some m => do
      let _ ← processPppState b m
      handleQueue b

theorem undefined_bind {α β : Type} (u : Undefined) (f : α → Code β) :
  (undefined u >>= f) = undefined u
  := by
  show Program.call _ _ = Program.call _ _
  congr 1
  funext e
  cases e

theorem eventHandlerIteration_eq (b : Build) :
  eventHandlerIteration b = (nnRecv >>= afterReceive b)
  := by
  rw [eventHandlerIteration, handleSocket, receiveIpcSocket, bind_assoc, bind_assoc]
  congr 1
  funext r
  cases r with
  | none => rfl
  | some ipcBuff =>
      rw [afterReceive, received]
      by_cases hfits : ipcBuff.length ≤ b.sizeofIpcMsgPayload
      · by_cases hsome : 0 < ipcBuff.length
        · simp [hfits, hsome, Nat.not_lt.mpr hfits]
        · simp [hfits, hsome, Nat.not_lt.mpr hfits]
      · simp [hfits, Nat.not_le.mp hfits, undefined_bind]

variable {A : (o : Op) → o.Ans → Prop} {F : Prop} {b : Build} {s s₀ s₁ s' : Sys} {c : ℕ}

/-- The ways an iteration ends that receives a message, or none. -/
inductive IterationEnds (A : (o : Op) → o.Ans → Prop) (b : Build) (s : Sys) :
    Option IpcMsgPayload → Sys → Prop
  | none {r : Bool} {s' : Sys} (h : CallEnds A b s .event r s') : IterationEnds A b s none s'
  | some {m : IpcMsgPayload} {r r' : Bool} {s₁ s' : Sys} (hm : CallEnds A b s (.message m) r s₁)
      (h : CallEnds A b s₁ .event r' s') : IterationEnds A b s (some m) s'

/-- The rule of the part of an iteration after the socket has given `r`. -/
theorem wp_afterReceive {r : Option CStr} {Q : Unit → Sys → Prop}
    (hroom : s.queue.length + demand s (received b r) ≤ maxQueueLength ∨ F)
    (hQ : ∀ s', IterationEnds A b s (received b r) s' → Q () s') :
  (contract .event A F).wp (afterReceive b r) Q s
  := by
  rw [afterReceive]
  split_ifs
  · apply wp_undefined
  · cases hm : received b r with
    | none =>
        rw [hm] at hQ
        apply wp_handleQueue
        · intro hempty
          apply hQ _ (.none (.queueEmpty hempty))
        · intro ev evs q s' hqueue h
          apply hQ _ (.none (.queueEvent hqueue h))
    | some m =>
        rw [hm] at hQ hroom
        dsimp only
        rw [Contract.wp_bind]
        apply wp_processPppState
        · intro htype hpid
          rw [demand, if_pos ⟨htype, hpid⟩] at hroom
          apply hroom
        · intro q s₁ hends
          apply wp_handleQueue
          · intro hempty
            apply hQ _ (.some (.message hends) (.queueEmpty hempty))
          · intro ev evs q s' hqueue h
            apply hQ _ (.some (.message hends) (.queueEvent hqueue h))

/-- An iteration ends in one of the ways listed. -/
theorem iteration_ends {x : Answers} (h : iteration b x s = some s') :
  IterationEnds Unrestricted b s (received b (x 0 .nnRecv)) s'
  := by
  rw [iteration, eventHandlerIteration_eq] at h
  change (match (machine .event).exec x (afterReceive b (x 0 .nnRecv)) 1 s with
    | .ok (_, s', _) => some s'
    | .error _ => none) = some s' at h
  cases hexec : (machine .event).exec x (afterReceive b (x 0 .nnRecv)) 1 s with
  | error e =>
      rw [hexec] at h
      cases h
  | ok r =>
      obtain ⟨u, s₁, t⟩ := r
      rw [hexec] at h
      obtain rfl := Option.some.inj h
      have hresp : (contract .event Unrestricted True).Respects x := fun _ _ _ => trivial
      apply Contract.wp_exec_ok hresp _ hexec
      apply wp_afterReceive (.inr trivial)
      intro s' h
      apply h

/-- An iteration that has room for the events of its message never sends to a full queue. -/
theorem not_sendsToFull {x : Answers}
    (hroom : s.queue.length + demand s (received b (x 0 .nnRecv)) ≤ maxQueueLength) :
  ¬ SendsToFull b x s
  := by
  have hresp : (contract .event Unrestricted False).Respects x := fun _ _ _ => trivial
  have hrest : ¬ (machine .event).Performs x BeginsAtFull (afterReceive b (x 0 .nnRecv)) 1 s := by
    apply Contract.wp_performs hresp
    · rintro o s hsafe ⟨ho, hfull⟩
      have hopen : o = .mqOpen := by
        cases o <;> first | rfl | cases ho
      apply Nat.not_lt.mpr hfull ((hsafe hopen).resolve_right not_false)
    · apply wp_afterReceive (Q := fun _ _ => True) (.inl hroom)
      intro _ _
      trivial
  rw [SendsToFull, eventHandlerIteration_eq]
  rintro (⟨ho, -⟩ | h)
  · cases ho
  · apply hrest h

/-! ### What a message appends to the queue -/

/-- The queue of `s'` is that of `s` with at most `c` events appended, none of which starts a
client. -/
def Appends (c : ℕ) (s s' : Sys) : Prop :=
  ∃ evs, s'.queue = s.queue ++ evs ∧ evs.length ≤ c ∧ ∀ ev ∈ evs, ev.action = .busSet

theorem appends_of_eq (h : s'.queue = s.queue) :
  Appends c s s'
  := by
  use []
  rw [List.append_nil]
  exact ⟨h, Nat.zero_le c, fun ev hev => nomatch hev⟩

theorem Appends.sent {r : Bool} {ev : PppEventQData} (hev : ev.action = .busSet)
    (h : Appends c s s') :
  Appends (c + 1) s (s'.sent r ev)
  := by
  obtain ⟨evs, hqueue, hlength, hevs⟩ := h
  use evs ++ if r then [ev] else []
  rw [Sys.sent_queue, hqueue, List.append_assoc]
  use rfl
  constructor
  · rw [List.length_append]
    apply Nat.add_le_add hlength
    cases r
    · apply Nat.zero_le
    · apply Nat.le_refl
  · intro ev' hev'
    rcases List.mem_append.mp hev' with hmem | hmem
    · apply hevs ev' hmem
    · split_ifs at hmem
      · rw [List.mem_singleton.mp hmem]
        apply hev
      · cases hmem

/-- A message appends no more events than its kind demands. -/
theorem PppStateEnds.appends {m : IpcMsgPayload} {r : AnscStatus} (h : PppStateEnds A b s m r s') :
  Appends (demand s (some m)) s s'
  := by
  cases h with
  | ignored => apply appends_of_eq rfl
  | dispatched k hk hcount hpid hfirst h htype =>
      rw [demand, if_pos ⟨htype, k, hcount, hpid⟩, eventCount]
      cases h with
      | stateChanged hkind h =>
          cases h with
          | noEntry => apply appends_of_eq rfl
          | quiet | refused => apply appends_of_eq (switchState_queue _ _ _ _ _)
          | told i uptime id w v q hn hi hlink =>
              rw [hkind, hlink]
              apply Appends.sent rfl
              apply Appends.sent (r := true) rfl
              apply appends_of_eq (switchState_queue _ _ _ _ _)
      | ipcp hkind h =>
          rw [hkind]
          cases h with
          | noEntry => apply appends_of_eq rfl
          | down | stored =>
              apply Appends.sent rfl
              apply appends_of_eq rfl
      | ipv6cp hkind h =>
          rw [hkind]
          cases h with
          | badInstance | noEntry => apply appends_of_eq rfl
          | completed | down =>
              apply Appends.sent rfl
              apply appends_of_eq rfl
      | unknown => apply appends_of_eq rfl

/-- A message changes no pid. -/
theorem PppStateEnds.pppPid {m : IpcMsgPayload} {r : AnscStatus} (h : PppStateEnds A b s m r s')
    (i : ℕ) :
  (s'.table i).info.pppPid = (s.table i).info.pppPid
  := by
  have hupdate : ∀ (j : ℕ) (e : DmlPppIfFull), e.info.pppPid = (s.table j).info.pppPid →
      (Function.update s.table j e i).info.pppPid = (s.table i).info.pppPid := by
    intro j e he
    by_cases hij : i = j
    · obtain rfl := hij
      rw [Function.update_self, he]
    · rw [Function.update_of_ne hij]
  cases h with
  | ignored => rfl
  | dispatched k hk hcount hpid hfirst h =>
      cases h with
      | stateChanged hkind h =>
          cases h with
          | noEntry => rfl
          | told =>
              rw [Sys.sent_table, Sys.post_table, switchState_table]
              apply hupdate _ _ (switchEntry_pppPid _ _ _ _)
          | quiet | refused =>
              rw [switchState_table]
              apply hupdate _ _ (switchEntry_pppPid _ _ _ _)
      | ipcp hkind h =>
          cases h with
          | noEntry => rfl
          | down => rw [Sys.sent_table]
          | stored =>
              rw [Sys.sent_table, Sys.setEntry_table]
              apply hupdate
              rfl
      | ipv6cp hkind h =>
          cases h with
          | badInstance | noEntry => rfl
          | completed =>
              rw [Sys.sent_table, Sys.emit_table, Sys.setEntry_table]
              apply hupdate
              rfl
          | down => rw [Sys.sent_table, Sys.emit_table]
      | unknown => rfl

/-! ### The loop -/

/-- The queue holds at most `c` events, none of which starts a client, and the interfaces have the
pids they have in `s₀`. -/
structure Draining (s₀ : Sys) (c : ℕ) (s : Sys) : Prop where
  length_le : s.queue.length ≤ c
  busSet : ∀ ev ∈ s.queue, ev.action = .busSet
  pppPid : ∀ i, (s.table i).info.pppPid = (s₀.table i).info.pppPid
  pppIfCount : s.pppIfCount = s₀.pppIfCount

theorem Draining.demand (hs : Draining s₀ c s) (m : Option IpcMsgPayload) :
  demand s m = demand s₀ m
  := by
  have hpids : ∀ pid, HasPid s pid ↔ HasPid s₀ pid := by
    intro pid
    rw [HasPid, HasPid, hs.pppIfCount]
    simp only [hs.pppPid]
  cases m with
  | none => rfl
  | some m =>
      rw [PppManager.demand, PppManager.demand]
      simp only [hpids]

theorem Draining.message (hs : Draining s₀ c s) {m : IpcMsgPayload} {r : Bool}
    (h : CallEnds A b s (.message m) r s') :
  Draining s₀ (c + PppManager.demand s₀ (some m)) s'
  := by
  have hcount := h.pppIfCount
  rw [← hs.demand]
  cases h with
  | message h =>
      obtain ⟨evs, hqueue, hlength, hevs⟩ := h.appends
      constructor
      · rw [hqueue, List.length_append]
        apply Nat.add_le_add hs.length_le hlength
      · intro ev hev
        rw [hqueue] at hev
        rcases List.mem_append.mp hev with hmem | hmem
        · apply hs.busSet ev hmem
        · apply hevs ev hmem
      · intro i
        rw [h.pppPid, hs.pppPid]
      · rw [hcount, hs.pppIfCount]

theorem Draining.event (hs : Draining s₀ c s) {r : Bool} (h : CallEnds A b s .event r s') :
  Draining s₀ (c - 1) s'
  := by
  have hcount := h.pppIfCount
  cases h with
  | queueEmpty hempty =>
      constructor
      · rw [hempty]
        apply Nat.zero_le
      · apply hs.busSet
      · apply hs.pppPid
      · apply hs.pppIfCount
  | queueEvent hqueue h =>
      have hlength := hs.length_le
      rw [hqueue, List.length_cons] at hlength
      have hbus := hs.busSet
      rw [hqueue] at hbus
      constructor
      · rw [h.queue]
        apply Nat.le_sub_one_of_lt hlength
      · rw [h.queue]
        intro ev hev
        apply hbus ev (List.mem_cons_of_mem _ hev)
      · intro i
        cases h with
        | invalid | busSet => apply hs.pppPid
        | exec q s' hpos haction =>
            rw [hbus _ List.mem_cons_self] at haction
            cases haction
      · rw [hcount, hs.pppIfCount]

/-- An iteration of the loop. -/
theorem Draining.iteration (hs : Draining s₀ c s) {x : Answers} (h : iteration b x s = some s') :
  Draining s₀ (c + PppManager.demand s₀ (received b (x 0 .nnRecv)) - 1) s'
  := by
  have hends := iteration_ends h
  generalize received b (x 0 .nnRecv) = m at hends ⊢
  cases hends with
  | none h => apply hs.event h
  | some hm h => apply (hs.message hm).event h

/-- The loop, where the socket gives `x k` in iteration `k`: before iteration `n`, the queue holds
no more than the backlog of the messages. -/
theorem draining_run {x : ℕ → Answers} (hqueue : s.queue = []) (n : ℕ)
    (hrun : run (iteration b) ((List.range n).map x) s = some s') :
  Draining s (backlog (fun k => demand s (received b (x k 0 .nnRecv))) n) s'
  := by
  induction n generalizing s' with
  | zero =>
      obtain rfl := Option.some.inj hrun
      constructor
      · rw [hqueue]
        apply Nat.le_refl
      · rw [hqueue]
        intro ev hev
        cases hev
      · intro i
        rfl
      · rfl
  | succ n ih =>
      rw [List.range_succ, List.map_append, run_append] at hrun
      obtain ⟨s₁, hbefore, hlast⟩ := Option.bind_eq_some_iff.mp hrun
      rw [List.map_cons, List.map_nil, run] at hlast
      obtain ⟨s₂, hstep, hend⟩ := Option.bind_eq_some_iff.mp hlast
      obtain rfl := Option.some.inj hend
      apply (ih hbefore).iteration hstep

/-- The event thread, with any messages in any number of iterations from an empty queue, does not
start to send while the queue is full, in an iteration where no stretch of iterations that ends with
it brings more than `MAX_QUEUE_LENGTH` events and one for each iteration before the last. -/
theorem sendDataToQ_has_room (b : Build) {s s' : Sys} {x : ℕ → Answers} {n : ℕ}
    (hqueue : s.queue = [])
    (hdemand : ∀ m ≤ n, ∑ k ∈ Finset.Icc m n, demand s (received b (x k 0 .nnRecv)) ≤
      maxQueueLength + (n - m))
    (hrun : run (iteration b) ((List.range n).map x) s = some s') :
  ¬ SendsToFull b (x n) s'
  := by
  have hs := draining_run hqueue n hrun
  have hroom := (backlog_add_le_iff _ maxQueueLength n).mpr hdemand
  apply not_sendsToFull
  rw [hs.demand]
  apply Nat.le_trans (Nat.add_le_add_right hs.length_le _) hroom

/-! ### A client whose interface goes down again and again -/

/-- A build in which the socket gives the message of the client 7 that its interface is down. -/
def downBuild : Build :=
  { plainBuild true with
    sizeofIpcMsgPayload := 1
    readIpcMsgPayload := fun _ => stateMessage 7 .interfaceDown }

/-- The answers in an iteration that receives the message. -/
def downAnswers : Answers :=
  Outside.answers { workingOutside 1 none [] with socket := some ['d'] }

/-- A state with the client 7. -/
def clientState : Sys :=
  (freshState 1).setEntry 0 ((pppoeEntry 0).setPppPid 7)

theorem numbered_clientState :
  Numbered clientState
  := by
  constructor
  · decide +kernel
  · intro i _
    by_cases hi : i = 0
    · obtain rfl := hi
      rfl
    · show (Function.update pppoeEntry 0 _ i).cfg.instanceNumber = i + 1
      rw [Function.update_of_ne hi]
      rfl

theorem sendDataToQ_has_room_second :
  ∃ s', run (iteration downBuild) [downAnswers] clientState = some s' ∧
    ¬ SendsToFull downBuild downAnswers s'
  := by
  have hend : (run (iteration downBuild) [downAnswers] clientState).isSome = true := by
    decide +kernel
  obtain ⟨s', hrun⟩ := Option.isSome_iff_exists.mp hend
  use s', hrun
  apply sendDataToQ_has_room downBuild (x := fun _ => downAnswers) (n := 1) rfl _ hrun
  have hdemand : demand clientState (received downBuild (downAnswers 0 .nnRecv)) = 2 := by
    decide +kernel
  intro m hm
  rw [Finset.sum_const_nat (fun _ _ => hdemand), Nat.card_Icc, maxQueueLength]
  omega

/-- The hundredth message that the interface is down finds room for one event, and makes the thread
send two. -/
theorem hundredth_send_blocks :
  ¬ ∀ (b : Build) (s s' : Sys) (x : ℕ → Answers) (n : ℕ), Numbered s → s.queue = [] →
    run (iteration b) ((List.range n).map x) s = some s' → ¬ SendsToFull b (x n) s'
  := by
  intro h
  have hend : (run (iteration downBuild) ((List.range 99).map (fun _ => downAnswers))
      clientState).map (fun s => decide (SendsToFull downBuild downAnswers s)) = some true := by
    decide +kernel
  obtain ⟨s', hrun, hfull⟩ := Option.map_eq_some_iff.mp hend
  apply h downBuild _ s' (fun _ => downAnswers) 99 numbered_clientState rfl hrun
    (of_decide_eq_true hfull)

end PppManager
