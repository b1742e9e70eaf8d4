import PppManager.Effect.Checked
import PppManager.Manager.IpcpParams

/-!
# Lost status events

The functions that stop a client, set `Enable` and handle state messages queue status events for the
WAN manager, and report whether they succeed.  Some check what each send returns; a stop, and the
handling of an IPv6CP message that does not report completion, drop it.  A call that reports success
has queued all its status events exactly if it is not one of these, or none of its sends failed
(`keepsEvents_iff`).
-/

namespace PppManager

open Effect Effect.Program CText

/-! ### The operations -/

/-- The functions that queue status events and report whether they succeed, with their arguments. -/
inductive Operation where
  | stopPppClient (instanceNumber : ℕ)
  | enableIf (instanceNumber : ℕ) (enable : Bool)
  | processStateChangedMsg (instanceNumber : ℤ) (msg : IpcPppEventMsg)
  | processIpcpParams (instanceNumber : ℤ) (msg : IpcPppEventMsg)
  | processIpv6cpParams (instanceNumber : ℤ) (msg : IpcPppEventMsg)

/-- The status is `ANSC_STATUS_SUCCESS`. -/
def AnscStatus.isSuccess : AnscStatus → Bool
  | .success => true
  | .failure => false

/-- What an operation runs: whether it reports success. -/
def Operation.code (b : Build) : Operation → Code Bool
  | .stopPppClient n => AnscStatus.isSuccess <$> PppManager.stopPppClient b n
  | .enableIf n enable => PppManager.enableIf b n enable
  | .processStateChangedMsg n msg => AnscStatus.isSuccess <$> PppManager.processStateChangedMsg b n msg
  | .processIpcpParams n msg => AnscStatus.isSuccess <$> PppManager.processIpcpParams b n msg
  | .processIpv6cpParams n msg => AnscStatus.isSuccess <$> PppManager.processIpv6cpParams b n msg

/-- The operation drops what its sends return. -/
def Operation.DropsResults : Operation → Prop
  | .stopPppClient _ => True
  | .enableIf _ enable => enable = false
  | .processStateChangedMsg _ _ => False
  | .processIpcpParams _ _ => False
  | .processIpv6cpParams _ msg => msg.pppState ≠ .ipv6cpCompleted

/-- The answer is that the queue cannot be opened, or that an event is not sent. -/
def Op.Refuses : (o : Op) → o.Ans → Prop
  | .mqOpen, r => r = false
  | .mqSend _, r => r = false
  | _, _ => False

/-- The answers of an outside where every send succeeds. -/
def allSent (ω : Answers) : Answers
  | _, .mqOpen => true
  | _, .mqSend _ => true
  | k, o => ω k o

section

variable (b : Build) (t : Thread) (ω : Answers) (k : ℕ) (s : Sys)

/-- The status events the operation queues where every send succeeds and the queue has room. -/
def Operation.statusEvents (op : Operation) : Option (List PppEventQData) :=
  match (machine t).exec (allSent ω) (op.code b) k { s with queue := [] } with
  | .ok (_, s', _) => some (s'.queue.filter fun ev => ev.action = .busSet)
  | .error _ => none

/-- All status events of the operation are in the queue after it, in their order. -/
def Operation.KeepsEvents (op : Operation) (s' : Sys) : Prop :=
  ∃ evs, op.statusEvents b t ω k s = some evs ∧ evs.Sublist (s'.queue.drop s.queue.length)

/-- A send of the operation fails. -/
def Operation.FailsSend (op : Operation) : Prop :=
  ∃ o x, Op.Refuses o x ∧ (machine t).Gets ω (op.code b) k s o x

end

/-! ### The operations and the queue -/

/-- The operation neither opens the queue nor sends nor takes an event. -/
def Op.LeavesQueue : Op → Prop
  | .mqOpen => False
  | .mqSend _ => False
  | .mqReceive => False
  | _ => True

/-- The operation takes no event. -/
def Op.TakesNone : Op → Prop
  | .mqReceive => False
  | _ => True

/-- The result is that the queue cannot be opened, or that an event is not sent. -/
def Op.Unsent : (o : Op) → o.Res → Prop
  | .mqOpen, r => r = false
  | .mqSend _, r => r = false
  | _, _ => False

/-- The events in the queue of the first state are `q` and then those of the second, which is the
first but for the queue. -/
structure Ahead (q q' : List PppEventQData) (s₁ s₂ : Sys) : Prop where
  queue : s₁.queue = q ++ q'
  state : s₂ = { s₁ with queue := q' }

section

variable {t : Thread} {ω : Answers} {o : Op} {q q' : List PppEventQData} {s s' s₁ s₂ s₁' : Sys}

theorem Op.LeavesQueue.takesNone (ho : o.LeavesQueue) :
  o.TakesNone
  := by
  cases o with
  | mqReceive => apply ho
  | _ => trivial

theorem Op.LeavesQueue.not_unsent (ho : o.LeavesQueue) (r : o.Res) :
  ¬ o.Unsent r
  := by
  cases o with
  | mqOpen | mqSend ev => apply ho.elim
  | _ => apply not_false

theorem Op.LeavesQueue.not_refuses (ho : o.LeavesQueue) (x : o.Ans) :
  ¬ o.Refuses x
  := by
  cases o with
  | mqOpen | mqSend ev => apply ho.elim
  | _ => apply not_false

theorem Op.OnEntry.leavesQueue {K : (DmlPppIfFull → DmlPppIfFull) → Prop} {W C : Prop} {i : ℕ}
    (ho : o.OnEntry K W C i) :
  o.LeavesQueue
  := by
  cases o with
  | mqOpen | mqSend ev | mqReceive => apply ho
  | _ => trivial

/-- An event that the outside refuses is not sent. -/
theorem unsent_of_refuses {x : o.Ans} {r : o.Res} (hx : o.Refuses x)
    (hstep : step t o x s = .ok (r, s')) :
  o.Unsent r
  := by
  cases o with
  | mqOpen =>
      obtain ⟨rfl, -⟩ := Prod.mk.inj (Except.ok.inj hstep)
      apply hx
  | mqSend ev =>
      cases hx
      obtain ⟨rfl, -⟩ := Prod.mk.inj (Except.ok.inj hstep)
      rfl
  | _ => apply hx.elim

/-- The answers only differ where a send fails. -/
theorem allSent_eq (k : ℕ) (o : Op) :
  o.Refuses (ω k o) ∨ allSent ω k o = ω k o
  := by
  cases o with
  | mqOpen =>
      cases h : ω k .mqOpen with
      | false => apply Or.inl rfl
      | true => apply Or.inr rfl
  | mqSend ev =>
      cases h : ω k (.mqSend ev) with
      | false => apply Or.inl rfl
      | true => apply Or.inr rfl
  | _ => apply Or.inr rfl

/-- An operation that leaves the queue does not depend on it. -/
theorem Ahead.step_leaves (h : Ahead q q' s₁ s₂) (ho : o.LeavesQueue) {x : o.Ans} {r : o.Res}
    (hstep : step t o x s₁ = .ok (r, s₁')) :
  ∃ s₂', step t o x s₂ = .ok (r, s₂') ∧ Ahead q q' s₁' s₂'
  := by
  obtain ⟨hqueue, rfl⟩ := h
  have hends : step t o x { s₁ with queue := q' } = .ok (r, { s₁' with queue := q' }) ∧
      s₁'.queue = s₁.queue := by
    cases o with
    | mqOpen | mqSend ev | mqReceive => apply ho.elim
    | lock i =>
        rw [step] at hstep ⊢
        split_ifs at hstep ⊢ with hlen hown
        obtain ⟨rfl, rfl⟩ := Prod.mk.inj (Except.ok.inj hstep)
        exact ⟨rfl, rfl⟩
    | unlock i =>
        cases hlocks : s₁.locks i with
        | nil => simp only [step, hlocks, reduceCtorEq] at hstep
        | cons t' owners =>
            simp only [step, hlocks] at hstep ⊢
            split_ifs at hstep ⊢
            obtain ⟨rfl, rfl⟩ := Prod.mk.inj (Except.ok.inj hstep)
            exact ⟨rfl, rfl⟩
    | load i | store i f =>
        rw [step] at hstep ⊢
        split_ifs at hstep ⊢
        obtain ⟨rfl, rfl⟩ := Prod.mk.inj (Except.ok.inj hstep)
        exact ⟨rfl, rfl⟩
    | undefined u => cases hstep
    | psmSet name value =>
        obtain ⟨rfl, rfl⟩ := Prod.mk.inj (Except.ok.inj hstep)
        cases x <;> exact ⟨rfl, rfl⟩
    | _ =>
        obtain ⟨rfl, rfl⟩ := Prod.mk.inj (Except.ok.inj hstep)
        exact ⟨rfl, rfl⟩
  exact ⟨_, hends.1, hends.2.trans hqueue, rfl⟩

/-- An operation that takes no event does the same, whatever is first in the queue. -/
theorem Ahead.step (h : Ahead q q' s₁ s₂) (ho : o.TakesNone) {x : o.Ans} {r : o.Res}
    (hstep : step t o x s₁ = .ok (r, s₁')) :
  ∃ s₂', PppManager.step t o x s₂ = .ok (r, s₂') ∧ ∃ q'', Ahead q q'' s₁' s₂'
  := by
  have hleaves : o.LeavesQueue → ∃ s₂', PppManager.step t o x s₂ = .ok (r, s₂') ∧
      ∃ q'', Ahead q q'' s₁' s₂' := by
    intro hleaves
    obtain ⟨s₂', hstep', h'⟩ := h.step_leaves hleaves hstep
    exact ⟨s₂', hstep', q', h'⟩
  cases o with
  | mqReceive => apply ho.elim
  | mqOpen =>
      obtain ⟨rfl, rfl⟩ := Prod.mk.inj (Except.ok.inj hstep)
      exact ⟨s₂, rfl, q', h⟩
  | mqSend ev =>
      obtain ⟨hqueue, rfl⟩ := h
      cases x with
      | false =>
          obtain ⟨rfl, rfl⟩ := Prod.mk.inj (Except.ok.inj hstep)
          exact ⟨_, rfl, q', hqueue, rfl⟩
      | true =>
          simp only [PppManager.step, if_true] at hstep ⊢
          split_ifs at hstep with hroom
          obtain ⟨rfl, rfl⟩ := Prod.mk.inj (Except.ok.inj hstep)
          have hroom' : q'.length < maxQueueLength := by
            rw [hqueue, List.length_append] at hroom
            omega
          rw [if_pos hroom']
          refine ⟨_, rfl, q' ++ [ev], ?_, rfl⟩
          rw [Sys.post_queue, hqueue, List.append_assoc]
  | _ => apply hleaves trivial

end

/-! ### What the operations check -/

section

variable {b : Build} {n i : ℕ} {inst : ℤ} {msg : IpcPppEventMsg} {α β : Type} {V : α → Prop}

theorem leaves_local {K : (DmlPppIfFull → DmlPppIfFull) → Prop} {W C : Prop} {p : Code α}
    (hp : Only (Op.OnEntry K W C i) p) :
  Only Op.LeavesQueue p
  := hp.mono (fun _ => Op.OnEntry.leavesQueue)

theorem leaves_load :
  Only Op.LeavesQueue (load i)
  := leaves_local (K := AnyWrite) (W := True) (C := True) local_load

theorem leaves_set (f : DmlPppIfFull → DmlPppIfFull) :
  Only Op.LeavesQueue (store i f)
  := leaves_local (W := True) (local_set f)

theorem leaves_getIfaceDataLocked :
  Only Op.LeavesQueue (getIfaceDataLocked n)
  := only_getIfaceDataLocked trivial (fun _ => trivial)

theorem leaves_release (a : α) :
  Only Op.LeavesQueue (do getIfaceDataRelease i; pure a)
  := by
  apply only_bind (reads_op (P := Op.LeavesQueue) (o := .unlock _) trivial)
  intro _
  apply only_pure

theorem checked_of_leaves {p : Code α} (hp : Only Op.LeavesQueue p) :
  Checks Op.TakesNone Op.Unsent V p
  := checks_of_only (fun _ => Op.LeavesQueue.takesNone) (fun _ r ho => ho.not_unsent r) hp

theorem checked_after {p : Code β} {f : β → Code α} (hp : Only Op.LeavesQueue p)
    (hf : ∀ a, Checks Op.TakesNone Op.Unsent V (f a)) :
  Checks Op.TakesNone Op.Unsent V (p >>= f)
  := checks_bind_of_only (fun _ => Op.LeavesQueue.takesNone) (fun _ r ho => ho.not_unsent r) hp hf

theorem ends_release {a : α} (ha : V a) :
  Ends V (do getIfaceDataRelease i; pure a : Code α)
  := ends_bind (fun _ => ends_pure ha)

theorem ends_true {p : Code α} :
  Ends (fun _ => True) p
  := by
  induction p with
  | ret a => trivial
  | call o k ih =>
      intro r
      apply ih r

/-- `PppMgr_SendDataToQ` reports that an event is not sent. -/
theorem checked_sendDataToQ (ev : PppEventQData) :
  Checks Op.TakesNone Op.Unsent (· = .failure) (sendDataToQ ev)
  := by
  use trivial
  rintro (_ | _)
  · constructor
    · intro _
      rfl
    · trivial
  · constructor
    · nofun
    · use trivial
      rintro (_ | _)
      · constructor
        · intro _
          rfl
        · trivial
      · constructor
        · nofun
        · trivial

theorem checked_sendPppdStartEventToQ :
  Checks Op.TakesNone Op.Unsent (· = .failure) (sendPppdStartEventToQ n)
  := by
  apply checked_after leaves_getIfaceDataLocked
  rintro (_ | i)
  · apply checks_pure
  · apply checked_after leaves_load
    intro pEntry
    apply (checked_sendDataToQ _).bind
    · rintro q rfl
      apply ends_release rfl
    · rintro (_ | _)
      · apply checked_after (leaves_set _)
        intro _
        apply checked_of_leaves (leaves_release _)
      · apply checked_of_leaves (leaves_release _)

theorem checked_postLinkStatus (v : CStr) :
  Checks Op.TakesNone Op.Unsent (· = .failure) (postLinkStatus b i v)
  := by
  apply checked_after leaves_load
  intro pEntry
  apply (checked_sendDataToQ _).bind
  · rintro q rfl
    apply ends_release rfl
  · rintro (_ | _)
    · apply (checked_sendDataToQ _).bind
      · rintro q rfl
        apply ends_release rfl
      · rintro (_ | _) <;> apply checked_of_leaves (leaves_release _)
    · apply checked_of_leaves (leaves_release _)

theorem checked_processStateChangedMsg :
  Checks Op.TakesNone Op.Unsent (· = .failure) (processStateChangedMsg b inst msg)
  := by
  apply checks_ite
  · intro _
    apply checks_pure
  · intro _
    apply checked_after leaves_getIfaceDataLocked
    rintro (_ | i)
    · apply checks_pure
    · apply checked_after (leaves_local (W := True) (local_switchPppState msg))
      rintro (_ | v)
      · apply checked_of_leaves (leaves_release _)
      · apply checked_postLinkStatus

theorem checked_rejectIpcpParams :
  Checks Op.TakesNone Op.Unsent (· = .failure) (rejectIpcpParams b i)
  := by
  apply checked_after leaves_load
  intro pEntry
  apply (checked_sendDataToQ _).bind
  · intro q _
    apply ends_release rfl
  · intro q
    apply checked_of_leaves (leaves_release _)

theorem checked_acceptIpcpParams :
  Checks Op.TakesNone Op.Unsent (· = .failure) (acceptIpcpParams b i)
  := by
  apply checked_after leaves_load
  intro pEntry
  apply (checked_sendDataToQ _).bind
  · rintro q rfl
    apply ends_release rfl
  · rintro (_ | _) <;> apply checked_of_leaves (leaves_release _)

theorem checked_storeIpcpParams {m : PppIpcpMsg} :
  Checks Op.TakesNone Op.Unsent (· = .failure) (storeIpcpParams b i m)
  := by
  apply checked_after (leaves_set _)
  intro _
  apply checked_after (leaves_set _)
  intro _
  apply checked_after (leaves_set _)
  intro _
  apply checked_after (leaves_set _)
  intro _
  split
  · apply checked_rejectIpcpParams
  · apply checked_after (leaves_set _)
    intro _
    split
    · apply checked_rejectIpcpParams
    · split
      · apply checked_rejectIpcpParams
      · apply checked_after (leaves_set _)
        intro _
        apply checked_acceptIpcpParams

theorem checked_processIpcpParams :
  Checks Op.TakesNone Op.Unsent (· = .failure) (processIpcpParams b inst msg)
  := by
  have hdown : Checks Op.TakesNone Op.Unsent (· = .failure)
      (do let _ ← setIPCPStatusDown b inst; pure AnscStatus.failure : Code AnscStatus) := by
    apply (checked_sendDataToQ _).bind
    · intro q _
      apply ends_pure (E := sig) rfl
    · intro q
      apply checks_pure
  apply checks_ite
  · intro _
    apply checks_pure
  · intro _
    apply checks_ite
    · intro _
      apply hdown
    · intro _
      apply checks_ite
      · intro _
        apply hdown
      · intro _
        apply checked_after leaves_getIfaceDataLocked
        rintro (_ | i)
        · apply checks_pure
        · apply checked_storeIpcpParams

/-- `PppMgr_ProcessIpv6cpParams` reports that an event is not sent, where the message reports
completion. -/
theorem checked_processIpv6cpParams :
  Checks Op.TakesNone Op.Unsent (fun q => msg.pppState ≠ .ipv6cpCompleted ∨ q = .failure)
    (processIpv6cpParams b inst msg)
  := by
  apply checks_ite
  · intro _
    apply checks_pure
  · intro _
    apply checked_after leaves_getIfaceDataLocked
    rintro (_ | i)
    · apply checks_pure
    · apply checked_after leaves_load
      intro pEntry
      apply checks_ite
      · intro _
        apply checked_after (leaves_local (W := True) (local_storeIpv6cpParams _))
        intro _
        apply checked_after (reads_op (P := Op.LeavesQueue) (o := .generateDuidFile _) trivial)
        intro _
        apply (checked_sendDataToQ _).bind
        · rintro q rfl
          apply ends_release (Or.inr rfl)
        · rintro (_ | _) <;> apply checked_of_leaves (leaves_release _)
      · intro hstate
        apply checked_after (reads_op (P := Op.LeavesQueue) (o := .removeDuidFile _) trivial)
        intro _
        apply (checked_sendDataToQ _).bind
        · intro q _
          apply ends_release (Or.inl hstate)
        · intro q
          apply checked_of_leaves (leaves_release _)

theorem checked_stopPppClient :
  Checks Op.TakesNone Op.Unsent (fun _ => True) (stopPppClient b n)
  := by
  apply checked_after leaves_getIfaceDataLocked
  rintro (_ | i)
  · apply checks_pure
  · apply checked_after (leaves_set _)
    intro _
    apply checked_after (leaves_local (W := True) local_stopClient)
    intro _
    apply checked_after (leaves_set _)
    intro _
    apply checked_after (reads_op (P := Op.LeavesQueue) (o := .unlock _) trivial)
    intro _
    apply (checked_sendDataToQ _).bind (fun _ _ => ends_true)
    intro _
    apply (checked_sendDataToQ _).bind (fun _ _ => ends_true)
    intro _
    apply (checked_sendDataToQ _).bind (fun _ _ => ends_true)
    intro _
    apply checks_pure

theorem checked_isSuccess {P : Prop} {p : Code AnscStatus}
    (hp : Checks Op.TakesNone Op.Unsent (fun q => P ∨ q = .failure) p) :
  Checks Op.TakesNone Op.Unsent (fun r => P ∨ r = false) (AnscStatus.isSuccess <$> p)
  := by
  apply hp.bind
  · intro q hq
    apply ends_pure
    apply hq.imp_right
    rintro rfl
    rfl
  · intro q
    apply checks_pure

/-- An operation that reports success has sent its events, unless it drops the results. -/
theorem checked_code (op : Operation) :
  Checks Op.TakesNone Op.Unsent (fun r => op.DropsResults ∨ r = false) (op.code b)
  := by
  have hweaken : ∀ {P : Prop} {p : Code AnscStatus},
      Checks Op.TakesNone Op.Unsent (· = .failure) p →
      Checks Op.TakesNone Op.Unsent (fun q => P ∨ q = .failure) p := by
    intro P p hp
    apply hp.mono
    intro q
    apply Or.inr
  cases op with
  | stopPppClient n =>
      apply checked_isSuccess
      apply checked_stopPppClient.mono
      intro q _
      apply Or.inl trivial
  | enableIf n enable =>
      cases enable with
      | true =>
          apply checked_sendPppdStartEventToQ.bind
          · rintro q rfl
            apply ends_pure (E := sig) (Or.inr rfl)
          · rintro (_ | _) <;> apply checks_pure
      | false =>
          apply checked_stopPppClient.bind
          · rintro (_ | _) _ <;> apply ends_pure (E := sig) (Or.inl rfl)
          · rintro (_ | _) <;> apply checks_pure
  | processStateChangedMsg n msg =>
      apply checked_isSuccess
      apply hweaken checked_processStateChangedMsg
  | processIpcpParams n msg =>
      apply checked_isSuccess
      apply hweaken checked_processIpcpParams
  | processIpv6cpParams n msg =>
      apply checked_isSuccess
      apply checked_processIpv6cpParams

end

/-! ### Sends whose results are dropped -/

/-- The events sent one after the other, whatever the sends return. -/
def sendAll : List PppEventQData → Code Unit
  | [] => pure ()
  | ev :: evs => do
    let _ ← sendDataToQ ev
    sendAll evs

/-- The state with the events appended to the queue. -/
def Sys.postAll (s : Sys) (evs : List PppEventQData) : Sys :=
  evs.foldl Sys.post s

section

variable {t : Thread} {ω : Answers} {k k' : ℕ} {s s' : Sys} {evs : List PppEventQData}

theorem postAll_queue :
  (s.postAll evs).queue = s.queue ++ evs
  := by
  induction evs generalizing s with
  | nil => rw [Sys.postAll, List.foldl_nil, List.append_nil]
  | cons ev evs ih =>
      rw [Sys.postAll, List.foldl_cons]
      apply ih.trans
      rw [Sys.post_queue, List.append_assoc]
      rfl

theorem postAll_locks :
  (s.postAll evs).locks = s.locks
  := by
  induction evs generalizing s with
  | nil => rfl
  | cons ev evs ih => apply ih (s := s.post ev)

/-- The moment after an attempt to send an event. -/
def afterSend (ω : Answers) (k : ℕ) : ℕ :=
  if ω k .mqOpen then k + 2 else k + 1

/-- An attempt to send an event succeeds. -/
def IsSent (ω : Answers) (ev : PppEventQData) (k : ℕ) : Prop :=
  ω k .mqOpen = true ∧ ω (k + 1) (.mqSend ev) = true

/-- `PppMgr_SendDataToQ` sends the event, or reports that it does not. -/
theorem exec_sendDataToQ_ends {ev : PppEventQData} {q : AnscStatus}
    (hexec : (machine t).exec ω (sendDataToQ ev) k s = .ok (q, s', k')) :
  (¬ IsSent ω ev k ∧ q = .failure ∧ s' = s ∨ IsSent ω ev k ∧ q = .success ∧ s' = s.post ev) ∧
    k' = afterSend ω k
  := by
  rw [sendDataToQ, Machine.exec_bind, exec_mqOpen] at hexec
  dsimp only [Except.bind] at hexec
  rw [afterSend, IsSent]
  cases hω : ω k .mqOpen with
  | false =>
      rw [hω] at hexec
      cases hexec
      exact ⟨.inl ⟨fun h => Bool.false_ne_true h.1, rfl, rfl⟩, rfl⟩
  | true =>
      rw [hω, if_pos rfl, Machine.exec_bind, mqSend, perform, Program.perform, Machine.exec] at hexec
      cases hω : ω (k + 1) (.mqSend ev) with
      | false =>
          rw [hω] at hexec
          cases hexec
          exact ⟨.inl ⟨fun h => Bool.false_ne_true h.2, rfl, rfl⟩, rfl⟩
      | true =>
          rw [hω] at hexec
          simp only [step, if_true] at hexec
          split_ifs at hexec with hroom
          · cases hexec
            exact ⟨.inr ⟨⟨rfl, rfl⟩, rfl, rfl⟩, rfl⟩
          · cases hexec

theorem exec_sendDataToQ_cases {ev : PppEventQData} {q : AnscStatus}
    (hexec : (machine t).exec ω (sendDataToQ ev) k s = .ok (q, s', k')) :
  q = .failure ∧ s' = s ∨ q = .success ∧ s' = s.post ev
  := (exec_sendDataToQ_ends hexec).1.imp And.right And.right

/-- Each event whose send succeeds is appended, and fewer than all are if a send fails. -/
theorem exec_sendAll {u : Unit} (hexec : (machine t).exec ω (sendAll evs) k s = .ok (u, s', k')) :
  ∃ kept, s' = s.postAll kept ∧ kept.length ≤ evs.length ∧
    ∀ o x, Op.Refuses o x → (machine t).Gets ω (sendAll evs) k s o x → kept.length < evs.length
  := by
  induction evs generalizing k s with
  | nil =>
      cases hexec
      refine ⟨[], rfl, Nat.le_refl _, ?_⟩
      intro o x _ hgets
      apply hgets.elim
  | cons ev evs ih =>
      rw [sendAll, Machine.exec_bind] at hexec
      cases hsend : (machine t).exec ω (sendDataToQ ev) k s with
      | error e =>
          rw [hsend] at hexec
          cases hexec
      | ok r =>
          obtain ⟨q, s₁, k₁⟩ := r
          rw [hsend] at hexec
          obtain ⟨kept, rfl, hle, hlt⟩ := ih hexec
          rcases exec_sendDataToQ_cases hsend with ⟨-, rfl⟩ | ⟨hq, rfl⟩
          · have hless : kept.length < (ev :: evs).length := Nat.lt_succ_of_le hle
            refine ⟨kept, rfl, Nat.le_of_lt hless, ?_⟩
            intros
            apply hless
          · refine ⟨ev :: kept, rfl, Nat.succ_le_succ hle, ?_⟩
            intro o x hx hgets
            apply Nat.succ_lt_succ
            apply hlt o x hx
            rcases Machine.gets_bind.mp hgets with hfirst | ⟨q', s₁', k₁', hexec', hrest⟩
            · apply absurd hfirst
              apply Machine.not_gets_of_checks (fun _ _ _ _ _ => unsent_of_refuses)
                (checked_sendDataToQ ev) hsend _ hx
              rw [hq]
              nofun
            · cases hsend.symm.trans hexec'
              apply hrest

/-- Where every send succeeds, all events are appended. -/
theorem exec_sendAll_allSent (hroom : s.queue.length + evs.length ≤ maxQueueLength) :
  ∃ k', (machine t).exec (allSent ω) (sendAll evs) k s = .ok ((), s.postAll evs, k')
  := by
  induction evs generalizing k s with
  | nil => exact ⟨k, rfl⟩
  | cons ev evs ih =>
      rw [List.length_cons] at hroom
      have hsend : (machine t).exec (allSent ω) (sendDataToQ ev) k s =
          .ok (.success, s.post ev, k + 2) := by
        apply exec_sendDataToQ_of_sent rfl rfl
        omega
      rw [sendAll, Machine.exec_bind, hsend]
      apply ih
      rw [Sys.post_queue, List.length_append, List.length_singleton]
      omega

end

/-! ### Operations that drop the results -/

/-- A program that sends events and drops the results, where it finds what they are about. -/
def dropping {γ : Type} (head : Code (Option γ)) (evs : γ → List PppEventQData)
    (rest : γ → Code Bool) (r : Bool) : Code Bool := do
  match ← head with
  | none => pure r
  | some c =>
    sendAll (evs c)
    rest c

/-- The program leaves the queue as it is, and ends in the same way wherever the mutexes are the
same. -/
def NeedsOnlyLocks (t : Thread) (p : Code Bool) : Prop :=
  ∀ ω ω' k k' k₂ s s' s₂ r, (machine t).exec ω p k s = .ok (r, s', k') → s₂.locks = s.locks →
    s'.queue = s.queue ∧
      ∃ s₂' k₂', (machine t).exec ω' p k₂ s₂ = .ok (r, s₂', k₂') ∧ s₂'.queue = s₂.queue

section

variable {b : Build} {t : Thread} {ω : Answers} {k k' n i : ℕ} {s s' : Sys} {r : Bool} {γ : Type}

theorem needsOnlyLocks_pure :
  NeedsOnlyLocks t (pure r)
  := by
  intro ω ω' k k' k₂ s s' s₂ r' hexec _
  cases hexec
  exact ⟨rfl, s₂, k₂, rfl, rfl⟩

theorem needsOnlyLocks_release :
  NeedsOnlyLocks t (do getIfaceDataRelease i; pure r)
  := by
  intro ω ω' k k' k₂ s s' s₂ r' hexec hlocks
  rw [Machine.exec_bind, getIfaceDataRelease, unlock, perform, Program.perform, Machine.exec] at hexec
  cases hown : s.locks i with
  | nil =>
      simp only [step, hown] at hexec
      cases hexec
  | cons t' owners =>
      simp only [step, hown] at hexec
      split_ifs at hexec with ht
      · obtain rfl := ht
        cases hexec
        have hunlock : (machine t').exec ω' (getIfaceDataRelease i) k₂ s₂ =
            .ok ((), s₂.setLock i owners, k₂ + 1) := by
          apply exec_unlock
          rw [hlocks, hown]
        rw [Machine.exec_bind, hunlock]
        exact ⟨rfl, _, _, rfl, rfl⟩
      · cases hexec

theorem not_gets_of_leaves {α : Type} {p : Code α} (hp : Only Op.LeavesQueue p) {o : Op} {x : o.Ans}
    (hx : o.Refuses x) :
  ¬ (machine t).Gets ω p k s o x
  := by
  apply Machine.not_gets_of_only hp
  intro ho
  apply ho.not_refuses x hx

/-- Sends of which one fails leave the queue shorter than if every send had succeeded. -/
theorem exec_sendAll_rest {evs : List PppEventQData} {rest : Code Bool}
    (hrest : Only Op.LeavesQueue rest) (hlocks : NeedsOnlyLocks t rest)
    (hlen : evs.length ≤ maxQueueLength)
    (hexec : (machine t).exec ω (do sendAll evs; rest) k s = .ok (r, s', k')) {o : Op} {x : o.Ans}
    (hx : o.Refuses x) (hgets : (machine t).Gets ω (do sendAll evs; rest) k s o x) :
  (∃ kept, s'.queue = s.queue ++ kept ∧ kept.length < evs.length) ∧
    ∃ s₂ k₂, (machine t).exec (allSent ω) (do sendAll evs; rest) k { s with queue := [] } =
      .ok (r, s₂, k₂) ∧ s₂.queue = evs
  := by
  rw [Machine.exec_bind] at hexec
  cases hsend : (machine t).exec ω (sendAll evs) k s with
  | error e =>
      rw [hsend] at hexec
      cases hexec
  | ok sent =>
      obtain ⟨u, s₁, k₁⟩ := sent
      rw [hsend] at hexec
      dsimp only [Except.bind] at hexec
      obtain ⟨kept, rfl, -, hless⟩ := exec_sendAll hsend
      have hroom : ({ s with queue := [] } : Sys).queue.length + evs.length ≤ maxQueueLength := by
        rw [List.length_nil, Nat.zero_add]
        apply hlen
      obtain ⟨k₂, hsend₂⟩ := exec_sendAll_allSent (t := t) (ω := ω) (k := k) hroom
      have hsame : (({ s with queue := [] } : Sys).postAll evs).locks = (s.postAll kept).locks := by
        rw [postAll_locks, postAll_locks]
      obtain ⟨hleft, s₂, k₃, hend, hqueue⟩ :=
        hlocks ω (allSent ω) _ _ k₂ _ _ _ _ hexec hsame
      constructor
      · use kept
        rw [hleft, postAll_queue]
        use rfl
        apply hless o x hx
        rcases Machine.gets_bind.mp hgets with h | ⟨u', s₁, k₁', -, h⟩
        · apply h
        · apply absurd h (not_gets_of_leaves hrest hx)
      · use s₂, k₃
        rw [Machine.exec_bind, hsend₂]
        use hend
        rw [hqueue, postAll_queue, List.nil_append]

theorem exec_dropping {head : Code (Option γ)} {evs : γ → List PppEventQData} {rest : γ → Code Bool}
    {r₀ : Bool} (hhead : Only Op.LeavesQueue head) (hrest : ∀ c, Only Op.LeavesQueue (rest c))
    (hlocks : ∀ c, NeedsOnlyLocks t (rest c)) (hlen : ∀ c, (evs c).length ≤ maxQueueLength)
    (hexec : (machine t).exec ω (dropping head evs rest r₀) k s = .ok (r, s', k'))
    {o : Op} {x : o.Ans} (hx : o.Refuses x)
    (hgets : (machine t).Gets ω (dropping head evs rest r₀) k s o x) :
  ∃ c, (∃ kept, s'.queue = s.queue ++ kept ∧ kept.length < (evs c).length) ∧
    ∃ s₂ k₂, (machine t).exec (allSent ω) (dropping head evs rest r₀) k { s with queue := [] } =
      .ok (r, s₂, k₂) ∧ s₂.queue = evs c
  := by
  rw [dropping, Machine.exec_bind] at hexec
  cases hfound : (machine t).exec ω head k s with
  | error e =>
      rw [hfound] at hexec
      cases hexec
  | ok found =>
      obtain ⟨c, s₁, k₁⟩ := found
      obtain ⟨s₂, hfound₂, hqueue, rfl⟩ := Machine.exec_follows (R := Ahead s.queue []) allSent_eq
        (fun o x s₁ s₂ r s₁' ho h => h.step_leaves ho) hhead ⟨(List.append_nil _).symm, rfl⟩
        (fun o x hx => not_gets_of_leaves hhead hx) hfound
      rw [hfound] at hexec
      rcases Machine.gets_bind.mp hgets with h | ⟨c', s₁', k₁', hfound', h⟩
      · apply absurd h (not_gets_of_leaves hhead hx)
      · cases hfound.symm.trans hfound'
        cases c with
        | none => apply h.elim
        | some c =>
            obtain ⟨hlost, s₂, k₂, hend, hkept⟩ :=
              exec_sendAll_rest (hrest c) (hlocks c) (hlen c) hexec hx h
            rw [hqueue, List.append_nil] at hlost
            refine ⟨c, hlost, s₂, k₂, ?_, hkept⟩
            rw [dropping, Machine.exec_bind, hfound₂]
            apply hend

end

/-! ### A stop and an IPv6CP message -/

/-- `PppMgr_StopPppClient` up to its sends: whether there is an entry. -/
def stopHead (b : Build) (n : ℕ) : Code (Option Unit) := do
  match ← getIfaceDataLocked n with
  | none => pure none
  | some i =>
    store i (·.setBEnabled false)
    stopClient b i
    store i (·.resetSession)
    getIfaceDataRelease i
    pure (some ())

/-- `PppMgr_ProcessIpv6cpParams` up to its send, on a message that does not report completion: the
entry and its instance. -/
def ipv6cpHead (n : ℕ) : Code (Option (ℕ × ℤ)) := do
  match ← getIfaceDataLocked n with
  | none => pure none
  | some i =>
    let pEntry ← load i
    removeDuidFile pEntry.info.name
    pure (some (i, toInt pEntry.cfg.instanceNumber))

section

variable {b : Build} {n : ℕ} {inst : ℤ} {msg : IpcPppEventMsg}

theorem leaves_stopHead :
  Only Op.LeavesQueue (stopHead b n)
  := by
  apply only_bind leaves_getIfaceDataLocked
  rintro (_ | i)
  · apply only_pure
  · apply only_bind (leaves_set _)
    intro _
    apply only_bind (leaves_local (W := True) local_stopClient)
    intro _
    apply only_bind (leaves_set _)
    intro _
    apply leaves_release

theorem leaves_ipv6cpHead :
  Only Op.LeavesQueue (ipv6cpHead n)
  := by
  apply only_bind leaves_getIfaceDataLocked
  rintro (_ | i)
  · apply only_pure
  · apply only_bind leaves_load
    intro pEntry
    apply only_bind (reads_op (P := Op.LeavesQueue) (o := .removeDuidFile _) trivial)
    intro _
    apply only_pure

theorem stopPppClient_eq :
  AnscStatus.isSuccess <$> stopPppClient b n =
    dropping (stopHead b n) (fun _ => stopEvents b (toInt n) true true true) (fun _ => pure true) false
  := by
  rw [stopPppClient, dropping, stopHead, map_eq_pure_bind, LawfulMonad.bind_assoc,
    LawfulMonad.bind_assoc]
  congr 1
  funext found
  cases found with
  | none => rfl
  | some i =>
      simp only [stopEvents, ifSent, if_true, List.cons_append, List.nil_append, sendAll,
        LawfulMonad.bind_assoc, pure_bind]
      rfl

theorem enableIf_false :
  enableIf b n false = AnscStatus.isSuccess <$> stopPppClient b n
  := by
  rw [enableIf, if_neg Bool.false_ne_true, map_eq_pure_bind]
  congr 1
  funext q
  cases q <;> rfl

theorem processIpv6cpParams_eq (hinst : ¬ inst ≤ 0) (hstate : msg.pppState ≠ .ipv6cpCompleted) :
  AnscStatus.isSuccess <$> processIpv6cpParams b inst msg =
    dropping (ipv6cpHead inst.toNat)
      (fun c => [busSetEvent c.2 (pppIpv6cpStatusParamName b) down])
      (fun c => do getIfaceDataRelease c.1; pure true) true
  := by
  rw [processIpv6cpParams, if_neg hinst, dropping, ipv6cpHead, map_eq_pure_bind,
    LawfulMonad.bind_assoc, LawfulMonad.bind_assoc]
  congr 1
  funext found
  cases found with
  | none => rfl
  | some i =>
      simp only [if_neg hstate, sendAll, LawfulMonad.bind_assoc, pure_bind]
      rfl

end

/-! ### What is kept -/

section

variable {b : Build} {t : Thread} {ω : Answers} {k k' : ℕ} {s s' : Sys} {op : Operation} {r : Bool}

/-- An operation none of whose sends fails keeps its events. -/
theorem keepsEvents_of_sent (hexec : (machine t).exec ω (op.code b) k s = .ok (r, s', k'))
    (hsent : ¬ op.FailsSend b t ω k s) :
  op.KeepsEvents b t ω k s s'
  := by
  have hstart : ∃ q', Ahead s.queue q' s { s with queue := [] } :=
    ⟨[], (List.append_nil _).symm, rfl⟩
  obtain ⟨s₂, hideal, q', hqueue, rfl⟩ := Machine.exec_follows
    (R := fun s₁ s₂ => ∃ q', Ahead s.queue q' s₁ s₂) allSent_eq
    (fun o x s₁ s₂ r s₁' ho h => h.elim fun q' h => h.step ho) (checked_code op).only hstart
    (fun o x hx hgets => hsent ⟨o, x, hx, hgets⟩) hexec
  use q'.filter fun ev => ev.action = .busSet
  constructor
  · rw [Operation.statusEvents, hideal]
  · rw [hqueue, List.drop_left]
    apply List.filter_sublist

/-- An operation that drops the results loses an event if a send fails. -/
theorem not_keepsEvents_of_dropping {γ : Type} {head : Code (Option γ)}
    {evs : γ → List PppEventQData} {rest : γ → Code Bool} {r₀ : Bool}
    (hop : op.code b = dropping head evs rest r₀) (hhead : Only Op.LeavesQueue head)
    (hrest : ∀ c, Only Op.LeavesQueue (rest c)) (hlocks : ∀ c, NeedsOnlyLocks t (rest c))
    (hlen : ∀ c, (evs c).length ≤ maxQueueLength) (hevs : ∀ c, ∀ ev ∈ evs c, ev.action = .busSet)
    (hexec : (machine t).exec ω (op.code b) k s = .ok (r, s', k'))
    (hfails : op.FailsSend b t ω k s) :
  ¬ op.KeepsEvents b t ω k s s'
  := by
  obtain ⟨o, x, hx, hgets⟩ := hfails
  rw [hop] at hexec hgets
  obtain ⟨c, ⟨kept, hqueue, hless⟩, s₂, k₂, hideal, hall⟩ :=
    exec_dropping hhead hrest hlocks hlen hexec hx hgets
  rintro ⟨evs', hstatus, hsub⟩
  rw [Operation.statusEvents, hop, hideal] at hstatus
  obtain rfl := Option.some.inj hstatus
  rw [hqueue, List.drop_left, hall, List.filter_eq_self.mpr] at hsub
  · apply Nat.not_lt_of_le hsub.length_le hless
  · intro ev hev
    apply decide_eq_true (hevs c ev hev)

theorem not_keepsEvents_stop {n : ℕ}
    (hop : op.code b = AnscStatus.isSuccess <$> stopPppClient b n)
    (hexec : (machine t).exec ω (op.code b) k s = .ok (r, s', k'))
    (hfails : op.FailsSend b t ω k s) :
  ¬ op.KeepsEvents b t ω k s s'
  := by
  apply not_keepsEvents_of_dropping (hop.trans stopPppClient_eq) leaves_stopHead _ _ _ _ hexec hfails
  · intro c
    apply only_pure
  · intro c
    apply needsOnlyLocks_pure
  · intro c
    apply Nat.le_of_ble_eq_true
    rfl
  · intro c ev hev
    apply (setsFor_stopEvents ev hev).action

/-- An operation that reports success has queued all its status events exactly if it checks what its
sends return, or none of them fails. -/
theorem keepsEvents_iff (hexec : (machine t).exec ω (op.code b) k s = .ok (true, s', k')) :
  op.KeepsEvents b t ω k s s' ↔ (op.DropsResults → ¬ op.FailsSend b t ω k s)
  := by
  constructor
  · intro hkeeps hdrops hfails
    revert hkeeps
    cases op with
    | stopPppClient n => apply not_keepsEvents_stop rfl hexec hfails
    | enableIf n enable =>
        obtain rfl : enable = false := hdrops
        have hop : Operation.code b (.enableIf n false) = _ := enableIf_false
        apply not_keepsEvents_stop hop hexec hfails
    | processStateChangedMsg | processIpcpParams => apply hdrops.elim
    | processIpv6cpParams inst msg =>
        have hinst : ¬ inst ≤ 0 := by
          intro hle
          rw [Operation.code, processIpv6cpParams, if_pos hle] at hexec
          cases hexec
        have hop : Operation.code b (.processIpv6cpParams inst msg) = _ :=
          processIpv6cpParams_eq hinst hdrops
        apply not_keepsEvents_of_dropping hop leaves_ipv6cpHead _ _ _ _ hexec hfails
        · intro c
          apply leaves_release
        · intro c
          apply needsOnlyLocks_release
        · intro c
          apply Nat.le_of_ble_eq_true
          rfl
        · intro c ev hev
          obtain rfl := List.mem_singleton.mp hev
          rfl
  · intro hsent
    apply keepsEvents_of_sent hexec
    intro hfails
    by_cases hdrops : op.DropsResults
    · apply hsent hdrops hfails
    · obtain ⟨o, x, hx, hgets⟩ := hfails
      apply Machine.not_gets_of_checks (fun _ _ _ _ _ => unsent_of_refuses) (checked_code op) hexec _ hx
        hgets
      rintro (h | h)
      · apply hdrops h
      · cases h

end

/-! ### A stop while the queue cannot be opened -/

/-- A stop whose sends all fail reports success. -/
theorem stop_loses_events :
  ¬ ∀ (b : Build) (t : Thread) (ω : Answers) (k k' : ℕ) (s s' : Sys) (op : Operation),
    (machine t).exec ω (op.code b) k s = .ok (true, s', k') → op.KeepsEvents b t ω k s s'
  := by
  intro h
  have hend : ((machine .dataModel).exec closedQueue
      (Operation.code (plainBuild false) (.stopPppClient 1)) 0 (freshState 1)).toOption.map
        (fun r => (r.1, r.2.1.queue)) = some (true, []) := by
    decide +kernel
  have hall : (Operation.statusEvents (plainBuild false) .dataModel closedQueue 0 (freshState 1)
      (.stopPppClient 1)).map List.length = some 3 := by
    decide +kernel
  obtain ⟨⟨r, s', k'⟩, hexec, hs'⟩ := Option.map_eq_some_iff.mp hend
  obtain ⟨rfl, hqueue⟩ := Prod.mk.inj hs'
  obtain ⟨evs, hevs, hsub⟩ := h _ _ _ _ _ _ _ _ (eq_ok_of_toOption hexec)
  rw [hevs] at hall
  rw [show s'.queue = [] from hqueue, List.drop_nil, List.sublist_nil] at hsub
  rw [hsub] at hall
  cases hall

theorem keepsEvents_iff_stop :
  ∃ s' k', (machine .dataModel).exec closedQueue
      (Operation.code (plainBuild false) (.stopPppClient 1)) 0 (freshState 1) = .ok (true, s', k') ∧
    (Operation.KeepsEvents (plainBuild false) .dataModel closedQueue 0 (freshState 1)
        (.stopPppClient 1) s' ↔
      (Operation.DropsResults (.stopPppClient 1) →
        ¬ Operation.FailsSend (plainBuild false) .dataModel closedQueue 0 (freshState 1)
          (.stopPppClient 1)))
  := by
  have hend : ((machine .dataModel).exec closedQueue
      (Operation.code (plainBuild false) (.stopPppClient 1)) 0 (freshState 1)).toOption.map
        Prod.fst = some true := by
    decide +kernel
  obtain ⟨⟨r, s', k'⟩, hexec, rfl⟩ := Option.map_eq_some_iff.mp hend
  use s', k', eq_ok_of_toOption hexec
  apply keepsEvents_iff (eq_ok_of_toOption hexec)

end PppManager
