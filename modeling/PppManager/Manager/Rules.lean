import PppManager.Manager.DataModel

/-!
# Rules of the operations

What each operation does to the state, as a rule for `Contract.wp`.  `contract t A F` is the contract
of the thread `t` under which the outside gives the answers in `A`, and a run may stop with any
error, with a full queue only if `F` holds: `(contract t A F).wp p Q s` says that every run of `p`
from `s` that ends does so in a value and a state that satisfy `Q`, and that, without `F`, none
starts to send while the queue is full.

The updates of the state are brought to the form in which `setLock` stands outside, so that a call
that takes a mutex and gives it back leaves the mutexes as they were (`Sys.setLock_self`).
-/

namespace PppManager

open Effect Function

/-! ### Updates of the state -/

namespace Sys

variable (s : Sys) (i j : ℕ)

@[simp]
theorem setEntry_table (e : DmlPppIfFull) :
  (s.setEntry i e).table = update s.table i e
  := rfl

@[simp]
theorem setEntry_locks (e : DmlPppIfFull) :
  (s.setEntry i e).locks = s.locks
  := rfl

@[simp]
theorem setEntry_queue (e : DmlPppIfFull) :
  (s.setEntry i e).queue = s.queue
  := rfl

@[simp]
theorem setEntry_psm (e : DmlPppIfFull) :
  (s.setEntry i e).psm = s.psm
  := rfl

@[simp]
theorem setEntry_acts (e : DmlPppIfFull) :
  (s.setEntry i e).acts = s.acts
  := rfl

@[simp]
theorem setLock_table (owners : List Thread) :
  (s.setLock i owners).table = s.table
  := rfl

@[simp]
theorem setLock_locks (owners : List Thread) :
  (s.setLock i owners).locks = update s.locks i owners
  := rfl

@[simp]
theorem setLock_queue (owners : List Thread) :
  (s.setLock i owners).queue = s.queue
  := rfl

@[simp]
theorem setLock_psm (owners : List Thread) :
  (s.setLock i owners).psm = s.psm
  := rfl

@[simp]
theorem setLock_acts (owners : List Thread) :
  (s.setLock i owners).acts = s.acts
  := rfl

@[simp]
theorem emit_table (a : Act) :
  (s.emit a).table = s.table
  := rfl

@[simp]
theorem emit_locks (a : Act) :
  (s.emit a).locks = s.locks
  := rfl

@[simp]
theorem emit_queue (a : Act) :
  (s.emit a).queue = s.queue
  := rfl

@[simp]
theorem emit_psm (a : Act) :
  (s.emit a).psm = s.psm
  := rfl

@[simp]
theorem emit_acts (a : Act) :
  (s.emit a).acts = s.acts ++ [a]
  := rfl

@[simp]
theorem post_table (ev : PppEventQData) :
  (s.post ev).table = s.table
  := rfl

@[simp]
theorem post_locks (ev : PppEventQData) :
  (s.post ev).locks = s.locks
  := rfl

@[simp]
theorem post_queue (ev : PppEventQData) :
  (s.post ev).queue = s.queue ++ [ev]
  := rfl

@[simp]
theorem post_psm (ev : PppEventQData) :
  (s.post ev).psm = s.psm
  := rfl

@[simp]
theorem post_acts (ev : PppEventQData) :
  (s.post ev).acts = s.acts ++ [.post ev]
  := rfl

@[simp]
theorem setRecord_table (name value : CText.CStr) :
  (s.setRecord name value).table = s.table
  := rfl

@[simp]
theorem setRecord_locks (name value : CText.CStr) :
  (s.setRecord name value).locks = s.locks
  := rfl

@[simp]
theorem setRecord_queue (name value : CText.CStr) :
  (s.setRecord name value).queue = s.queue
  := rfl

@[simp]
theorem setRecord_psm (name value : CText.CStr) :
  (s.setRecord name value).psm = update s.psm name (some value)
  := rfl

@[simp]
theorem setRecord_acts (name value : CText.CStr) :
  (s.setRecord name value).acts = s.acts
  := rfl

@[simp]
theorem setEntry_setLock (e : DmlPppIfFull) (owners : List Thread) :
  (s.setLock i owners).setEntry j e = (s.setEntry j e).setLock i owners
  := rfl

@[simp]
theorem emit_setLock (a : Act) (owners : List Thread) :
  (s.setLock i owners).emit a = (s.emit a).setLock i owners
  := rfl

@[simp]
theorem post_setLock (ev : PppEventQData) (owners : List Thread) :
  (s.setLock i owners).post ev = (s.post ev).setLock i owners
  := rfl

@[simp]
theorem setRecord_setLock (name value : CText.CStr) (owners : List Thread) :
  (s.setLock i owners).setRecord name value = (s.setRecord name value).setLock i owners
  := rfl

@[simp]
theorem emit_setEntry (a : Act) (e : DmlPppIfFull) :
  (s.emit a).setEntry i e = (s.setEntry i e).emit a
  := rfl

@[simp]
theorem post_setEntry (ev : PppEventQData) (e : DmlPppIfFull) :
  (s.post ev).setEntry i e = (s.setEntry i e).post ev
  := rfl

@[simp]
theorem setRecord_setEntry (name value : CText.CStr) (e : DmlPppIfFull) :
  (s.setRecord name value).setEntry i e = (s.setEntry i e).setRecord name value
  := rfl

@[simp]
theorem setEntry_setEntry (e e' : DmlPppIfFull) :
  (s.setEntry i e).setEntry i e' = s.setEntry i e'
  := by
  rw [setEntry, setEntry, setEntry, update_idem]

@[simp]
theorem setLock_setLock (owners owners' : List Thread) :
  (s.setLock i owners).setLock i owners' = s.setLock i owners'
  := by
  rw [setLock, setLock, setLock, update_idem]

/-- A state with the owners of a mutex replaced by what they are is that state. -/
theorem setLock_self {owners : List Thread} (h : s.locks i = owners) :
  s.setLock i owners = s
  := by
  obtain rfl := h
  rw [setLock, update_eq_self]

/-- A state with an entry replaced by what it is is that state. -/
theorem setEntry_self {e : DmlPppIfFull} (h : s.table i = e) :
  s.setEntry i e = s
  := by
  obtain rfl := h
  rw [setEntry, update_eq_self]

end Sys

/-! ### The rules -/

/-- The contract of the thread `t` under which the outside gives the answers in `A`, and a run may
start to send while the queue is full only if `F` holds. -/
def contract (t : Thread) (A : (o : Op) → o.Ans → Prop) (F : Prop) : Contract (machine t) where
  Allows := fun o x => o.isAsked → A o x
  Safe := fun o s => o = .mqOpen → s.queue.length < maxQueueLength ∨ F
  Admits := fun e => e = .queueFull → F

section Rules

variable {t : Thread} {A : (o : Op) → o.Ans → Prop} {F : Prop} {s : Sys}

attribute [local simp] step Op.isAsked

theorem wp_op (o : Op) (ho : o ≠ .mqOpen) (Q : o.Res → Sys → Prop) :
  (contract t A F).wp (perform o) Q s ↔
    ∀ x, (o.isAsked → A o x) →
      match step t o x s with
      | .ok (r, s') => Q r s'
      | .error e => e = .queueFull → F
  := by
  rw [perform, Contract.wp_perform]
  apply (and_iff_right (fun h => absurd h ho)).trans
  apply forall_congr'
  intro x
  apply imp_congr_right
  intro _
  rw [show (machine t).step o x s = step t o x s from rfl]
  rcases step t o x s with e | ⟨r, s'⟩
  · apply Iff.rfl
  · apply Iff.rfl

@[simp]
theorem wp_lock (i : ℕ) (Q : Unit → Sys → Prop) :
  (contract t A F).wp (lock i) Q s ↔
    (i < pppTableLength → (∀ t' ∈ s.locks i, t' = t) → Q () (s.setLock i (t :: s.locks i)))
  := by
  rw [lock, wp_op (.lock i) nofun]
  simp only [step, Op.isAsked]
  by_cases hi : i < pppTableLength
  · by_cases hown : ∀ t' ∈ s.locks i, t' = t
    · simp only [Nat.not_le.mpr hi, if_false, if_pos hown]
      exact ⟨fun h _ _ => h () Bool.noConfusion, fun h _ _ => h hi hown⟩
    · simp only [hi, Nat.not_le.mpr hi, hown, if_false]
      simp
  · simp [hi, Nat.not_lt.mp hi]

@[simp]
theorem wp_unlock (i : ℕ) (Q : Unit → Sys → Prop) :
  (contract t A F).wp (unlock i) Q s ↔
    ∀ owners, s.locks i = t :: owners → Q () (s.setLock i owners)
  := by
  rw [unlock, wp_op (.unlock i) nofun]
  simp only [step, Op.isAsked]
  cases s.locks i with
  | nil => simp
  | cons t' owners => by_cases h : t' = t <;> simp [h]

@[simp]
theorem wp_load (i : ℕ) (Q : DmlPppIfFull → Sys → Prop) :
  (contract t A F).wp (load i) Q s ↔ (i < pppTableLength → Q (s.table i) s)
  := by
  rw [load, wp_op (.load i) nofun]
  simp only [step, Op.isAsked]
  by_cases hi : i < pppTableLength
  · simp [hi, Nat.not_le.mpr hi]
  · simp [hi, Nat.not_lt.mp hi]

@[simp]
theorem wp_store (i : ℕ) (f : DmlPppIfFull → DmlPppIfFull) (Q : Unit → Sys → Prop) :
  (contract t A F).wp (store i f) Q s ↔ (i < pppTableLength → Q () (s.setEntry i (f (s.table i))))
  := by
  rw [store, wp_op (.store i f) nofun]
  simp only [step, Op.isAsked]
  by_cases hi : i < pppTableLength
  · simp [hi, Nat.not_le.mpr hi]
  · simp [hi, Nat.not_lt.mp hi]

@[simp]
theorem wp_undefined {α : Type} (u : Undefined) (Q : α → Sys → Prop) :
  (contract t A F).wp (undefined u) Q s
  := by
  constructor
  · rintro ⟨⟩
  · intro x _ h
    cases h

@[simp]
theorem wp_mqOpen (Q : Bool → Sys → Prop) :
  (contract t A F).wp mqOpen Q s ↔
    (s.queue.length < maxQueueLength ∨ F) ∧ ∀ r, A .mqOpen r → Q r s
  := by
  rw [mqOpen, perform, Contract.wp_perform]
  simp [contract]

@[simp]
theorem wp_mqSend (ev : PppEventQData) (Q : Bool → Sys → Prop) :
  (contract t A F).wp (mqSend ev) Q s ↔
    (A (.mqSend ev) true → s.queue.length < maxQueueLength → Q true (s.post ev)) ∧
      (A (.mqSend ev) true → ¬ s.queue.length < maxQueueLength → F) ∧
      (A (.mqSend ev) false → Q false s)
  := by
  rw [mqSend, wp_op (.mqSend ev) nofun]
  simp only [step, Op.isAsked]
  by_cases h : s.queue.length < maxQueueLength <;> simp [h, and_comm]

@[simp]
theorem wp_mqReceive (Q : Option PppEventQData → Sys → Prop) :
  (contract t A F).wp mqReceive Q s ↔
    Q s.queue.head? { s with queue := s.queue.tail }
  := by
  rw [mqReceive, wp_op .mqReceive nofun]
  simp only [step, Op.isAsked]
  obtain ⟨_, _, queue, _, _⟩ := s
  cases queue <;> simp

@[simp]
theorem wp_psmGet (name : CText.CStr) (Q : Option CText.CStr → Sys → Prop) :
  (contract t A F).wp (psmGet name) Q s ↔
    ∀ r, A (.psmGet name) r → Q (if r then s.psm name else none) s
  := by
  rw [psmGet, wp_op (.psmGet name) nofun]
  simp

@[simp]
theorem wp_psmSet (name value : CText.CStr) (Q : Bool → Sys → Prop) :
  (contract t A F).wp (psmSet name value) Q s ↔
    (A (.psmSet name value) true → Q true (s.setRecord name value)) ∧
      (A (.psmSet name value) false → Q false s)
  := by
  rw [psmSet, wp_op (.psmSet name value) nofun]
  simp [and_comm]

@[simp]
theorem wp_busGet (component bus name : CText.CStr) (Q : Option (Option CText.CStr) → Sys → Prop) :
  (contract t A F).wp (busGet component bus name) Q s ↔ ∀ r, A (.busGet component bus name) r → Q r s
  := by
  rw [busGet, wp_op (.busGet component bus name) nofun]
  simp

@[simp]
theorem wp_halGetPppUserName (Q : Option CText.CStr → Sys → Prop) :
  (contract t A F).wp halGetPppUserName Q s ↔ ∀ r, A .halGetPppUserName r → Q r s
  := by
  rw [halGetPppUserName, wp_op .halGetPppUserName nofun]
  simp

@[simp]
theorem wp_halGetPppPassword (Q : Option CText.CStr → Sys → Prop) :
  (contract t A F).wp halGetPppPassword Q s ↔ ∀ r, A .halGetPppPassword r → Q r s
  := by
  rw [halGetPppPassword, wp_op .halGetPppPassword nofun]
  simp

@[simp]
theorem wp_readFile (path : CText.CStr) (Q : Option CText.CStr → Sys → Prop) :
  (contract t A F).wp (readFile path) Q s ↔ ∀ r, A (.readFile path) r → Q r s
  := by
  rw [readFile, wp_op (.readFile path) nofun]
  simp

@[simp]
theorem wp_popen (command : CText.CStr) (Q : Option CText.CStr → Sys → Prop) :
  (contract t A F).wp (popen command) Q s ↔ ∀ r, A (.popen command) r → Q r s
  := by
  rw [popen, wp_op (.popen command) nofun]
  simp

@[simp]
theorem wp_readProc (Q : Option (List ProcDirent) → Sys → Prop) :
  (contract t A F).wp readProc Q s ↔ ∀ r, A .readProc r → Q r s
  := by
  rw [readProc, wp_op .readProc nofun]
  simp

@[simp]
theorem wp_busSet (component bus name value : CText.CStr) (Q : Bool × Bool → Sys → Prop) :
  (contract t A F).wp (busSet component bus name value) Q s ↔
    ∀ r, A (.busSet component bus name value) r →
      Q r (s.emit (.busSet component bus name value))
  := by
  rw [busSet, wp_op (.busSet component bus name value) nofun]
  simp

@[simp]
theorem wp_generateDuidFile (wanName : CText.CStr) (Q : Unit → Sys → Prop) :
  (contract t A F).wp (generateDuidFile wanName) Q s ↔ Q () (s.emit (.generateDuidFile wanName))
  := by
  rw [generateDuidFile, wp_op (.generateDuidFile wanName) nofun]
  simp

@[simp]
theorem wp_removeDuidFile (wanName : CText.CStr) (Q : Unit → Sys → Prop) :
  (contract t A F).wp (removeDuidFile wanName) Q s ↔ Q () (s.emit (.removeDuidFile wanName))
  := by
  rw [removeDuidFile, wp_op (.removeDuidFile wanName) nofun]
  simp

@[simp]
theorem wp_system (command : CText.CStr) (Q : Unit → Sys → Prop) :
  (contract t A F).wp (system command) Q s ↔ Q () (s.emit (.system command))
  := by
  rw [system, wp_op (.system command) nofun]
  simp

@[simp]
theorem wp_kill (pid : ℤ) (Q : Unit → Sys → Prop) :
  (contract t A F).wp (kill pid) Q s ↔ Q () (s.emit (.kill pid))
  := by
  rw [kill, wp_op (.kill pid) nofun]
  simp

end Rules

/-! ### Runs of single operations -/

section

variable {t : Thread} {ω : (machine t).Oracle} {k i : ℕ} {s : Sys}

/-- A mutex that is free is held by no other thread. -/
theorem owned_of_free (hfree : s.locks i = []) :
  ∀ t' ∈ s.locks i, t' = t
  := by
  intro t' ht'
  rw [hfree] at ht'
  cases ht'

theorem exec_lock (hi : i < pppTableLength) (hfree : ∀ t' ∈ s.locks i, t' = t) :
  (machine t).exec ω (lock i) k s = .ok ((), s.setLock i (t :: s.locks i), k + 1)
  := by
  apply Machine.exec_perform
  simp only [step, if_neg (Nat.not_le.mpr hi), if_pos hfree]

theorem exec_unlock {owners : List Thread} (hlock : s.locks i = t :: owners) :
  (machine t).exec ω (unlock i) k s = .ok ((), s.setLock i owners, k + 1)
  := by
  apply Machine.exec_perform
  simp only [step, hlock, if_true]

theorem exec_load (hi : i < pppTableLength) :
  (machine t).exec ω (load i) k s = .ok (s.table i, s, k + 1)
  := by
  apply Machine.exec_perform
  simp only [step, if_neg (Nat.not_le.mpr hi)]

theorem exec_store {f : DmlPppIfFull → DmlPppIfFull} (hi : i < pppTableLength) :
  (machine t).exec ω (store i f) k s = .ok ((), s.setEntry i (f (s.table i)), k + 1)
  := by
  apply Machine.exec_perform
  simp only [step, if_neg (Nat.not_le.mpr hi)]

theorem exec_busGet {component bus name : CText.CStr} :
  (machine t).exec ω (busGet component bus name) k s =
    .ok (ω k (.busGet component bus name), s, k + 1)
  := by
  apply Machine.exec_perform
  rfl

theorem exec_halGetPppUserName :
  (machine t).exec ω halGetPppUserName k s = .ok (ω k .halGetPppUserName, s, k + 1)
  := by
  apply Machine.exec_perform
  rfl

theorem exec_halGetPppPassword :
  (machine t).exec ω halGetPppPassword k s = .ok (ω k .halGetPppPassword, s, k + 1)
  := by
  apply Machine.exec_perform
  rfl

theorem exec_popen {command : CText.CStr} :
  (machine t).exec ω (popen command) k s = .ok (ω k (.popen command), s, k + 1)
  := by
  apply Machine.exec_perform
  rfl

theorem exec_system {command : CText.CStr} :
  (machine t).exec ω (system command) k s = .ok ((), s.emit (.system command), k + 1)
  := by
  apply Machine.exec_perform
  rfl

theorem exec_kill {pid : ℤ} :
  (machine t).exec ω (kill pid) k s = .ok ((), s.emit (.kill pid), k + 1)
  := by
  apply Machine.exec_perform
  rfl

theorem exec_mqOpen :
  (machine t).exec ω mqOpen k s = .ok (ω k .mqOpen, s, k + 1)
  := by
  apply Machine.exec_perform
  rfl

end

/-! ### The length of the queue -/

section

variable {t : Thread} {s s' : Sys}

/-- An operation lengthens the queue by one event at most, and only if it sends and there is room. -/
theorem queue_length_step {o : Op} {x : o.Ans} {r : o.Res} (hstep : step t o x s = .ok (r, s')) :
  s'.queue.length ≤ s.queue.length ∨
    (∃ ev, o = .mqSend ev) ∧ s.queue.length < maxQueueLength ∧
      s'.queue.length ≤ s.queue.length + 1
  := by
  have hkept : s'.queue = s.queue → s'.queue.length ≤ s.queue.length := by
    intro h
    rw [h]
  cases o with
  | lock i | load i | store i f =>
      rw [step] at hstep
      split_ifs at hstep
      obtain ⟨-, rfl⟩ := Prod.mk.inj (Except.ok.inj hstep)
      apply Or.inl (hkept rfl)
  | unlock i =>
      rw [step] at hstep
      split at hstep
      · split_ifs at hstep
        obtain ⟨-, rfl⟩ := Prod.mk.inj (Except.ok.inj hstep)
        apply Or.inl (hkept rfl)
      · cases hstep
  | undefined u => cases hstep
  | mqSend ev =>
      rw [step] at hstep
      split_ifs at hstep with hsent hroom
      · obtain ⟨-, rfl⟩ := Prod.mk.inj (Except.ok.inj hstep)
        right
        use ⟨ev, rfl⟩, hroom
        rw [Sys.post_queue, List.length_append, List.length_singleton]
      · obtain ⟨-, rfl⟩ := Prod.mk.inj (Except.ok.inj hstep)
        apply Or.inl (hkept rfl)
  | mqReceive =>
      rw [step] at hstep
      cases hqueue : s.queue with
      | nil =>
          rw [hqueue] at hstep
          obtain ⟨-, rfl⟩ := Prod.mk.inj (Except.ok.inj hstep)
          left
          rw [hqueue]
      | cons ev evs =>
          rw [hqueue] at hstep
          obtain ⟨-, rfl⟩ := Prod.mk.inj (Except.ok.inj hstep)
          left
          apply Nat.le_succ
  | psmSet name value =>
      obtain ⟨-, rfl⟩ := Prod.mk.inj (Except.ok.inj hstep)
      left
      apply hkept
      split_ifs <;> rfl
  | _ =>
      obtain ⟨-, rfl⟩ := Prod.mk.inj (Except.ok.inj hstep)
      apply Or.inl (hkept rfl)

/-- A run leaves no more events than it found or than there is room for. -/
theorem queue_length_exec {α : Type} {p : Code α} {ω : (machine t).Oracle} {k k' : ℕ} {a : α}
    (hexec : (machine t).exec ω p k s = .ok (a, s', k')) :
  s'.queue.length ≤ max s.queue.length maxQueueLength
  := by
  induction p generalizing k s with
  | ret a =>
      cases hexec
      apply Nat.le_max_left
  | call o f ih =>
      rw [Machine.exec] at hexec
      cases hstep : (machine t).step o (ω k o) s with
      | error e =>
          rw [hstep] at hexec
          cases hexec
      | ok r =>
          rw [hstep] at hexec
          have hrest := ih _ hexec
          rcases queue_length_step hstep with hle | ⟨-, hroom, hle⟩
          · omega
          · omega

end

end PppManager
