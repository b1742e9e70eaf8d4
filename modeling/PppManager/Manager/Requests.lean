import PppManager.Manager.Calls

/-!
# What the requests do

The ways a stop, a start request, a reset and the setter of `Enable` and `Reset` can end.
-/

namespace PppManager

open Effect Effect.Program CText

section

variable {t : Thread} {A : (o : Op) → o.Ans → Prop} {F : Prop} {s : Sys}

/-! ### Stopping a client -/

/-- What the outside sees of a stop of the client of the entry `e`. -/
def stopAct (b : Build) (e : DmlPppIfFull) : Act :=
  if b.usePppDaemon then .kill e.info.pppPid else .system pppoeStop

/-- The entry `e` after a stop. -/
def stoppedEntry (b : Build) (e : DmlPppIfFull) : DmlPppIfFull :=
  (if b.usePppDaemon then (e.setBEnabled false).setPppPid 0 else e.setBEnabled false).resetSession

/-- The state after a stop of the entry `i`, the instance `n`, whose sends succeed as `r₁`, `r₂` and
`r₃` say. -/
def stoppedState (b : Build) (i n : ℕ) (r₁ r₂ r₃ : Bool) (s : Sys) : Sys :=
  (((((s.setEntry i (stoppedEntry b (s.table i))).emit (stopAct b (s.table i))).sent r₁
    (busSetEvent (toInt n) (pppLcpStatusParamName b) down)).sent r₂
    (busSetEvent (toInt n) (pppIpcpStatusParamName b) down)).sent r₃
    (busSetEvent (toInt n) (pppIpv6cpStatusParamName b) down))

/-- The ways a call of `PppMgr_StopPppClient` ends. -/
inductive StopEnds (A : (o : Op) → o.Ans → Prop) (b : Build) (s : Sys) (n : ℕ) :
    AnscStatus → Sys → Prop
  | noEntry : StopEnds A b s n .failure s
  | stopped (i : ℕ) (r₁ r₂ r₃ : Bool) (hn : n = i + 1) (hi : i < pppTableLength)
      (h₁ : r₁ = false → CanFail A (busSetEvent (toInt n) (pppLcpStatusParamName b) down))
      (h₂ : r₂ = false → CanFail A (busSetEvent (toInt n) (pppIpcpStatusParamName b) down))
      (h₃ : r₃ = false → CanFail A (busSetEvent (toInt n) (pppIpv6cpStatusParamName b) down))
      (hcount : n ≤ s.pppIfCount.toNat) :
      StopEnds A b s n .success (stoppedState b i n r₁ r₂ r₃ s)

/-- Stopping the client of an entry. -/
theorem wp_stopClient {b : Build} {i : ℕ} {Q : Unit → Sys → Prop}
    (hQ : Q () ((s.setEntry i
      (if b.usePppDaemon then (s.table i).setPppPid 0 else s.table i)).emit
        (stopAct b (s.table i)))) :
  (contract t A F).wp (stopClient b i) Q s
  := by
  rw [stopAct] at hQ
  rw [stopClient]
  split_ifs at hQ ⊢ with hb
  · rw [Contract.wp_bind, wp_load]
    intro _
    rw [Contract.wp_bind, stopPppProcess, Contract.wp_bind, wp_kill]
    simp only [Contract.wp_pure, wp_store]
    intro _
    apply hQ
  · rw [Contract.wp_bind, stopPppoe, Contract.wp_bind, wp_system]
    rw [Sys.setEntry_self _ _ rfl] at hQ
    apply hQ

/-- The rule of `PppMgr_StopPppClient`. -/
theorem wp_stopPppClient {b : Build} {n : ℕ} {Q : AnscStatus → Sys → Prop}
    (hroom : s.queue.length + 2 < maxQueueLength ∨ F)
    (hQ : ∀ r s', StopEnds A b s n r s' → Q r s') :
  (contract t A F).wp (stopPppClient b n) Q s
  := by
  rw [stopPppClient, Contract.wp_bind]
  apply wp_getIfaceDataLocked
  · intro _
    apply hQ _ _ .noEntry
  · intro i hn hi hcount
    rw [Contract.wp_bind, wp_store]
    intro _
    rw [Contract.wp_bind]
    apply wp_stopClient
    rw [Contract.wp_bind, wp_store]
    intro _
    simp only [Sys.setEntry_setLock, Sys.emit_setLock, Sys.setEntry_table, Sys.setLock_table,
      Sys.emit_table, Sys.emit_setEntry, Sys.setEntry_setEntry, Function.update_self]
    rw [Contract.wp_bind]
    apply wp_getIfaceDataRelease (l := s.locks i)
    · simp
    · rw [Sys.setLock_setLock, Sys.setLock_self _ _ (by simp)]
      have hentry : ((if b.usePppDaemon then ((s.table i).setBEnabled false).setPppPid 0
          else (s.table i).setBEnabled false).resetSession) = stoppedEntry b (s.table i) := rfl
      have hact : stopAct b ((s.table i).setBEnabled false) = stopAct b (s.table i) := rfl
      rw [hentry, hact]
      have hlen := Sys.sent_queue_length_le
      rw [Contract.wp_bind]
      apply wp_sendDataToQ
      · apply hroom.imp_left
        intro h
        simp only [Sys.emit_queue, Sys.setEntry_queue]
        omega
      · intro r₁ h₁
        rw [Contract.wp_bind]
        apply wp_sendDataToQ
        · apply hroom.imp_left
          intro h
          apply Nat.lt_of_le_of_lt (hlen _ _ _)
          simp only [Sys.emit_queue, Sys.setEntry_queue]
          omega
        · intro r₂ h₂
          rw [Contract.wp_bind]
          apply wp_sendDataToQ
          · apply hroom.imp_left
            intro h
            apply Nat.lt_of_le_of_lt (Nat.le_trans (hlen _ _ _) (Nat.succ_le_succ (hlen _ _ _)))
            apply h
          · intro r₃ h₃
            apply hQ _ _ (.stopped i r₁ r₂ r₃ hn hi h₁ h₂ h₃ hcount)

/-! ### Requests -/

/-- The ways a call of `PppMgr_SendPppdStartEventToQ` ends. -/
inductive EnqueueEnds (A : (o : Op) → o.Ans → Prop) (s : Sys) (n : ℕ) : AnscStatus → Sys → Prop
  | noEntry : EnqueueEnds A s n .failure s
  | refused (i : ℕ) (hn : n = i + 1)
      (h : CanFail A (execEvent (toInt (s.table i).cfg.instanceNumber))) :
      EnqueueEnds A s n .failure s
  | posted (i : ℕ) (hn : n = i + 1) (hi : i < pppTableLength) (hcount : n ≤ s.pppIfCount.toNat) :
      EnqueueEnds A s n .success
        ((s.setEntry i ((s.table i).setBEnabled true)).post
          (execEvent (toInt (s.table i).cfg.instanceNumber)))

/-- The rule of `PppMgr_SendPppdStartEventToQ`. -/
theorem wp_sendPppdStartEventToQ {n : ℕ} {Q : AnscStatus → Sys → Prop}
    (hroom : s.queue.length < maxQueueLength ∨ F)
    (hQ : ∀ r s', EnqueueEnds A s n r s' → Q r s') :
  (contract t A F).wp (sendPppdStartEventToQ n) Q s
  := by
  rw [sendPppdStartEventToQ, Contract.wp_bind]
  apply wp_getIfaceDataLocked
  · intro _
    apply hQ _ _ .noEntry
  · intro i hn hi hcount
    rw [Contract.wp_bind, wp_load]
    intro _
    rw [Contract.wp_bind]
    apply wp_sendDataToQ
    · apply hroom
    · rintro (_ | _) hr
      · rw [if_neg Bool.false_ne_true, Contract.wp_bind]
        apply wp_getIfaceDataRelease (l := s.locks i)
        · simp
        · rw [Sys.sent_setLock, Sys.setLock_setLock, Sys.setLock_self _ _ (by simp)]
          apply hQ _ _ (.refused i hn (hr rfl))
      · rw [if_pos rfl, Contract.wp_bind, wp_store]
        intro _
        rw [Contract.wp_bind]
        apply wp_getIfaceDataRelease (l := s.locks i)
        · simp
        · rw [Sys.sent_setLock, Sys.setEntry_setLock, Sys.setLock_setLock,
            Sys.setLock_self _ _ (by simp)]
          apply hQ _ _ (.posted i hn hi hcount)

/-! ### The setter -/

theorem StopEnds.of_setLock {b : Build} {n j : ℕ} {owners : List Thread} {r : AnscStatus}
    {s' : Sys} (h : StopEnds A b (s.setLock j owners) n r s') :
  ∃ s'', s' = s''.setLock j owners ∧ StopEnds A b s n r s''
  := by
  cases h with
  | noEntry =>
      use s, rfl
      apply StopEnds.noEntry
  | stopped i r₁ r₂ r₃ hn hi h₁ h₂ h₃ hcount =>
      use stoppedState b i n r₁ r₂ r₃ s
      constructor
      · simp [stoppedState]
      · exact StopEnds.stopped i r₁ r₂ r₃ hn hi h₁ h₂ h₃ hcount

theorem StopEnds.locks {b : Build} {n : ℕ} {r : AnscStatus} {s' : Sys}
    (h : StopEnds A b s n r s') :
  s'.locks = s.locks
  := by
  cases h with
  | noEntry => rfl
  | stopped i r₁ r₂ r₃ => simp [stoppedState]

theorem EnqueueEnds.of_setLock {n j : ℕ} {owners : List Thread} {r : AnscStatus} {s' : Sys}
    (h : EnqueueEnds A (s.setLock j owners) n r s') :
  ∃ s'', s' = s''.setLock j owners ∧ EnqueueEnds A s n r s''
  := by
  cases h with
  | noEntry =>
      use s, rfl
      apply EnqueueEnds.noEntry
  | refused i hn h =>
      use s, rfl
      apply EnqueueEnds.refused i hn
      apply h
  | posted i hn hi hcount =>
      refine ⟨_, ?_, EnqueueEnds.posted i hn hi hcount⟩
      rfl

theorem EnqueueEnds.locks {n : ℕ} {r : AnscStatus} {s' : Sys} (h : EnqueueEnds A s n r s') :
  s'.locks = s.locks
  := by
  cases h <;> rfl

/-- The ways a call of `PppMgr_EnableIf` ends. -/
inductive EnableEnds (A : (o : Op) → o.Ans → Prop) (b : Build) (s : Sys) (n : ℕ) :
    Bool → Bool → Sys → Prop
  | start {r : AnscStatus} {s' : Sys} (h : EnqueueEnds A s n r s') :
      EnableEnds A b s n true (r = .success) s'
  | stop {r : AnscStatus} {s' : Sys} (h : StopEnds A b s n r s') :
      EnableEnds A b s n false (r = .success) s'

/-- The ways a call of `PppDmlIfReset` ends. -/
inductive ResetEnds (A : (o : Op) → o.Ans → Prop) (b : Build) (s : Sys) (n : ℕ) :
    Bool → Sys → Prop
  | notStopped {s' : Sys} (h : StopEnds A b s n .failure s') : ResetEnds A b s n false s'
  | stopped {r : AnscStatus} {s' s'' : Sys} (h : StopEnds A b s n .success s')
      (h' : EnqueueEnds A s' n r s'') : ResetEnds A b s n (r = .success) s''

/-- The rule of `PppMgr_EnableIf`. -/
theorem wp_enableIf {b : Build} {n : ℕ} {v : Bool} {Q : Bool → Sys → Prop}
    (hroom : s.queue.length + 2 < maxQueueLength ∨ F)
    (hQ : ∀ r s', EnableEnds A b s n v r s' → Q r s') :
  (contract t A F).wp (enableIf b n v) Q s
  := by
  rw [enableIf]
  cases v with
  | true =>
      rw [if_pos rfl, Contract.wp_bind]
      apply wp_sendPppdStartEventToQ
      · apply hroom.imp_left
        intro h
        apply Nat.lt_of_le_of_lt (Nat.le_add_right _ _) h
      · intro r s' h
        have hr := hQ _ _ (.start h)
        cases r <;> apply hr
  | false =>
      rw [if_neg Bool.false_ne_true, Contract.wp_bind]
      apply wp_stopPppClient hroom
      intro r s' h
      have hr := hQ _ _ (.stop h)
      cases r <;> apply hr

theorem StopEnds.queue_length_le {b : Build} {n : ℕ} {r : AnscStatus} {s' : Sys}
    (h : StopEnds A b s n r s') :
  s'.queue.length ≤ s.queue.length + 3
  := by
  cases h with
  | noEntry => apply Nat.le_add_right
  | stopped i r₁ r₂ r₃ =>
      have hlen := Sys.sent_queue_length_le
      apply Nat.le_trans (hlen _ _ _)
      apply Nat.succ_le_succ (Nat.le_trans (hlen _ _ _) (Nat.succ_le_succ (hlen _ _ _)))

/-- The rule of `PppDmlIfReset`. -/
theorem wp_pppDmlIfReset {b : Build} {n : ℕ} {Q : Bool → Sys → Prop}
    (hroom : s.queue.length + 3 < maxQueueLength ∨ F)
    (hQ : ∀ r s', ResetEnds A b s n r s' → Q r s') :
  (contract t A F).wp (pppDmlIfReset b n) Q s
  := by
  rw [pppDmlIfReset, Contract.wp_bind]
  apply wp_stopPppClient
  · apply hroom.imp_left
    intro h
    apply Nat.lt_of_succ_lt h
  · rintro (_ | _) s' h
    · dsimp only
      rw [Contract.wp_bind]
      apply wp_sendPppdStartEventToQ
      · apply hroom.imp_left
        intro hlen
        apply Nat.lt_of_le_of_lt h.queue_length_le hlen
      · intro r s'' h'
        have hr := hQ _ _ (.stopped h h')
        cases r <;> apply hr
    · apply hQ _ _ (.notStopped h)

theorem EnableEnds.of_setLock {b : Build} {n j : ℕ} {owners : List Thread} {v r : Bool} {s' : Sys}
    (h : EnableEnds A b (s.setLock j owners) n v r s') :
  ∃ s'', s' = s''.setLock j owners ∧ s''.locks = s.locks ∧ EnableEnds A b s n v r s''
  := by
  cases h with
  | start h =>
      obtain ⟨s'', rfl, h'⟩ := h.of_setLock
      use s'', rfl, h'.locks
      apply EnableEnds.start h'
  | stop h =>
      obtain ⟨s'', rfl, h'⟩ := h.of_setLock
      use s'', rfl, h'.locks
      apply EnableEnds.stop h'

theorem ResetEnds.of_setLock {b : Build} {n j : ℕ} {owners : List Thread} {r : Bool} {s' : Sys}
    (h : ResetEnds A b (s.setLock j owners) n r s') :
  ∃ s'', s' = s''.setLock j owners ∧ s''.locks = s.locks ∧ ResetEnds A b s n r s''
  := by
  cases h with
  | notStopped h =>
      obtain ⟨s'', rfl, h'⟩ := h.of_setLock
      use s'', rfl, h'.locks
      apply ResetEnds.notStopped h'
  | stopped h h' =>
      obtain ⟨s₁, rfl, h₁⟩ := h.of_setLock
      obtain ⟨s₂, rfl, h₂⟩ := h'.of_setLock
      use s₂, rfl, h₂.locks.trans h₁.locks
      apply ResetEnds.stopped h₁ h₂

/-- The rule of `Interface_SetParamBoolValue` with the parameter `Enable`. -/
theorem wp_setEnable {b : Build} {i : ℕ} {v : Bool} {Q : Bool → Sys → Prop}
    (hroom : s.queue.length + 2 < maxQueueLength ∨ F)
    (hQ : ∀ r s', EnableEnds A b s (s.table i).cfg.instanceNumber v r s' → Q r s') :
  (contract t A F).wp (interfaceSetParamBoolValue b i "Enable".toList v) Q s
  := by
  apply wp_bracket
  rw [writeBoolParam, if_pos rfl, Contract.wp_bind, wp_load]
  intro _
  apply wp_enableIf
  · apply hroom
  · intro r s' h
    obtain ⟨s'', rfl, hlocks, h⟩ := h.of_setLock
    use s'', rfl, congrFun hlocks i
    apply hQ r s'' h

/-- The rule of `Interface_SetParamBoolValue` with the parameter `Reset`. -/
theorem wp_setReset {b : Build} {i : ℕ} {v : Bool} {Q : Bool → Sys → Prop}
    (hroom : s.queue.length + 3 < maxQueueLength ∨ F)
    (hignored : ((s.table i).cfg.bEnabled && v) = false → Q false s)
    (hQ : ∀ r s', ((s.table i).cfg.bEnabled && v) = true →
      ResetEnds A b s (s.table i).cfg.instanceNumber r s' → Q r s') :
  (contract t A F).wp (interfaceSetParamBoolValue b i "Reset".toList v) Q s
  := by
  apply wp_bracket
  rw [writeBoolParam, if_neg (by decide), if_neg (by decide), if_neg (by decide), if_pos rfl,
    Contract.wp_bind, wp_load]
  intro _
  split_ifs with h
  · apply wp_pppDmlIfReset
    · apply hroom
    · intro r s' h'
      obtain ⟨s'', rfl, hlocks, h'⟩ := h'.of_setLock
      use s'', rfl, congrFun hlocks i
      apply hQ r s'' h h'
  · use s, rfl, rfl
    apply hignored
    apply Bool.eq_false_iff.mpr h

end

end PppManager
