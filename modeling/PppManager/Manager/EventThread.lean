import PppManager.Manager.Messages

/-!
# The event thread

The ways the handling of a state message and of a queue event can end, and the queue after them.
-/

namespace PppManager

open Effect Effect.Program CText

/-- The PSM count covers entries of the table only, and these have the instance numbers 1, 2 and
so on. -/
structure Numbered (s : Sys) : Prop where
  count_le : s.pppIfCount.toNat ≤ pppTableLength
  instanceNumber : ∀ i < s.pppIfCount.toNat, (s.table i).cfg.instanceNumber = i + 1

/-- A number an `int` holds is itself as an `int`. -/
theorem toInt_eq {n : ℕ} (h : n ≤ pppTableLength) :
  toInt n = n
  := by
  rw [pppTableLength] at h
  apply toInt_of_lt <;> omega

/-- The instance number of an entry that the PSM count covers, as an `int`. -/
theorem Numbered.toInt_instanceNumber {s : Sys} (hs : Numbered s) {i : ℕ}
    (hi : i < s.pppIfCount.toNat) :
  toInt (s.table i).cfg.instanceNumber = (i + 1 : ℕ)
  := by
  rw [hs.instanceNumber i hi, toInt_eq (Nat.le_trans hi hs.count_le)]

/-- A PSM count that covers entries of the table only, as an `int`. -/
theorem toInt_pppIfCount {s : Sys} (h : s.pppIfCount.toNat ≤ pppTableLength) :
  toInt s.pppIfCount.toInt = s.pppIfCount.toNat
  := by
  have hlt : 2 * s.pppIfCount.toNat < 2 ^ 64 :=
    Nat.lt_of_le_of_lt (Nat.mul_le_mul_left 2 h) (by decide)
  rw [BitVec.toInt_eq_toNat_of_lt hlt, toInt_eq h]

section

variable {t : Thread} {A : (o : Op) → o.Ans → Prop} {F : Prop} {s : Sys}

/-- The entry `i` is the first that has the pid, of those the PSM count covers. -/
def FirstWithPid (s : Sys) (pid : ℤ) (i : ℕ) : Prop :=
  (s.table i).info.pppPid = pid ∧ ∀ j < i, (s.table j).info.pppPid ≠ pid

/-- `PppMgr_getIfaceDataWithPid` gives the instance number of an entry that has the pid, or -1.  If
the PSM count can always be read, and covers entries of the table only, the entry is the first that
has the pid, and there is none only if it gives -1. -/
theorem wp_getIfaceDataWithPid {pid : ℤ} {Q : ℤ → Sys → Prop}
    (hnone : (¬ A (.psmGet psmPppManagerPppIfCount) false → s.pppIfCount.toNat ≤ pppTableLength →
      ∀ j < s.pppIfCount.toNat, (s.table j).info.pppPid ≠ pid) → Q (-1) s)
    (hsome : ∀ i, i < pppTableLength → i < s.pppIfCount.toNat → (s.table i).info.pppPid = pid →
      (¬ A (.psmGet psmPppManagerPppIfCount) false → FirstWithPid s pid i) →
      Q (toInt (s.table i).cfg.instanceNumber) s) :
  (contract t A F).wp (getIfaceDataWithPid pid) Q s
  := by
  have hloop : ∀ n k, (¬ A (.psmGet psmPppManagerPppIfCount) false →
      ∀ j, j + 1 < n → j < s.pppIfCount.toNat → (s.table j).info.pppPid ≠ pid) →
      (¬ A (.psmGet psmPppManagerPppIfCount) false → s.pppIfCount.toNat ≤ pppTableLength →
        s.pppIfCount.toNat < n + k) →
      (contract t A F).wp (getIfaceDataWithPidLoop pid n k) Q s := by
    intro n k
    induction k generalizing n with
    | zero =>
        intro hbefore hall
        apply hnone
        intro hread hle j hj
        apply hbefore hread j _ hj
        apply Nat.lt_of_le_of_lt hj (hall hread hle)
    | succ k ih =>
        intro hbefore hall
        rw [Nat.add_comm k 1, ← Nat.add_assoc] at hall
        rw [getIfaceDataWithPidLoop, Contract.wp_bind]
        apply wp_getIfaceDataLocked
        · intro hno
          apply ih _ _ hall
          intro hread j hj hcount
          obtain rfl | h | h := hno
          · omega
          · apply absurd h hread
          · apply hbefore hread j _ hcount
            omega
        · rintro i rfl hi hcount
          rw [Contract.wp_bind, wp_load]
          intro _
          split_ifs with hpid
          · rw [Contract.wp_bind]
            apply wp_getIfaceDataRelease (l := s.locks i)
            · simp
            · rw [Sys.setLock_setLock, Sys.setLock_self _ _ rfl]
              apply hsome i hi hcount hpid
              intro hread
              use hpid
              intro j hj
              apply hbefore hread j (Nat.succ_lt_succ hj) (Nat.lt_trans hj hcount)
          · rw [Contract.wp_bind]
            apply wp_getIfaceDataRelease (l := s.locks i)
            · simp
            · rw [Sys.setLock_setLock, Sys.setLock_self _ _ rfl]
              apply ih _ _ hall
              intro hread j hj hcount
              rcases Nat.lt_or_eq_of_le (Nat.le_of_lt_succ (Nat.lt_of_succ_lt_succ hj)) with h | rfl
              · apply hbefore hread j (Nat.succ_lt_succ h) hcount
              · apply hpid
  have hstart : ¬ A (.psmGet psmPppManagerPppIfCount) false →
      ∀ j, j + 1 < 1 → j < s.pppIfCount.toNat → (s.table j).info.pppPid ≠ pid := by
    intro _ j hj
    omega
  have hcount : s.pppIfCount.toNat ≤ pppTableLength →
      (toInt s.pppIfCount.toInt).toNat = s.pppIfCount.toNat := by
    intro hle
    rw [toInt_pppIfCount hle, Int.toNat_natCast]
  rw [getIfaceDataWithPid, Contract.wp_bind]
  apply wp_dmlGetTotalNoOfPPPInterfaces
  · intro hread
    apply hloop _ _ hstart
    intro hread'
    apply absurd hread hread'
  · apply hloop _ _ hstart
    intro _ hle
    rw [hcount hle, Nat.add_comm]
    apply Nat.lt_succ_self

/-- What the kind of a state message is handled by. -/
inductive Handler where
  | stateChanged
  | ipcp
  | ipv6cp
  | none
  deriving DecidableEq

/-- The handler of a kind of state message. -/
def handlerOf : PppState → Handler
  | .ipcpCompleted => .ipcp
  | .ipcpFailed => .ipcp
  | .ipv6cpCompleted => .ipv6cp
  | .ipv6cpFailed => .ipv6cp
  | .unknown _ => .none
  | _ => .stateChanged

/-- The number of events a kind of state message makes the manager send. -/
def eventCount (p : PppState) : ℕ :=
  match handlerOf p with
  | .stateChanged => if linkStatus p = none then 0 else 2
  | .ipcp => 1
  | .ipv6cp => 1
  | .none => 0

/-- The ways the switch of `PppMgr_ProcessPppState` ends for an instance. -/
inductive DispatchEnds (A : (o : Op) → o.Ans → Prop) (b : Build) (s : Sys) (n : ℤ)
    (msg : IpcPppEventMsg) : AnscStatus → Sys → Prop
  | stateChanged {r : AnscStatus} {s' : Sys} (hkind : handlerOf msg.pppState = .stateChanged)
      (h : StateChangedEnds A b s n msg r s') : DispatchEnds A b s n msg r s'
  | ipcp {r : AnscStatus} {s' : Sys} (hkind : handlerOf msg.pppState = .ipcp)
      (h : IpcpEnds A b s n msg.pppIpcpMsg r s') : DispatchEnds A b s n msg r s'
  | ipv6cp {r : AnscStatus} {s' : Sys} (hkind : handlerOf msg.pppState = .ipv6cp)
      (h : Ipv6cpEnds A b s n msg.pppIpv6cpMsg r s') : DispatchEnds A b s n msg r s'
  | unknown (hkind : handlerOf msg.pppState = .none) : DispatchEnds A b s n msg .failure s

/-- The rule of the switch of `PppMgr_ProcessPppState`. -/
theorem wp_dispatchPppState {b : Build} {n : ℤ} {msg : IpcPppEventMsg}
    {Q : AnscStatus → Sys → Prop}
    (hroom : s.queue.length + eventCount msg.pppState ≤ maxQueueLength ∨ F)
    (hQ : ∀ r s', DispatchEnds A b s n msg r s' → Q r s') :
  (contract t A F).wp (dispatchPppState b n msg) Q s
  := by
  rw [dispatchPppState]
  rw [eventCount] at hroom
  cases hstate : msg.pppState with
  | ipcpCompleted | ipcpFailed =>
      rw [hstate] at hroom
      apply wp_processIpcpParams
      · apply hroom
      · intro r s' h
        apply hQ _ _ (.ipcp (by rw [hstate]; rfl) h)
  | ipv6cpCompleted | ipv6cpFailed =>
      rw [hstate] at hroom
      apply wp_processIpv6cpParams
      · apply hroom
      · intro r s' h
        apply hQ _ _ (.ipv6cp (by rw [hstate]; rfl) h)
  | unknown code => apply hQ _ _ (.unknown (by rw [hstate]; rfl))
  | interfaceConnecting | interfaceAuthenticating | interfaceDisconnecting | lcpAuthCompleted =>
      apply wp_processStateChangedMsg
      · rw [hstate]
        apply Or.inl rfl
      · intro r s' h
        apply hQ _ _ (.stateChanged (by rw [hstate]; rfl) h)
  | _ =>
      rw [hstate] at hroom
      apply wp_processStateChangedMsg
      · apply Or.inr hroom
      · intro r s' h
        apply hQ _ _ (.stateChanged (by rw [hstate]; rfl) h)

/-- An entry the PSM count covers has the pid. -/
def HasPid (s : Sys) (pid : ℤ) : Prop :=
  ∃ i < s.pppIfCount.toNat, (s.table i).info.pppPid = pid

instance (pid : ℤ) : Decidable (HasPid s pid) :=
  inferInstanceAs (Decidable (∃ i < s.pppIfCount.toNat, (s.table i).info.pppPid = pid))

/-- The ways a call of `PppMgr_ProcessPppState` ends: it ignores the message, or it hands it to the
entry `i`, which has its pid, and is the first that has it if the PSM count can always be read. -/
inductive PppStateEnds (A : (o : Op) → o.Ans → Prop) (b : Build) (s : Sys) (m : IpcMsgPayload) :
    AnscStatus → Sys → Prop
  | ignored (h : m.msgType = .pppStateChange → ¬ A (.psmGet psmPppManagerPppIfCount) false →
      Numbered s → ¬ HasPid s m.pppEventMsg.pid) : PppStateEnds A b s m .failure s
  | dispatched (i : ℕ) {r : AnscStatus} {s' : Sys} (hi : i < pppTableLength)
      (hcount : i < s.pppIfCount.toNat)
      (hpid : (s.table i).info.pppPid = m.pppEventMsg.pid)
      (hfirst : ¬ A (.psmGet psmPppManagerPppIfCount) false →
        FirstWithPid s m.pppEventMsg.pid i)
      (h : DispatchEnds A b s (toInt (s.table i).cfg.instanceNumber) m.pppEventMsg r s')
      (htype : m.msgType = .pppStateChange) : PppStateEnds A b s m r s'

/-- The rule of `PppMgr_ProcessPppState`. -/
theorem wp_processPppState {b : Build} {m : IpcMsgPayload} {Q : AnscStatus → Sys → Prop}
    (hroom : m.msgType = .pppStateChange → HasPid s m.pppEventMsg.pid →
      s.queue.length + eventCount m.pppEventMsg.pppState ≤ maxQueueLength ∨ F)
    (hQ : ∀ r s', PppStateEnds A b s m r s' → Q r s') :
  (contract t A F).wp (processPppState b m) Q s
  := by
  rw [processPppState]
  by_cases htype : m.msgType = .pppStateChange
  · rw [if_neg (not_not.mpr htype), Contract.wp_bind]
    apply wp_getIfaceDataWithPid
    · intro hnone
      apply hQ _ _ (.ignored _)
      rintro - hread hs ⟨j, hj, hpid⟩
      apply hnone hread hs.count_le j hj hpid
    · intro i hi hcount hpid hfirst
      have hroom := hroom htype ⟨i, hcount, hpid⟩
      have hdispatched := fun r s' h =>
        hQ r s' (PppStateEnds.dispatched i hi hcount hpid hfirst h htype)
      have hnumber : Numbered s → toInt (s.table i).cfg.instanceNumber ≠ -1 := by
        intro hs
        rw [hs.toInt_instanceNumber hcount]
        omega
      generalize toInt (s.table i).cfg.instanceNumber = n at hdispatched hnumber ⊢
      by_cases hn : n = -1
      · rw [if_pos hn]
        apply hQ _ _ (.ignored _)
        intro _ _ hs
        apply absurd hn (hnumber hs)
      · rw [if_neg hn]
        apply wp_dispatchPppState hroom hdispatched
  · rw [if_pos htype]
    apply hQ _ _ (.ignored _)
    intro h
    apply absurd h htype

/-! ### Queue events -/

/-- The pair `PppMgr_ProcessPppEvent` writes into a key for the instance `n`: that of its entry, or
-1 twice if no entry is found. -/
inductive WritesPair (A : (o : Op) → o.Ans → Prop) (s : Sys) (n : ℕ) : ℤ × ℤ → Prop
  | noEntry (h : NoSuchEntry A s n) : WritesPair A s n (-1, -1)
  | entry (i : ℕ) (hn : n = i + 1) (hi : i < pppTableLength) :
      WritesPair A s n (s.table i).wanPair

/-- An event that sets a parameter has all its texts. -/
def PppEventQData.HasPaths (ev : PppEventQData) : Prop :=
  ev.keyPath ≠ none ∧ ev.comPath ≠ none ∧ ev.busPath ≠ none

/-- The key an event writes with a pair. -/
def PppEventQData.key (ev : PppEventQData) (pair : ℤ × ℤ) : CStr :=
  snprintf 255 (ev.keyPath.getD []) [.int pair.1, .int pair.2]

/-- The ways a call of `PppMgr_ProcessPppEvent` ends. -/
inductive EventEnds (A : (o : Op) → o.Ans → Prop) (b : Build) (s : Sys) (ev : PppEventQData) :
    AnscStatus → Sys → Prop
  | invalid (hpos : ¬ (0 < ev.pppIfInstance ∧ ev.action = .execPppClient))
      (hpaths : ¬ (0 < ev.pppIfInstance ∧ ev.HasPaths)) : EventEnds A b s ev .failure s
  | busSet (r : AnscStatus) (component bus name value : CStr) (haction : ev.action = .busSet)
      (hpos : 0 < ev.pppIfInstance) (hpaths : ev.HasPaths) (pair : ℤ × ℤ)
      (hpair : WritesPair A s ev.pppIfInstance.toNat pair) (hname : name = ev.key pair)
      (hvalue : value = ev.val) :
      EventEnds A b s ev r (s.emit (.busSet component bus name value))
  | exec (r : AnscStatus) (s' : Sys) (hpos : 0 < ev.pppIfInstance)
      (haction : ev.action = .execPppClient)
      (h : StartEnds A b s ev.pppIfInstance.toNat r s') : EventEnds A b s ev .success s'

theorem wp_wanInstanceOf {n : ℕ} {Q : ℤ × ℤ → Sys → Prop}
    (hQ : ∀ pair, WritesPair A s n pair → Q pair s) :
  (contract t A F).wp (wanInstanceOf n) Q s
  := by
  rw [wanInstanceOf, Contract.wp_bind]
  apply wp_getIfaceDataLocked
  · intro h
    apply hQ _ (.noEntry h)
  · intro i hn hi _
    rw [Contract.wp_bind, wp_load]
    intro _
    rw [Contract.wp_bind]
    apply wp_getIfaceDataRelease (l := s.locks i)
    · simp
    · rw [Sys.setLock_setLock, Sys.setLock_self _ _ rfl]
      apply hQ _ (.entry i hn hi)

/-- The rule of `PppMgr_ProcessPppEvent`. -/
theorem wp_processPppEvent {b : Build} {ev : PppEventQData} {Q : AnscStatus → Sys → Prop}
    (hQ : ∀ r s', EventEnds A b s ev r s' → Q r s') :
  (contract t A F).wp (processPppEvent b ev) Q s
  := by
  rw [processPppEvent]
  split_ifs with hpos
  · have hneg := Int.not_lt.mpr hpos
    apply hQ _ _ (.invalid (fun h => hneg h.1) (fun h => hneg h.1))
  · have hinvalid : ev.action = .busSet → ¬ ev.HasPaths → Q .failure s := by
      intro haction hpaths
      apply hQ _ _ (.invalid _ (fun h => hpaths h.2))
      rintro ⟨-, hexec⟩
      rw [haction] at hexec
      cases hexec
    cases haction : ev.action with
    | busSet =>
        cases hkey : ev.keyPath with
        | none => apply hinvalid haction (fun h => h.1 hkey)
        | some keyPath =>
            cases hcom : ev.comPath with
            | none => apply hinvalid haction (fun h => h.2.1 hcom)
            | some comPath =>
                cases hbus : ev.busPath with
                | none => apply hinvalid haction (fun h => h.2.2 hbus)
                | some busPath =>
                    have hpaths : ev.HasPaths := by
                      rw [PppEventQData.HasPaths, hkey, hcom, hbus]
                      exact ⟨nofun, nofun, nofun⟩
                    dsimp only
                    rw [Contract.wp_bind]
                    apply wp_wanInstanceOf
                    intro pair hpair
                    have hname : snprintf 255 keyPath [.int pair.1, .int pair.2] = ev.key pair := by
                      rw [PppEventQData.key, hkey]
                      rfl
                    rw [dmlWanmanagerSetParamValues, Contract.wp_bind, wp_busSet]
                    intro r _
                    have hends := fun r => hQ _ _ (.busSet r comPath busPath _ _ haction
                      (Int.not_le.mp hpos) hpaths pair hpair hname rfl)
                    dsimp only
                    split_ifs <;> apply hends
    | execPppClient =>
        dsimp only
        rw [Contract.wp_bind]
        apply wp_startPppClient
        intro r s' h
        apply hQ _ _ (.exec r s' (Int.not_le.mp hpos) haction h)

/-- The rule of the part of the loop that takes an event from the queue. -/
theorem wp_handleQueue {b : Build} {Q : Unit → Sys → Prop} (hempty : s.queue = [] → Q () s)
    (hQ : ∀ ev evs r s', s.queue = ev :: evs → EventEnds A b { s with queue := evs } ev r s' →
      Q () s') :
  (contract t A F).wp (handleQueue b) Q s
  := by
  rw [handleQueue, Contract.wp_bind, wp_mqReceive]
  cases hqueue : s.queue with
  | nil =>
      have hs : { s with queue := [] } = s := by
        rw [← hqueue]
      rw [List.head?_nil, List.tail_nil, hs]
      apply hempty hqueue
  | cons ev evs =>
      rw [List.head?_cons, List.tail_cons, Contract.wp_bind]
      apply wp_processPppEvent
      intro r s' h
      apply hQ ev evs r s' hqueue h

end

end PppManager
