import PppManager.Manager.IpcpParams

/-!
# Messages of the wrong size

`PppMgr_EventHandlerThread` receives a message into a buffer of zeros, without a look at its size: a
message that is too long is written beyond the buffer, and one that is too short is completed with
zeros and handled.  `ignoresBytes_iff` says which bytes it ignores.
-/

namespace PppManager

open Effect Effect.Program CText

/-- The message in the bytes, completed with zeros. -/
def paddedMessage (b : Build) (bytes : CStr) : IpcMsgPayload :=
  b.readIpcMsgPayload (bytes ++ List.replicate (b.sizeofIpcMsgPayload - bytes.length) '\x00')

/-- An iteration that receives the bytes writes nothing beyond the message buffer, and leaves the
entries and the queue as they are, whatever the outside answers. -/
def IgnoresBytes (b : Build) (bytes : CStr) (s : Sys) : Prop :=
  ∀ ω : Answers, ω 0 .nnRecv = some bytes →
    ∃ s' k, (machine .event).exec ω (handleSocket b) 0 s = .ok ((), s', k) ∧
      s'.table = s.table ∧ s'.queue = s.queue

/-- A state message with the pid of the entry `e` makes the manager do nothing: its state is
unknown, or it is `PPP_LCP_AUTH_COMPLETED` with the values that the entry has. -/
def Ineffective (msg : IpcPppEventMsg) (e : DmlPppIfFull) : Prop :=
  handlerOf msg.pppState = .none ∨
    msg.pppState = .lcpAuthCompleted ∧ switchEntry msg 0 none e = e

/-- The bytes fit into the message buffer, and there are none, or they are, completed with zeros, no
state message, or one that makes the manager do nothing for any entry with its pid. -/
def HarmlessBytes (b : Build) (bytes : CStr) (s : Sys) : Prop :=
  bytes.length ≤ b.sizeofIpcMsgPayload ∧
    (bytes = [] ∨ (paddedMessage b bytes).msgType ≠ .pppStateChange ∨
      ∀ i < s.pppIfCount.toNat, (s.table i).info.pppPid = (paddedMessage b bytes).pppEventMsg.pid →
        Ineffective (paddedMessage b bytes).pppEventMsg (s.table i))

/-! ### Looking up a pid -/

section

variable {t : Thread} {b : Build} {ω : (machine t).Oracle} {i k m n c : ℕ} {s : Sys} {pid : ℤ}

theorem AtRest.index_lt (hs : AtRest s) (hi : i < s.pppIfCount.toNat) :
  i < pppTableLength
  := Nat.lt_of_lt_of_le hi hs.count_le

/-- The mutex of an entry is taken and given back. -/
theorem AtRest.setLock_self (hs : AtRest s) (owners : List Thread) :
  (s.setLock i owners).setLock i [] = s
  := by
  rw [Sys.setLock_setLock, Sys.setLock_self _ _ (hs.locks i)]

/-- A lookup finds the entry of the instance, or none. -/
theorem exec_getIfaceDataLocked_cases (hs : AtRest s) :
  (∃ k', (machine t).exec ω (getIfaceDataLocked n) k s = .ok (none, s, k')) ∨
    ∃ i k', n = i + 1 ∧ i < s.pppIfCount.toNat ∧
      (machine t).exec ω (getIfaceDataLocked n) k s = .ok (some i, s.setLock i [t], k')
  := by
  cases n with
  | zero => exact .inl ⟨k, rfl⟩
  | succ i =>
      by_cases hnone : ω k (.psmGet psmPppManagerPppIfCount) = false ∨ s.pppIfCount.toNat < i + 1
      · exact .inl ⟨_, exec_getIfaceDataLocked_none hnone⟩
      · obtain ⟨hω, hi⟩ := not_or.mp hnone
        have hi := Nat.lt_of_succ_le (Nat.not_lt.mp hi)
        have hfound := exec_getIfaceDataLocked (t := t) (Bool.of_not_eq_false hω) (hs.index_lt hi) hi
          (by rw [hs.locks i]; nofun)
        rw [hs.locks i] at hfound
        exact .inr ⟨i, _, rfl, hi, hfound⟩

/-- The search for a pid ends with the number of an entry that has it, or with -1. -/
theorem exec_getIfaceDataWithPidLoop (hs : AtRest s) :
  ∃ n k', (machine t).exec ω (getIfaceDataWithPidLoop pid m c) k s = .ok (n, s, k') ∧
    (n = -1 ∨ ∃ i < s.pppIfCount.toNat, (s.table i).info.pppPid = pid ∧
      n = toInt (s.table i).cfg.instanceNumber)
  := by
  induction c generalizing m k with
  | zero => exact ⟨-1, k, rfl, .inl rfl⟩
  | succ c ih =>
      rw [getIfaceDataWithPidLoop, Machine.exec_bind]
      obtain ⟨k', hnone⟩ | ⟨i, k', -, hi, hsome⟩ := exec_getIfaceDataLocked_cases hs
      · rw [hnone]
        apply ih
      · rw [hsome]
        dsimp only [Except.bind]
        rw [exec_pidFound (hs.index_lt hi) (hs.locks i)]
        split_ifs with hpid
        · exact ⟨_, _, rfl, .inr ⟨i, hi, hpid, rfl⟩⟩
        · apply ih

theorem exec_getIfaceDataWithPid (hs : AtRest s) (pid : ℤ) :
  ∃ n k', (machine t).exec ω (getIfaceDataWithPid pid) k s = .ok (n, s, k') ∧
    (n = -1 ∨ ∃ i < s.pppIfCount.toNat, (s.table i).info.pppPid = pid ∧
      n = toInt (s.table i).cfg.instanceNumber)
  := by
  rw [getIfaceDataWithPid, Machine.exec_bind, exec_dmlGetTotalNoOfPPPInterfaces]
  apply exec_getIfaceDataWithPidLoop hs

/-- The search passes the entries at which the number of interfaces cannot be read. -/
theorem exec_getIfaceDataWithPidLoop_found (hs : AtRest s) (hi : i < s.pppIfCount.toNat)
    (hpid : (s.table i).info.pppPid = pid) (hm : 0 < m) {d : ℕ} (hd : m + d = i + 1) (hc : d < c)
    (hskip : ∀ j < d, ω (k + j) (.psmGet psmPppManagerPppIfCount) = false)
    (hfound : ω (k + d) (.psmGet psmPppManagerPppIfCount) = true) :
  ∃ k' ≥ k + d, (machine t).exec ω (getIfaceDataWithPidLoop pid m c) k s =
    .ok (toInt (s.table i).cfg.instanceNumber, s, k')
  := by
  obtain ⟨c, rfl⟩ := Nat.exists_eq_succ_of_ne_zero (Nat.ne_zero_of_lt hc)
  induction d generalizing m k c with
  | zero =>
      obtain rfl : m = i + 1 := hd
      rw [Nat.add_zero] at hfound
      have hfree : ∀ t' ∈ s.locks i, t' = t := owned_of_free (hs.locks i)
      use k + 4, by omega
      rw [getIfaceDataWithPidLoop, Machine.exec_bind,
        exec_getIfaceDataLocked hfound (hs.index_lt hi) hi hfree, hs.locks i]
      dsimp only [Except.bind]
      rw [exec_pidFound (hs.index_lt hi) (hs.locks i), if_pos hpid]
  | succ d ih =>
      obtain ⟨m, rfl⟩ := Nat.exists_eq_succ_of_ne_zero (Nat.ne_of_gt hm)
      have hnone := exec_getIfaceDataLocked_none (t := t) (s := s) (i := m) (k := k)
        (.inl (hskip 0 (Nat.succ_pos d)))
      obtain ⟨c, rfl⟩ := Nat.exists_eq_succ_of_ne_zero (Nat.ne_zero_of_lt (Nat.lt_of_succ_lt_succ hc))
      obtain ⟨k', hk', hloop⟩ := ih (m := m.succ + 1) (k := k + 1) (Nat.succ_pos _) (by omega)
        (fun j hj => by
          rw [Nat.add_assoc, Nat.add_comm 1 j]
          apply hskip _ (Nat.succ_lt_succ hj))
        (by
          rw [Nat.add_assoc, Nat.add_comm 1 d]
          apply hfound) c (Nat.lt_of_succ_lt_succ hc)
      use k', by omega
      rw [getIfaceDataWithPidLoop, Machine.exec_bind, hnone]
      apply hloop

/-! ### Messages that do nothing -/

theorem exec_storeUnless {p : Prop} [Decidable p] {f : DmlPppIfFull → DmlPppIfFull}
    (hi : i < pppTableLength) :
  ∃ k', (machine t).exec ω (storeUnless p i f) k s =
    .ok ((), s.setEntry i (if p then s.table i else f (s.table i)), k')
  := by
  rw [storeUnless]
  split_ifs
  · rw [Sys.setEntry_self _ _ rfl]
    exact ⟨k, rfl⟩
  · exact ⟨_, exec_store hi⟩

/-- The case `PPP_LCP_AUTH_COMPLETED` of the switch. -/
theorem exec_switchPppState_auth {msg : IpcPppEventMsg} (hi : i < pppTableLength)
    (hstate : msg.pppState = .lcpAuthCompleted) :
  ∃ k', (machine t).exec ω (switchPppState i msg) k s =
    .ok (none, s.setEntry i (switchEntry msg 0 none (s.table i)), k')
  := by
  obtain ⟨k₁, h₁⟩ := exec_storeUnless (ω := ω) (k := k + 1)
    (s := s.setEntry i ((s.table i).setSruSrd (0, 0))) (p := msg.pppLcpMsg.vendormsg = [])
    (f := (·.setSruSrd (dmlSetVendorParams msg.pppLcpMsg.vendormsg (0, 0)))) hi
  rw [Sys.setEntry_setEntry, Sys.setEntry_table, Function.update_self] at h₁
  obtain ⟨k₂, h₂⟩ := exec_storeUnless (ω := ω) (k := k₁)
    (s := s.setEntry i (if msg.pppLcpMsg.vendormsg = [] then (s.table i).setSruSrd (0, 0)
      else ((s.table i).setSruSrd (0, 0)).setSruSrd
        (dmlSetVendorParams msg.pppLcpMsg.vendormsg (0, 0))))
    (p := msg.pppLcpMsg.authproto = [])
    (f := (·.setAuthenticationProtocol
      (if msg.pppLcpMsg.authproto = "PAP".toList then .pap else .chap))) hi
  rw [Sys.setEntry_setEntry, Sys.setEntry_table, Function.update_self] at h₂
  use k₂
  rw [switchPppState, hstate]
  dsimp only
  rw [Machine.exec_bind, completeLcpAuth, exec_store_bind hi, Machine.exec_bind, h₁]
  dsimp only [Except.bind]
  rw [h₂]
  dsimp only [Except.bind]
  rw [Machine.exec_pure, switchEntry, hstate]
  dsimp only
  split_ifs <;> rfl

/-- A state message that makes the manager do nothing for its entry is handled in the state it is
received in. -/
theorem exec_dispatchPppState_ineffective {msg : IpcPppEventMsg} (hs : AtRest s)
    (hi : i < s.pppIfCount.toNat) (hmsg : Ineffective msg (s.table i)) :
  ∃ r k', (machine t).exec ω (dispatchPppState b (i + 1 : ℕ) msg) k s = .ok (r, s, k')
  := by
  rcases hmsg with hunknown | ⟨hauth, hentry⟩
  · rw [dispatchPppState]
    cases hstate : msg.pppState with
    | unknown code => exact ⟨.failure, k, rfl⟩
    | _ =>
        rw [hstate] at hunknown
        cases hunknown
  · have hpos : ¬ ((i + 1 : ℕ) : ℤ) ≤ 0 := by
      omega
    rw [dispatchPppState, hauth]
    dsimp only
    rw [processStateChangedMsg, if_neg hpos, Int.toNat_natCast, Machine.exec_bind]
    obtain ⟨k₁, hnone⟩ | ⟨j, k₁, hj, -, hsome⟩ := exec_getIfaceDataLocked_cases (n := i + 1) hs
    · rw [hnone]
      exact ⟨.failure, k₁, rfl⟩
    · obtain rfl := Nat.succ_inj.mp hj
      obtain ⟨k₂, hswitch⟩ := exec_switchPppState_auth (t := t) (ω := ω) (k := k₁)
        (s := s.setLock i [t]) (hs.index_lt hi) hauth
      rw [Sys.setLock_table, hentry, Sys.setEntry_self _ _ (by rfl)] at hswitch
      have hheld : (s.setLock i [t]).locks i = [t] := by
        rw [Sys.setLock_locks, Function.update_self]
      rw [hsome]
      dsimp only [Except.bind]
      rw [Machine.exec_bind, hswitch]
      dsimp only [Except.bind]
      rw [Machine.exec_bind, getIfaceDataRelease, exec_unlock hheld, hs.setLock_self]
      exact ⟨.success, _, rfl⟩

/-- A message that makes the manager do nothing for any entry with its pid is handled in the state
it is received in. -/
theorem exec_processPppState_ineffective {m : IpcMsgPayload} (hs : AtRest s)
    (hm : m.msgType ≠ .pppStateChange ∨ ∀ i < s.pppIfCount.toNat,
      (s.table i).info.pppPid = m.pppEventMsg.pid → Ineffective m.pppEventMsg (s.table i)) :
  ∃ r k', (machine t).exec ω (processPppState b m) k s = .ok (r, s, k')
  := by
  rw [processPppState]
  by_cases htype : m.msgType = .pppStateChange
  · rw [if_neg (not_not.mpr htype), Machine.exec_bind]
    obtain ⟨n, k₁, hpid, hn⟩ := exec_getIfaceDataWithPid (t := t) (ω := ω) (k := k) hs
      m.pppEventMsg.pid
    rw [hpid]
    dsimp only [Except.bind]
    split_ifs with hnone
    · exact ⟨.failure, k₁, rfl⟩
    · obtain ⟨i, hi, hipid, hinst⟩ := hn.resolve_left hnone
      rw [hinst, hs.toInt_instanceNumber hi]
      apply exec_dispatchPppState_ineffective hs hi
      apply hm.resolve_left (not_not.mpr htype) i hi hipid
  · rw [if_pos htype]
    exact ⟨.failure, k, rfl⟩

end

/-! ### Messages that do something -/

/-- Answers where everything works, the socket gives the bytes and the uptime is `uptime`; but the
number of interfaces cannot be read while the search for a pid passes the entries before `i`. -/
def reachAnswers (bytes uptime : CStr) (i : ℕ) : Answers
  | k, .psmGet _ => decide (k = 1 ∨ i + 2 ≤ k)
  | k, o =>
      { workingOutside 1 none [] with
        socket := some bytes
        bus := fun _ => some (some uptime) }.answers k o

section

variable {b : Build} {i : ℕ} {s s' : Sys} {A : (o : Op) → o.Ans → Prop} {msg : IpcPppEventMsg}
  {u : ULong} {q : AnscStatus}

theorem ne_append_singleton {α : Type} (l : List α) (a : α) :
  l ++ [a] ≠ l
  := by
  intro h
  cases List.append_right_eq_self.mp h

/-- Where no send fails, the entry is found and the uptime is not the `LastChange` it has, handling
a state message changes the entry or the queue, unless the message makes the manager do nothing. -/
theorem DispatchEnds.changes (hmsg : ¬ Ineffective msg (s.table i)) (hi : i < s.pppIfCount.toNat)
    (hnumber : (s.table i).cfg.instanceNumber = i + 1)
    (hcount : ¬ A (.psmGet psmPppManagerPppIfCount) false) (hsends : ∀ ev, ¬ CanFail A ev)
    (huptime : ∀ u, GivesUptime A u → u ≠ (s.table i).info.lastChange)
    (h : DispatchEnds A b s (i + 1 : ℕ) msg q s') :
  s'.table ≠ s.table ∨ s'.queue ≠ s.queue
  := by
  have hfound : ¬ NoSuchEntry A s ((i + 1 : ℕ) : ℤ).toNat := by
    rw [Int.toNat_natCast]
    rintro (h | h | h)
    · cases h
    · apply hcount h
    · omega
  have hsent : ∀ {r : Bool} {ev}, (r = false → CanFail A ev) → r = true :=
    fun hr => Bool.of_not_eq_false (fun h => hsends _ (hr h))
  cases h with
  | stateChanged hkind h =>
      cases h with
      | noEntry h => apply absurd h hfound
      | quiet j uptime id w hn hj hlink hup =>
          obtain rfl := Nat.succ_inj.mp ((Int.toNat_natCast _).symm.trans hn)
          left
          rw [switchState_table]
          intro htable
          have hentry := congrFun htable i
          rw [Function.update_self] at hentry
          cases hwrites : msg.pppState.writesLastChange with
          | true =>
              have hlast := switchEntry_lastChange msg uptime id (s.table i)
              rw [hwrites, if_pos rfl, hentry] at hlast
              apply huptime uptime (hup hwrites) hlast.symm
          | false =>
              obtain hstate | hstate := PppState.of_not_writes hwrites
              · apply hmsg
                refine .inr ⟨hstate, ?_⟩
                rw [switchEntry, hstate] at hentry ⊢
                apply hentry
              · rw [hstate] at hlink
                cases hlink
      | refused j uptime id w v hn hj hlink hw hfail => apply absurd hfail (hsends _)
      | told j uptime id w v r hn hj hlink hw hr =>
          obtain rfl := hsent hr
          right
          rw [Sys.sent_queue, Sys.post_queue, switchState_queue, List.append_assoc]
          intro hqueue
          cases List.append_right_eq_self.mp hqueue
  | ipcp hkind h =>
      cases h with
      | noEntry h => apply absurd h hfound
      | down r hr =>
          obtain rfl := hsent hr
          right
          rw [Sys.sent_queue]
          apply ne_append_singleton
      | stored j v r q hn hj hq hr =>
          obtain rfl := hsent hr
          right
          rw [Sys.sent_queue]
          apply ne_append_singleton
  | ipv6cp hkind h =>
      cases h with
      | badInstance h =>
          rw [Int.toNat_natCast] at h
          cases h
      | noEntry h => apply absurd h hfound
      | completed j r hn hj hr =>
          obtain rfl := hsent hr
          right
          rw [Sys.sent_queue]
          apply ne_append_singleton
      | down j r hn hj hr =>
          obtain rfl := hsent hr
          right
          rw [Sys.sent_queue]
          apply ne_append_singleton
  | unknown hkind => apply absurd (.inl hkind) hmsg

/-- The search reaches the entry `i`, and the rest of the handling of the message follows. -/
theorem exec_processPppState_reached (bytes uptime : CStr) {m : IpcMsgPayload} (hs : AtRest s)
    (hi : i < s.pppIfCount.toNat) (htype : m.msgType = .pppStateChange)
    (hpid : (s.table i).info.pppPid = m.pppEventMsg.pid) :
  ∃ k' ≥ i + 2, (machine .event).exec (reachAnswers bytes uptime i) (processPppState b m) 1 s =
    (machine .event).exec (reachAnswers bytes uptime i)
      (dispatchPppState b (i + 1 : ℕ) m.pppEventMsg) k' s
  := by
  obtain ⟨k', hk', hloop⟩ := exec_getIfaceDataWithPidLoop_found (t := .event)
    (ω := reachAnswers bytes uptime i) (m := 1) (k := 2) (c := s.pppIfCount.toNat) (d := i) hs hi hpid
    Nat.one_pos (Nat.add_comm 1 i) hi
    (fun j hj => by
      apply decide_eq_false
      omega)
    (by
      apply decide_eq_true
      omega)
  rw [hs.toInt_instanceNumber hi] at hloop
  use k', by omega
  rw [processPppState, if_neg (not_not.mpr htype), Machine.exec_bind, getIfaceDataWithPid,
    Machine.exec_bind, exec_dmlGetTotalNoOfPPPInterfaces, if_pos (by rfl)]
  dsimp only [Except.bind]
  rw [toInt_pppIfCount hs.count_le, Int.toNat_natCast, hloop]
  dsimp only
  rw [if_neg (by omega)]

/-- What the socket gives is handled if it fits into the message buffer. -/
theorem exec_handleSocket {bytes : CStr} {ω : Answers} (hω : ω 0 .nnRecv = some bytes) :
  (machine .event).exec ω (handleSocket b) 0 s =
    if bytes.length ≤ b.sizeofIpcMsgPayload then
      if bytes = [] then .ok ((), s, 1)
      else ((machine .event).exec ω (processPppState b (paddedMessage b bytes)) 1 s).map
        (fun r => ((), r.2))
    else .error (.undefined .bufferOverflow)
  := by
  have hrecv : (machine .event).exec ω nnRecv 0 s = .ok (some bytes, s, 1) := by
    rw [← hω]
    apply Machine.exec_perform
    rfl
  rw [handleSocket, receiveIpcSocket, LawfulMonad.bind_assoc, Machine.exec_bind, hrecv]
  dsimp only [Except.bind]
  split_ifs with hfits hempty
  · rw [hempty]
    rfl
  · rw [Machine.exec_bind, Machine.exec_pure]
    dsimp only [Except.bind]
    rw [if_pos (List.length_pos_iff.mpr hempty), Machine.exec_bind, paddedMessage]
    cases (machine .event).exec ω (processPppState b _) 1 s <;> rfl
  · rfl

/-- The uptime in an answer that differs from `LastChange`. -/
def otherUptime (lastChange : ULong) : CStr :=
  if lastChange = 0 then "1".toList else "0".toList

theorem uptimeOf_otherUptime (lastChange : ULong) :
  uptimeOf (some (some (otherUptime lastChange))) ≠ lastChange
  := by
  have h0 : uptimeOf (some (some "0".toList)) = 0 := by
    decide
  have h1 : uptimeOf (some (some "1".toList)) = 1 := by
    decide
  rw [otherUptime]
  split_ifs with h
  · rw [h1, h]
    decide
  · rw [h0]
    apply Ne.symm h

/-- The bytes that make the manager do something for an entry are not ignored. -/
theorem IgnoresBytes.ineffective {bytes : CStr} (hs : AtRest s) (h : IgnoresBytes b bytes s)
    (hfits : bytes.length ≤ b.sizeofIpcMsgPayload) (hsome : bytes ≠ [])
    (htype : (paddedMessage b bytes).msgType = .pppStateChange) (hi : i < s.pppIfCount.toNat)
    (hpid : (s.table i).info.pppPid = (paddedMessage b bytes).pppEventMsg.pid) :
  Ineffective (paddedMessage b bytes).pppEventMsg (s.table i)
  := by
  by_contra hmsg
  let ω := reachAnswers bytes (otherUptime (s.table i).info.lastChange) i
  obtain ⟨k', hk', hreached⟩ := exec_processPppState_reached (b := b) bytes
    (otherUptime (s.table i).info.lastChange) hs hi htype hpid
  obtain ⟨s', k, hexec, htable, hqueue⟩ := h ω rfl
  rw [exec_handleSocket rfl, if_pos hfits, if_neg hsome, hreached] at hexec
  cases hdispatch : (machine .event).exec ω
      (dispatchPppState b (i + 1 : ℕ) (paddedMessage b bytes).pppEventMsg) k' s with
  | error e =>
      rw [hdispatch] at hexec
      cases hexec
  | ok r =>
      obtain ⟨q, s₁, k₁⟩ := r
      rw [hdispatch] at hexec
      obtain ⟨-, hrest⟩ := Prod.mk.inj (Except.ok.inj hexec)
      obtain ⟨rfl, -⟩ := Prod.mk.inj hrest
      have hends := Contract.wp_exec_gets (C := contract .event ((machine .event).Gets ω _ k' s) True)
        (fun o x hx _ => hx) (wp_dispatchPppState (.inr trivial) (fun _ _ h => h)) hdispatch
      have hchanges := hends.changes hmsg hi (hs.instanceNumber i hi)
      obtain hchange | hchange := hchanges
        (by
          intro hget
          obtain ⟨t', ht', hx⟩ := hget.exists
          have htrue : ω t' (.psmGet psmPppManagerPppIfCount) = true := by
            apply decide_eq_true
            omega
          rw [htrue] at hx
          cases hx)
        (by
          rintro ev (hget | hget) <;>
          · obtain ⟨t', -, hx⟩ := hget.exists
            cases hx)
        (by
          rintro u ⟨r, hget, rfl⟩
          obtain ⟨t', -, rfl⟩ := hget.exists
          apply uptimeOf_otherUptime)
      · apply hchange htable
      · apply hchange hqueue

end

/-- In every state between the calls of a run, an iteration that receives bytes ignores them exactly
if they fit into the message buffer, and there are none, or they are, completed with zeros, no state
message, or one that makes the manager do nothing for any entry with its pid. -/
theorem ignoresBytes_iff {b : Build} {ls : List Access} {s₀ s : Sys} (hs₀ : Initial s₀)
    (hrun : run (Access.next b) ls s₀ = some s) (bytes : CStr) :
  IgnoresBytes b bytes s ↔ HarmlessBytes b bytes s
  := by
  have hs := atRest_of_run hs₀ hrun
  constructor
  · intro h
    have hfits : bytes.length ≤ b.sizeofIpcMsgPayload := by
      by_contra hlong
      obtain ⟨s', k, hexec, -⟩ := h { workingOutside 1 none [] with socket := some bytes }.answers rfl
      rw [exec_handleSocket rfl, if_neg hlong] at hexec
      cases hexec
    use hfits
    by_cases hempty : bytes = []
    · apply Or.inl hempty
    · by_cases htype : (paddedMessage b bytes).msgType = .pppStateChange
      · refine .inr (.inr ?_)
        intro i hi hpid
        apply h.ineffective hs hfits hempty htype hi hpid
      · exact .inr (.inl htype)
  · rintro ⟨hfits, hharmless⟩ ω hω
    rw [exec_handleSocket hω, if_pos hfits]
    by_cases hempty : bytes = []
    · rw [if_pos hempty]
      exact ⟨s, 1, rfl, rfl, rfl⟩
    · obtain ⟨r, k, hexec⟩ := exec_processPppState_ineffective (t := .event) (b := b) (ω := ω) (k := 1)
        hs (hharmless.resolve_left hempty)
      rw [if_neg hempty, hexec]
      exact ⟨s, k, rfl, rfl, rfl⟩

/-! ### A truncated message -/

/-- The number in four bytes, the least significant first. -/
def word (bytes : List Char) : ℕ :=
  (bytes.take 4).foldr (fun c n => c.toNat + 256 * n) 0

/-- The first states, in the order of their numbers. -/
def firstStates : List PppState :=
  [.interfaceUp, .interfaceDown, .interfaceUnconfigured, .interfaceConnecting]

/-- A build in which a message has 1024 bytes: its type, the pid and the state in four bytes each,
and the texts, which are not read here. -/
def wordsBuild : Build :=
  { plainBuild false with
    sizeofIpcMsgPayload := 1024
    readIpcMsgPayload := fun bytes =>
      let code := word (bytes.drop 8)
      { msgType := if word bytes = 1 then .pppStateChange else .other (word bytes)
        pppEventMsg :=
          (stateMessage (word (bytes.drop 4)) (firstStates[code]?.getD (.unknown code))).pppEventMsg } }

/-- A message of another type is ignored, however short it is. -/
theorem ignoresBytes_iff_otherType :
  IgnoresBytes wordsBuild ['\x02'] (freshState 1)
  := by
  have hrun : run (Access.next wordsBuild) [] (freshState 1) = some (freshState 1) := rfl
  apply (ignoresBytes_iff (initial_freshState (by decide)) hrun _).mpr
  refine ⟨by decide, .inr (.inl ?_)⟩
  decide +kernel

/-- A state message that is cut off after its type reports, with the pid 0 of an interface that was
never started, that the interface is up. -/
theorem truncated_message_brings_up :
  ¬ ∀ (b : Build) (bytes : CStr) (ls : List Access) (s₀ s : Sys), Initial s₀ →
    run (Access.next b) ls s₀ = some s → bytes.length ≠ b.sizeofIpcMsgPayload →
    IgnoresBytes b bytes s
  := by
  intro h
  let bytes : CStr := ['\x01', '\x00', '\x00', '\x00']
  let ω := { workingOutside 1 none [] with socket := some bytes }.answers
  have hend : ((machine .event).exec ω (handleSocket wordsBuild) 0 (freshState 1)).toOption.map
      (fun r => (r.2.1.table 0).info.status) = some .up := by
    decide +kernel
  obtain ⟨s', k, hexec, htable, -⟩ := h wordsBuild bytes [] (freshState 1) (freshState 1)
    (initial_freshState (by decide)) rfl (by decide) ω rfl
  rw [hexec] at hend
  have hstatus : (s'.table 0).info.status = .up := Option.some.inj hend
  rw [htable] at hstatus
  cases hstatus

end PppManager
