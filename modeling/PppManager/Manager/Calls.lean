import PppManager.Manager.Reads

/-!
# What the calls do

For each function that changes the state, the ways a call of it can end: the status it returns and
the state it leaves.  The rule of a function says that every call of it ends in one of these ways;
it is proved once, from the body of the function, and later arguments about a call are case
distinctions over them.

A send may fail where the outside may refuse it (`CanFail`); without `F`, the rules ask for room in
the queue.
-/

namespace PppManager

open Effect Effect.Program CText

/-- The outside may refuse to send an event. -/
def CanFail (A : (o : Op) → o.Ans → Prop) (ev : PppEventQData) : Prop :=
  A .mqOpen false ∨ A (.mqSend ev) false

/-- The number of interfaces a record of the database gives. -/
def pppIfCountOf : Option CStr → ULong
  | none => 0
  | some paramValue => ULong.ofLong ((sscanfD paramValue).getD 0)

namespace Sys

/-- The state after an attempt to send an event, which succeeds as `r` says. -/
def sent (r : Bool) (ev : PppEventQData) (s : Sys) : Sys :=
  if r then s.post ev else s

/-- The state after the commands `cs`. -/
def systems (cs : List CStr) (s : Sys) : Sys :=
  { s with acts := s.acts ++ cs.map .system }

/-- The number of interfaces the PSM database gives. -/
def pppIfCount (s : Sys) : ULong :=
  match s.psm psmPppManagerPppIfCount with
  | none => 0
  | some paramValue => ULong.ofLong ((sscanfD paramValue).getD 0)

theorem pppIfCount_eq (s : Sys) :
  s.pppIfCount = pppIfCountOf (s.psm psmPppManagerPppIfCount)
  := by
  rw [pppIfCount]
  cases s.psm psmPppManagerPppIfCount <;> rfl

variable (s : Sys) (r : Bool) (ev : PppEventQData) (cs : List CStr)

@[simp]
theorem sent_table :
  (s.sent r ev).table = s.table
  := by
  cases r <;> rfl

@[simp]
theorem sent_locks :
  (s.sent r ev).locks = s.locks
  := by
  cases r <;> rfl

@[simp]
theorem sent_psm :
  (s.sent r ev).psm = s.psm
  := by
  cases r <;> rfl

@[simp]
theorem sent_queue :
  (s.sent r ev).queue = s.queue ++ if r then [ev] else []
  := by
  cases r <;> simp [sent]

theorem sent_queue_length_le :
  (s.sent r ev).queue.length ≤ s.queue.length + 1
  := by
  cases r <;> simp

@[simp]
theorem sent_acts :
  (s.sent r ev).acts = s.acts ++ if r then [.post ev] else []
  := by
  cases r <;> simp [sent]

@[simp]
theorem sent_setLock (i : ℕ) (owners : List Thread) :
  (s.setLock i owners).sent r ev = (s.sent r ev).setLock i owners
  := by
  cases r <;> rfl

@[simp]
theorem systems_table :
  (s.systems cs).table = s.table
  := rfl

@[simp]
theorem systems_locks :
  (s.systems cs).locks = s.locks
  := rfl

@[simp]
theorem systems_psm :
  (s.systems cs).psm = s.psm
  := rfl

@[simp]
theorem systems_queue :
  (s.systems cs).queue = s.queue
  := rfl

@[simp]
theorem systems_acts :
  (s.systems cs).acts = s.acts ++ cs.map .system
  := rfl

@[simp]
theorem systems_setLock (i : ℕ) (owners : List Thread) :
  (s.setLock i owners).systems cs = (s.systems cs).setLock i owners
  := rfl

@[simp]
theorem sent_setEntry (i : ℕ) (e : DmlPppIfFull) :
  (s.sent r ev).setEntry i e = (s.setEntry i e).sent r ev
  := by
  cases r <;> rfl

@[simp]
theorem systems_setEntry (i : ℕ) (e : DmlPppIfFull) :
  (s.systems cs).setEntry i e = (s.setEntry i e).systems cs
  := rfl

@[simp]
theorem systems_nil :
  s.systems [] = s
  := by
  rw [systems, List.map_nil, List.append_nil]

@[simp]
theorem systems_systems (cs' : List CStr) :
  (s.systems cs).systems cs' = s.systems (cs ++ cs')
  := by
  simp [systems]

theorem emit_system (c : CStr) :
  s.emit (.system c) = s.systems [c]
  := rfl

@[simp]
theorem setLock_pppIfCount (i : ℕ) (owners : List Thread) :
  (s.setLock i owners).pppIfCount = s.pppIfCount
  := rfl

end Sys

section

variable {t : Thread} {A : (o : Op) → o.Ans → Prop} {F : Prop} {s : Sys}

/-! ### Sends and locks -/

theorem wp_sendDataToQ {ev : PppEventQData} {Q : AnscStatus → Sys → Prop}
    (hroom : s.queue.length < maxQueueLength ∨ F)
    (hQ : ∀ r, (r = false → CanFail A ev) → Q (if r then .success else .failure) (s.sent r ev)) :
  (contract t A F).wp (sendDataToQ ev) Q s
  := by
  rw [sendDataToQ, Contract.wp_bind, wp_mqOpen]
  use hroom
  intro r hr
  cases r with
  | false => apply hQ false (fun _ => .inl hr)
  | true =>
      rw [if_pos rfl, Contract.wp_bind, wp_mqSend]
      refine ⟨?_, ?_, ?_⟩
      · intro _ _
        apply hQ true (fun h => nomatch h)
      · intro _ hfull
        apply hroom.resolve_left hfull
      · intro hr
        apply hQ false (fun _ => .inr hr)

theorem exec_dmlGetTotalNoOfPPPInterfaces {ω : (machine t).Oracle} {k : ℕ} :
  (machine t).exec ω dmlGetTotalNoOfPPPInterfaces k s =
    .ok (if ω k (.psmGet psmPppManagerPppIfCount) = true then s.pppIfCount else 0, s, k + 1)
  := by
  rw [dmlGetTotalNoOfPPPInterfaces, getNumOfInstance, Machine.exec_bind, Machine.exec_bind, psmGet,
    perform, Program.perform, Machine.exec, Sys.pppIfCount]
  cases hω : ω k (.psmGet psmPppManagerPppIfCount) with
  | false =>
      simp only [step, Bool.false_eq_true, if_false, Machine.exec]
      rfl
  | true =>
      simp only [step, if_true, Machine.exec]
      cases s.psm psmPppManagerPppIfCount <;> rfl

theorem wp_dmlGetTotalNoOfPPPInterfaces {Q : ULong → Sys → Prop}
    (h0 : A (.psmGet psmPppManagerPppIfCount) false → Q 0 s) (h : Q s.pppIfCount s) :
  (contract t A F).wp dmlGetTotalNoOfPPPInterfaces Q s
  := by
  rw [dmlGetTotalNoOfPPPInterfaces, getNumOfInstance, Contract.wp_bind, Contract.wp_bind,
    wp_psmGet]
  intro r hr
  cases r with
  | false => apply h0 hr
  | true =>
      rw [Sys.pppIfCount] at h
      rw [if_pos rfl]
      cases hpsm : s.psm psmPppManagerPppIfCount with
      | none =>
          rw [hpsm] at h
          apply h
      | some paramValue =>
          rw [hpsm] at h
          apply h

/-- A reason why no entry is found for the instance `n`. -/
def NoSuchEntry (A : (o : Op) → o.Ans → Prop) (s : Sys) (n : ℕ) : Prop :=
  n = 0 ∨ A (.psmGet psmPppManagerPppIfCount) false ∨ s.pppIfCount.toNat < n

theorem wp_getIfaceDataLocked {n : ℕ} {Q : Option ℕ → Sys → Prop}
    (hnone : NoSuchEntry A s n → Q none s)
    (hsome : ∀ i, n = i + 1 → i < pppTableLength → n ≤ s.pppIfCount.toNat →
      Q (some i) (s.setLock i (t :: s.locks i))) :
  (contract t A F).wp (getIfaceDataLocked n) Q s
  := by
  rw [getIfaceDataLocked]
  cases n with
  | zero => apply hnone (.inl rfl)
  | succ i =>
      rw [if_neg (Nat.succ_ne_zero i), Contract.wp_bind]
      apply wp_dmlGetTotalNoOfPPPInterfaces
      · intro h
        apply hnone (.inr (.inl h))
      · by_cases hcount : s.pppIfCount.toNat < i + 1
        · rw [if_pos hcount]
          apply hnone (.inr (.inr hcount))
        · rw [if_neg hcount, Contract.wp_bind, Nat.add_sub_cancel, wp_lock]
          intro hi _
          apply hsome i rfl hi (Nat.not_lt.mp hcount)

/-- A lookup of an entry whose mutex is free finds it. -/
theorem exec_getIfaceDataLocked {ω : (machine t).Oracle} {k i : ℕ}
    (hω : ω k (.psmGet psmPppManagerPppIfCount) = true) (hi : i < pppTableLength)
    (hcount : i < s.pppIfCount.toNat) (hfree : ∀ t' ∈ s.locks i, t' = t) :
  (machine t).exec ω (getIfaceDataLocked (i + 1)) k s =
    .ok (some i, s.setLock i (t :: s.locks i), k + 2)
  := by
  rw [getIfaceDataLocked, if_neg (Nat.succ_ne_zero i), Machine.exec_bind,
    exec_dmlGetTotalNoOfPPPInterfaces, if_pos hω]
  dsimp only [Except.bind]
  rw [if_neg (Nat.not_lt.mpr hcount), Nat.add_sub_cancel, Machine.exec_bind, exec_lock hi hfree]
  rfl

/-- A lookup finds no entry where the number of interfaces cannot be read, or is too small. -/
theorem exec_getIfaceDataLocked_none {ω : (machine t).Oracle} {k i : ℕ}
    (h : ω k (.psmGet psmPppManagerPppIfCount) = false ∨ s.pppIfCount.toNat < i + 1) :
  (machine t).exec ω (getIfaceDataLocked (i + 1)) k s = .ok (none, s, k + 1)
  := by
  rw [getIfaceDataLocked, if_neg (Nat.succ_ne_zero i), Machine.exec_bind,
    exec_dmlGetTotalNoOfPPPInterfaces]
  dsimp only [Except.bind]
  rw [if_pos]
  · rfl
  · split_ifs with hω
    · apply h.resolve_left
      rw [hω]
      nofun
    · apply Nat.succ_pos i

/-- The body of a search for a pid, at an entry that is found. -/
theorem exec_pidFound {ω : (machine t).Oracle} {k i : ℕ} {pid : ℤ} {α : Type}
    {g : DmlPppIfFull → α} {f : Code α} (hi : i < pppTableLength) (hlock : s.locks i = []) :
  (machine t).exec ω (do
      let pEntry ← load i
      if pEntry.info.pppPid = pid then
        getIfaceDataRelease i
        pure (g pEntry)
      else
        getIfaceDataRelease i
        f) k (s.setLock i [t]) =
    if (s.table i).info.pppPid = pid then .ok (g (s.table i), s, k + 2)
    else (machine t).exec ω f (k + 2) s
  := by
  have hheld : (s.setLock i [t]).locks i = [t] := by
    rw [Sys.setLock_locks, Function.update_self]
  have hback : (s.setLock i [t]).setLock i [] = s := by
    rw [Sys.setLock_setLock, Sys.setLock_self _ _ hlock]
  rw [Machine.exec_bind, exec_load hi]
  dsimp only [Except.bind]
  rw [Sys.setLock_table]
  split_ifs
  · rw [getIfaceDataRelease, Machine.exec_bind, exec_unlock hheld, hback]
    rfl
  · rw [getIfaceDataRelease, Machine.exec_bind, exec_unlock hheld, hback]
    rfl

theorem wp_getIfaceDataRelease {i : ℕ} {l : List Thread} {Q : Unit → Sys → Prop}
    (hlock : s.locks i = t :: l) (hQ : Q () (s.setLock i l)) :
  (contract t A F).wp (getIfaceDataRelease i) Q s
  := by
  rw [getIfaceDataRelease, wp_unlock]
  intro owners' h
  obtain ⟨-, rfl⟩ := List.cons.inj (hlock.symm.trans h)
  apply hQ

/-- A program between taking a mutex and giving it back. -/
theorem wp_bracket {α : Type} {i : ℕ} {p : Code α} {Q : α → Sys → Prop}
    (h : (contract t A F).wp p
      (fun r s' => ∃ s'', s' = s''.setLock i (t :: s.locks i) ∧ s''.locks i = s.locks i ∧ Q r s'')
      (s.setLock i (t :: s.locks i))) :
  (contract t A F).wp (do lock i; let r ← p; unlock i; pure r) Q s
  := by
  rw [Contract.wp_bind, wp_lock]
  intro _ _
  rw [Contract.wp_bind]
  apply Contract.wp_mono _ h
  rintro r s' ⟨s'', rfl, hlocks, hQ⟩
  rw [Contract.wp_bind]
  apply wp_getIfaceDataRelease (l := s.locks i)
  · simp
  · rw [Sys.setLock_setLock, Sys.setLock_self _ _ hlocks]
    apply hQ

/-! ### Starting a client -/

/-- The listing of processes an answer gives has the pid in a line. -/
def psLists (pid : ℤ) : Option CStr → Bool
  | none => false
  | some text => (fgets 64 text).any (fun line => toInt (strtoul line) = pid)

/-- The pid a lookup of `PppMgr_getPppPid(NULL)` finds in an answer. -/
def lookupPppd : Option (List ProcDirent) → ℤ
  | none => 0
  | some dents => checkProcEntries "pppd".toList none '\x00' dents

theorem wp_checkPidExist {pid : ℤ} {Q : AnscStatus → Sys → Prop}
    (hzero : pid = 0 → Q .failure s)
    (hps : ∀ r, pid ≠ 0 → A (.popen psPppd) r → Q (if psLists pid r then .success else .failure) s) :
  (contract t A F).wp (checkPidExist pid) Q s
  := by
  rw [checkPidExist]
  split_ifs with h
  · apply hzero h
  · rw [Contract.wp_bind, wp_popen]
    intro r hr
    have hQ := hps r h hr
    cases r with
    | none => apply hQ
    | some text =>
        rw [psLists] at hQ
        dsimp only
        split_ifs at hQ ⊢ with hany
        · apply hQ
        · apply hQ

theorem wp_checkProcEntryForPid {Q : ℤ → Sys → Prop}
    (hQ : ∀ r, A .readProc r → Q (lookupPppd r) s) :
  (contract t A F).wp (checkProcEntryForPid "pppd".toList none) Q s
  := by
  rw [checkProcEntryForPid, Contract.wp_bind, wp_readProc]
  intro r hr
  cases r with
  | none => apply hQ none hr
  | some dents => apply hQ (some dents) hr

/-- `PppMgr_getPppPid(NULL)` gives what one of its lookups finds. -/
theorem wp_getPppPid {Q : ℤ → Sys → Prop} (hQ : ∀ r, A .readProc r → Q (lookupPppd r) s) :
  (contract t A F).wp (getPppPid none) Q s
  := by
  rw [getPppPid]
  induction getPppIdAttempt with
  | zero =>
      rw [getPppPidLoop, Contract.wp_bind]
      apply wp_checkProcEntryForPid
      intro r hr
      split_ifs with h
      · apply hQ r hr
      · have h0 := hQ r hr
        rw [not_not.mp h] at h0
        apply h0
  | succ k ih =>
      rw [getPppPidLoop, Contract.wp_bind]
      apply wp_checkProcEntryForPid
      intro r hr
      split_ifs
      · apply hQ r hr
      · apply ih

/-- The command starts a client. -/
def startsClient (command : CStr) : Bool :=
  command = pppoeStart || "pppd nodetach ".toList.isPrefixOf command

/-- The link type of the entry has a start command. -/
def DmlPppIfFull.hasLink (e : DmlPppIfFull) : Bool :=
  e.cfg.linkType = .pppoa || e.cfg.linkType = .pppoe

/-- The commands of `system` on a buffer of 1024 bytes. -/
def ifFits (text : CStr) : List CStr :=
  if text ≠ [] ∧ text.length ≤ 1024 then [text.take 1023] else []

/-- The command fits the buffer it is written to. -/
theorem length_pppoeConfigCommand {vlan : CStr} {e : DmlPppIfFull} (hvlan : vlan.length < 32)
    (hname : e.info.name.length < 64) (hu : e.cfg.username.length < 65)
    (hp : e.cfg.password.length < 65) :
  (pppoeConfigCommand vlan e).length ≤ 1023
  := by
  have hecho := length_dec_toLong e.info.lcpEcho
  have hretry := length_dec_toLong e.info.lcpEchoRetry
  have hmru : (dec e.cfg.maxMRUSize.toNat).length ≤ 20 := by
    have hlt := e.cfg.maxMRUSize.isLt
    apply length_dec_le (k := 19) (by decide)
    omega
  have hformat : "pppoe_config.sh '%s' '%s' %s %s PPPoE %ld %ld %d ".toList.length ≤ 60 := by
    decide
  apply Nat.le_trans (length_printf_le _ _)
  simp only [List.map_cons, List.map_nil, List.sum_cons, List.sum_nil, Arg.text_str, Arg.text_int]
  omega

/-- The name of the parameter that holds the name of the VLAN interface below the entry. -/
def DmlPppIfFull.vlanParamName (e : DmlPppIfFull) : CStr :=
  snprintf 256 "%s.%s".toList [.str e.cfg.lowerLayers, .str "Name".toList]

/-- The commands that configure the client of the entry `e`, and the one that starts it. -/
inductive Configures (A : (o : Op) → o.Ans → Prop) (b : Build) (e : DmlPppIfFull) :
    List CStr → CStr → Prop
  | noLink (hlink : e.hasLink = false) : Configures A b e [] []
  | daemon (lib service : CStr) (hdaemon : b.usePppDaemon = true) (hlink : e.hasLink = true) :
      Configures A b e [] (pppdCommand lib service e)
  | pppoa (hdaemon : b.usePppDaemon = false) (hlink : e.cfg.linkType = .pppoa) :
      Configures A b e (ifFits (pppoaConfigCommand e)) pppoeStart
  | pppoe (r : Option CStr) (padt : List CStr) (hdaemon : b.usePppDaemon = false)
      (hlink : e.cfg.linkType = .pppoe)
      (hr : A (.busGet wanComponentName wanDbusPath e.vlanParamName) (some r))
      (hpadt : ∀ c ∈ padt, ∃ mac, c = (padtCommand (r.getD []) mac e).take 1023) :
      Configures A b e (ifFits (pppoeConfigCommand (r.getD []) e) ++ padt) pppoeStart

/-- A credential of an entry has been kept, or read with as many characters as are copied of it. -/
def ReadAnew (old new : CStr) : Prop :=
  new = old ∨ new.length ≤ 64

/-- A start has changed the entry `e` to `e'` before it looks at the parameters: the pid is cleared,
and the credentials have been read anew, unless they come from the database. -/
def Attempted (b : Build) (e e' : DmlPppIfFull) : Prop :=
  ∃ u p, ((b.pppUsernamePasswordFromPsm = true → u = e.cfg.username ∧ p = e.cfg.password) ∧
      ReadAnew e.cfg.username u ∧ ReadAnew e.cfg.password p) ∧
    e' = ((e.setPppPid 0).setUsername u).setPassword p

/-- No client runs for the entry, as far as `PppMgr_checkPidExist` sees. -/
def SeenStopped (A : (o : Op) → o.Ans → Prop) (e : DmlPppIfFull) : Prop :=
  e.info.pppPid = 0 ∨ ∃ r, A (.popen psPppd) r ∧ psLists e.info.pppPid r = false

/-- The ways a call of `PppMgr_StartPppClient` ends. -/
inductive StartEnds (A : (o : Op) → o.Ans → Prop) (b : Build) (s : Sys) (n : ℕ) : AnscStatus → Sys → Prop
  | noWanIface : StartEnds A b s n .failure s
  | alreadyRunning (i : ℕ) (r : Option CStr) (hn : n = i + 1) (hi : i < pppTableLength)
      (hpid : (s.table i).info.pppPid ≠ 0) (hr : A (.popen psPppd) r)
      (hps : psLists (s.table i).info.pppPid r = true) :
      StartEnds A b s n .success s
  | rejected (i : ℕ) (e : DmlPppIfFull) (hn : n = i + 1) (hi : i < pppTableLength)
      (hstopped : SeenStopped A (s.table i)) (he : Attempted b (s.table i) e) :
      StartEnds A b s n .failure (s.setEntry i e)
  | launched (i : ℕ) (e : DmlPppIfFull) (cs : List CStr) (command : CStr)
      (r : Option (List ProcDirent)) (w v : ℤ) (hn : n = i + 1) (hi : i < pppTableLength)
      (hstopped : SeenStopped A (s.table i)) (he : Attempted b (s.table i) e)
      (hparams : e.hasPppParams) (hconf : Configures A b e cs command)
      (hr : A .readProc r) :
      StartEnds A b s n .success
        ((s.setEntry i ((e.setPppPid (lookupPppd r)).setWanInstance w v)).systems
          (cs ++ [command]))

theorem wp_systemIfFits {text : CStr} {Q : Unit → Sys → Prop} (hQ : Q () (s.systems (ifFits text))) :
  (contract t A F).wp (systemIfFits text) Q s
  := by
  rw [systemIfFits]
  rw [ifFits] at hQ
  split_ifs at hQ ⊢
  · rw [wp_system]
    apply hQ
  · rw [Sys.systems_nil] at hQ
    apply hQ

theorem wp_dmlPppMgrGetParamValues {component bus name pReturnVal : CStr} {size : ℕ}
    {Q : Option CStr → Sys → Prop} (hnone : Q none s)
    (hsome : ∀ r, A (.busGet component bus name) (some r) → Q (some (r.getD pReturnVal)) s) :
  (contract t A F).wp (dmlPppMgrGetParamValues component bus name size pReturnVal) Q s
  := by
  rw [dmlPppMgrGetParamValues, Contract.wp_bind, wp_busGet]
  rintro (_ | _ | v) hr
  · apply hnone
  · apply hsome none hr
  · dsimp only
    split_ifs
    · apply hsome (some v) hr
    · apply wp_undefined

theorem wp_sendPadt {vlan : CStr} {e : DmlPppIfFull} {Q : Unit → Sys → Prop}
    (hQ : ∀ padt, (∀ c ∈ padt, ∃ mac, c = (padtCommand vlan mac e).take 1023) →
      Q () (s.systems padt)) :
  (contract t A F).wp (sendPadt vlan e) Q s
  := by
  rw [sendPadt, Contract.wp_bind, wp_readFile]
  rintro (_ | text) _
  · have h := hQ [] (fun c hc => absurd hc List.not_mem_nil)
    rw [Sys.systems_nil] at h
    apply h
  · dsimp only
    split_ifs
    · apply wp_systemIfFits
      apply hQ
      intro c hc
      use (sscanfS text).getD []
      rw [ifFits] at hc
      split_ifs at hc
      · apply List.mem_singleton.mp hc
      · cases hc
    · apply wp_undefined

theorem startsClient_pppdCommand (lib service : CStr) (e : DmlPppIfFull) :
  startsClient (pppdCommand lib service e) = true
  := by
  rw [startsClient]
  apply Bool.or_eq_true_iff.mpr
  right
  rfl

theorem startsClient_pppoeStart :
  startsClient pppoeStart = true
  := by
  decide

theorem startsClient_nil :
  startsClient [] = false
  := by
  decide

/-- Configuring the client gives a start command exactly for the link types that have one. -/
theorem Configures.startsClient {b : Build} {e : DmlPppIfFull} {cs : List CStr} {command : CStr}
    (h : Configures A b e cs command) :
  PppManager.startsClient command = e.hasLink
  := by
  cases h with
  | noLink hlink => rw [startsClient_nil, hlink]
  | daemon lib service hdaemon hlink => rw [startsClient_pppdCommand, hlink]
  | pppoa hdaemon hlink =>
      rw [startsClient_pppoeStart, DmlPppIfFull.hasLink, hlink]
      rfl
  | pppoe r padt hdaemon hlink =>
      rw [startsClient_pppoeStart, DmlPppIfFull.hasLink, hlink]
      rfl

/-- Configuring the client only runs commands. -/
theorem wp_configureClient {b : Build} {e : DmlPppIfFull} {Q : Option CStr → Sys → Prop}
    (hnone : Q none s)
    (hsome : ∀ cs command, Configures A b e cs command → Q (some command) (s.systems cs)) :
  (contract t A F).wp (configureClient b e) Q s
  := by
  have hpure : ∀ command, Configures A b e [] command → Q (some command) s := by
    intro command h
    have hQ := hsome [] command h
    rw [Sys.systems_nil] at hQ
    apply hQ
  rw [configureClient]
  cases hlink : e.cfg.linkType with
  | unset => apply hpure [] (.noLink (by rw [DmlPppIfFull.hasLink, hlink]; rfl))
  | other v => apply hpure [] (.noLink (by rw [DmlPppIfFull.hasLink, hlink]; rfl))
  | pppoa =>
      dsimp only
      split_ifs with hdaemon
      · apply hpure
        apply Configures.daemon _ _ hdaemon
        rw [DmlPppIfFull.hasLink, hlink]
        rfl
      · rw [Contract.wp_bind]
        apply wp_systemIfFits
        apply hsome
        apply Configures.pppoa (Bool.of_not_eq_true hdaemon) hlink
  | pppoe =>
      dsimp only
      split_ifs with hdaemon
      · apply hpure
        apply Configures.daemon _ _ hdaemon
        rw [DmlPppIfFull.hasLink, hlink]
        rfl
      · rw [Contract.wp_bind]
        apply wp_dmlPppMgrGetParamValues
        · apply hnone
        · intro r hr
          dsimp only
          rw [Contract.wp_bind]
          apply wp_systemIfFits
          rw [Contract.wp_bind]
          apply wp_sendPadt
          intro padt hpadt
          rw [Sys.systems_systems]
          apply hsome
          apply Configures.pppoe r padt (Bool.of_not_eq_true hdaemon) hlink hr hpadt

/-- Reading the credentials from the HAL writes nothing else. -/
theorem wp_getCredentialsFromHal {i : ℕ} {Q : Unit → Sys → Prop}
    (hQ : ∀ u p, ReadAnew (s.table i).cfg.username u → ReadAnew (s.table i).cfg.password p →
      Q () (s.setEntry i (((s.table i).setUsername u).setPassword p))) :
  (contract t A F).wp (getCredentialsFromHal i) Q s
  := by
  have hget : ∀ s', (∀ p, ReadAnew (s'.table i).cfg.password p →
        Q () (s'.setEntry i ((s'.table i).setPassword p))) →
      (contract t A F).wp (do
        match ← halGetPppPassword with
        | none => pure ()
        | some v => store i (·.setPassword (v.take 64))) Q s' := by
    intro s' h
    rw [Contract.wp_bind, wp_halGetPppPassword]
    rintro (_ | v) _
    · have h' := h (s'.table i).cfg.password (.inl rfl)
      rw [Sys.setEntry_self] at h'
      · apply h'
      · rfl
    · rw [wp_store]
      intro _
      apply h _ (.inr (List.length_take_le 64 v))
  rw [getCredentialsFromHal, Contract.wp_bind, wp_halGetPppUserName]
  rintro (_ | v) _
  · apply hget
    intro p hp
    apply hQ (s.table i).cfg.username p (.inl rfl) hp
  · rw [Contract.wp_bind, wp_store]
    intro _
    apply hget
    intro p hp
    simp only [Sys.setEntry_setEntry, Sys.setEntry_table, Function.update_self] at hp ⊢
    apply hQ _ _ (.inr (List.length_take_le 64 v)) hp

/-- The end of `PppMgr_StartPppClient`, after the start command. -/
def recordClient (i : ℕ) (wanIfaceInstance wanVirtIfaceInstance : ℤ) : Code AnscStatus := do
  let pid ← getPppPid none
  store i (·.setPppPid pid)
  store i (·.setWanInstance wanIfaceInstance wanVirtIfaceInstance)
  getIfaceDataRelease i
  pure .success

/-- The part of `PppMgr_StartPppClient` after the credentials are read. -/
def launchConfigured (b : Build) (i : ℕ) (wanIfaceInstance wanVirtIfaceInstance : ℤ) :
    Code AnscStatus := do
  let pEntry ← load i
  if pEntry.hasPppParams then
    match ← configureClient b pEntry with
    | none =>
      getIfaceDataRelease i
      pure .failure
    | some command =>
      system command
      recordClient i wanIfaceInstance wanVirtIfaceInstance
  else
    getIfaceDataRelease i
    pure .failure

theorem launchPppClient_eq (b : Build) (i : ℕ) (w v : ℤ) :
  launchPppClient b i w v = (do
    store i (·.setPppPid 0)
    if b.pppUsernamePasswordFromPsm then pure () else getCredentialsFromHal i
    launchConfigured b i w v)
  := rfl

/-- The part of `PppMgr_StartPppClient` after the check that no client is running. -/
theorem wp_launchPppClient {b : Build} {i : ℕ} {w v : ℤ} {l : List Thread}
    {Q : AnscStatus → Sys → Prop} (hlock : s.locks i = t :: l)
    (hrejected : ∀ e, Attempted b (s.table i) e → Q .failure ((s.setEntry i e).setLock i l))
    (hlaunched : ∀ e cs command r, Attempted b (s.table i) e → e.hasPppParams →
      Configures A b e cs command → A .readProc r →
      Q .success (((s.setEntry i ((e.setPppPid (lookupPppd r)).setWanInstance w v)).systems
        (cs ++ [command])).setLock i l)) :
  (contract t A F).wp (launchPppClient b i w v) Q s
  := by
  have hrest : ∀ e, Attempted b (s.table i) e →
      (contract t A F).wp (launchConfigured b i w v) Q (s.setEntry i e) := by
    intro e he
    rw [launchConfigured, Contract.wp_bind, wp_load]
    intro _
    simp only [Sys.setEntry_table, Function.update_self]
    split_ifs with hparams
    · rw [Contract.wp_bind]
      apply wp_configureClient
      · rw [Contract.wp_bind]
        apply wp_getIfaceDataRelease (l := l)
        · apply hlock
        · apply hrejected e he
      · intro cs command hconf
        rw [Contract.wp_bind, wp_system, recordClient, Contract.wp_bind]
        apply wp_getPppPid
        intro r hr
        rw [Contract.wp_bind, wp_store]
        intro _
        rw [Contract.wp_bind, wp_store]
        intro _
        rw [Contract.wp_bind]
        apply wp_getIfaceDataRelease (l := l)
        · apply hlock
        · have hQ := hlaunched e cs command r he hparams hconf hr
          simpa [Sys.emit_system] using hQ
    · rw [Contract.wp_bind]
      apply wp_getIfaceDataRelease (l := l)
      · apply hlock
      · apply hrejected e he
  rw [launchPppClient_eq, Contract.wp_bind, wp_store]
  intro _
  split_ifs with hfromPsm
  · apply hrest
    use (s.table i).cfg.username, (s.table i).cfg.password
    exact ⟨⟨fun _ => ⟨rfl, rfl⟩, .inl rfl, .inl rfl⟩, rfl⟩
  · rw [Contract.wp_bind]
    apply wp_getCredentialsFromHal
    intro u p hu hp
    simp only [Sys.setEntry_setEntry, Sys.setEntry_table, Function.update_self] at hu hp ⊢
    apply hrest
    use u, p
    exact ⟨⟨fun h => absurd h hfromPsm, hu, hp⟩, rfl⟩

/-- The instances of the WAN manager in an entry. -/
def DmlPppIfFull.wanPair (e : DmlPppIfFull) : ℤ × ℤ :=
  (e.cfg.wanInstanceNumber, e.cfg.wanVirtIfaceInstance)

/-- What a start with the instances `w` and `v` of the WAN manager does to the instances in the
entries: it writes them to the entry of the instance `n` if it starts a client, and none if it fails
or finds the client running. -/
inductive Recorded (A : (o : Op) → o.Ans → Prop) (s : Sys) (n : ℕ) (w v : ℤ) :
    AnscStatus → Sys → Prop
  | failed {s' : Sys} (hkept : ∀ i, (s'.table i).wanPair = (s.table i).wanPair) :
      Recorded A s n w v .failure s'
  | running (i : ℕ) (r : Option CStr) (hn : n = i + 1) (hcount : n ≤ s.pppIfCount.toNat)
      (hw : w ≠ -1) (hpid : (s.table i).info.pppPid ≠ 0) (hr : A (.popen psPppd) r)
      (hps : psLists (s.table i).info.pppPid r = true) : Recorded A s n w v .success s
  | recorded (i : ℕ) {s' : Sys} (hn : n = i + 1) (hcount : n ≤ s.pppIfCount.toNat) (hw : w ≠ -1)
      (hpair : (s'.table i).wanPair = (w, v))
      (hkept : ∀ j, j ≠ i → (s'.table j).wanPair = (s.table j).wanPair) :
      Recorded A s n w v .success s'

/-- The part of `PppMgr_StartPppClient` after `PppMgr_GetWanIfaceInstance`. -/
def startFrom (b : Build) (instanceNumber : ℕ) (wanIfaceInstance wanVirtIfaceInstance : ℤ) :
    Code AnscStatus :=
  if wanIfaceInstance = -1 ∨ wanVirtIfaceInstance = -1 then
    pure .failure
  else do
    match ← getIfaceDataLocked instanceNumber with
    | none => undefined .nullDereference
    | some i =>
      let pEntry ← load i
      match ← checkPidExist pEntry.info.pppPid with
      | .success =>
        getIfaceDataRelease i
        pure .success
      | .failure => launchPppClient b i wanIfaceInstance wanVirtIfaceInstance

theorem startPppClient_eq (b : Build) (n : ℕ) :
  startPppClient b n = getWanIfaceInstance b n (-1, -1) >>= fun r => startFrom b n r.2.1 r.2.2
  := rfl

theorem Attempted.wanPair {b : Build} {e e' : DmlPppIfFull} (h : Attempted b e e') :
  e'.wanPair = e.wanPair
  := by
  obtain ⟨u, p, -, rfl⟩ := h
  rfl

/-- The rule of the part of `PppMgr_StartPppClient` after `PppMgr_GetWanIfaceInstance`. -/
theorem wp_startFrom {b : Build} {n : ℕ} {w v : ℤ} {Q : AnscStatus → Sys → Prop}
    (hQ : ∀ r s', StartEnds A b s n r s' → Recorded A s n w v r s' → Q r s') :
  (contract t A F).wp (startFrom b n w v) Q s
  := by
  rw [startFrom]
  split_ifs with hpair
  · apply hQ _ _ .noWanIface (.failed (fun _ => rfl))
  · rw [Contract.wp_bind]
    have hw : w ≠ -1 := fun h => hpair (.inl h)
    apply wp_getIfaceDataLocked
    · intro _
      apply wp_undefined
    · intro i hn hi hcount
      rw [Contract.wp_bind, wp_load]
      intro _
      rw [Contract.wp_bind]
      have hlaunch : SeenStopped A (s.table i) →
          (contract t A F).wp (launchPppClient b i w v) Q (s.setLock i (t :: s.locks i)) := by
        intro hstopped
        apply wp_launchPppClient (l := s.locks i)
        · simp
        · intro e he
          rw [Sys.setEntry_setLock, Sys.setLock_setLock, Sys.setLock_self _ _ (by simp)]
          apply hQ _ _ (.rejected i e hn hi hstopped he)
          apply Recorded.failed
          intro j
          rw [Sys.setEntry_table]
          by_cases hj : j = i
          · obtain rfl := hj
            rw [Function.update_self]
            apply he.wanPair
          · rw [Function.update_of_ne hj]
        · intro e cs command r he hparams hconf hr
          rw [Sys.setEntry_setLock, Sys.systems_setLock, Sys.setLock_setLock,
            Sys.setLock_self _ _ (by simp)]
          apply hQ _ _ (.launched i e cs command r w v hn hi hstopped he hparams hconf hr)
          apply Recorded.recorded i hn hcount hw
          · rw [Sys.systems_table, Sys.setEntry_table, Function.update_self]
            rfl
          · intro j hj
            rw [Sys.systems_table, Sys.setEntry_table, Function.update_of_ne hj]
      apply wp_checkPidExist
      · intro hpid
        apply hlaunch (.inl hpid)
      · intro r hpid hr
        cases hps : psLists (s.table i).info.pppPid r with
        | false =>
            rw [Sys.setLock_table, hps]
            apply hlaunch (.inr ⟨r, hr, hps⟩)
        | true =>
            rw [Sys.setLock_table, hps, if_pos rfl, Contract.wp_bind]
            apply wp_getIfaceDataRelease (l := s.locks i)
            · simp
            · rw [Sys.setLock_setLock, Sys.setLock_self _ _ rfl]
              apply hQ _ _ (.alreadyRunning i r hn hi hpid hr hps)
              apply Recorded.running i r hn hcount hw hpid hr hps

/-- The rule of `PppMgr_StartPppClient`. -/
theorem wp_startPppClient {b : Build} {n : ℕ} {Q : AnscStatus → Sys → Prop}
    (hQ : ∀ r s', StartEnds A b s n r s' → Q r s') :
  (contract t A F).wp (startPppClient b n) Q s
  := by
  rw [startPppClient_eq, Contract.wp_bind]
  apply wp_of_queries (reads_getWanIfaceInstance _ _ _)
  intro r
  apply wp_startFrom
  intro r s' h _
  apply hQ r s' h

end

end PppManager
