import PppManager.Effect.Runs
import PppManager.Manager.EventThread

/-!
# Turns

The manager works in turns: the data model sets `Enable` or `Reset`, a state message arrives, an
event is taken from the queue, or a client is started or stopped.  A turn is a call with the answers
of the outside to what it asks; `Turn.take` gives what the call returns and the state after it.

`CallEnds` lists the ways a call can end, and `EntryStep` what it can do to an entry of a table that
is numbered as `BackEndManagerInitialize` numbers it.
-/

namespace PppManager

open Effect CText

/-- What the outside answers: to every operation at every moment. -/
abbrev Answers : Type := ℕ → (o : Op) → o.Ans

/-- The calls that make up a run of the manager. -/
inductive Call where
  | enable (i : ℕ) (bValue : Bool)
  | reset (i : ℕ) (bValue : Bool)
  | message (m : IpcMsgPayload)
  | event
  | start (n : ℕ)
  | stop (n : ℕ)

/-- The thread that makes a call. -/
def Call.thread : Call → Thread
  | .enable _ _ => .dataModel
  | .reset _ _ => .dataModel
  | _ => .event

/-- What a call runs, and whether it succeeds. -/
def Call.code (b : Build) : Call → Code Bool
  | .enable i bValue => interfaceSetParamBoolValue b i "Enable".toList bValue
  | .reset i bValue => interfaceSetParamBoolValue b i "Reset".toList bValue
  | .message m => (fun r => decide (r = AnscStatus.success)) <$> processPppState b m
  | .event => (fun _ => true) <$> handleQueue b
  | .start n => (fun r => decide (r = AnscStatus.success)) <$> startPppClient b n
  | .stop n => (fun r => decide (r = AnscStatus.success)) <$> stopPppClient b n

/-- A call with the answers of the outside. -/
structure Turn where
  call : Call
  answers : Answers

/-- What the call of a turn returns and the state after it, unless the run of the call stops. -/
def Turn.take (b : Build) (l : Turn) (s : Sys) : Option (Bool × Sys) :=
  match (machine l.call.thread).exec l.answers (l.call.code b) 0 s with
  | .ok (r, s', _) => some (r, s')
  | .error _ => none

/-- The state after a turn. -/
def Turn.next (b : Build) (l : Turn) (s : Sys) : Option Sys :=
  (l.take b s).map Prod.snd

/-- The answers of a turn are all in `A`. -/
def Turn.Allowed (A : (o : Op) → o.Ans → Prop) (l : Turn) : Prop :=
  ∀ t o, o.isAsked → A o (l.answers t o)

/-! ### How calls end -/

/-- The ways a call ends. -/
inductive CallEnds (A : (o : Op) → o.Ans → Prop) (b : Build) (s : Sys) : Call → Bool → Sys → Prop
  | enable {i : ℕ} {v r : Bool} {s' : Sys}
      (h : EnableEnds A b s (s.table i).cfg.instanceNumber v r s') :
      CallEnds A b s (.enable i v) r s'
  | resetIgnored {i : ℕ} {v : Bool} (h : ((s.table i).cfg.bEnabled && v) = false) :
      CallEnds A b s (.reset i v) false s
  | reset {i : ℕ} {v r : Bool} {s' : Sys} (henabled : ((s.table i).cfg.bEnabled && v) = true)
      (h : ResetEnds A b s (s.table i).cfg.instanceNumber r s') :
      CallEnds A b s (.reset i v) r s'
  | message {m : IpcMsgPayload} {r : AnscStatus} {s' : Sys} (h : PppStateEnds A b s m r s') :
      CallEnds A b s (.message m) (r = .success) s'
  | queueEmpty (h : s.queue = []) : CallEnds A b s .event true s
  | queueEvent {ev : PppEventQData} {evs : List PppEventQData} {r : AnscStatus} {s' : Sys}
      (hqueue : s.queue = ev :: evs) (h : EventEnds A b { s with queue := evs } ev r s') :
      CallEnds A b s .event true s'
  | start {n : ℕ} {r : AnscStatus} {s' : Sys} (h : StartEnds A b s n r s') :
      CallEnds A b s (.start n) (r = .success) s'
  | stop {n : ℕ} {r : AnscStatus} {s' : Sys} (h : StopEnds A b s n r s') :
      CallEnds A b s (.stop n) (r = .success) s'

/-- Every call ends in one of the ways listed. -/
theorem wp_call {A : (o : Op) → o.Ans → Prop} {b : Build} {s : Sys} {call : Call}
    {Q : Bool → Sys → Prop} (hQ : ∀ r s', CallEnds A b s call r s' → Q r s') :
  (contract call.thread A True).wp (call.code b) Q s
  := by
  cases call with
  | enable i v =>
      apply wp_setEnable (.inr trivial)
      intro r s' h
      apply hQ _ _ (.enable h)
  | reset i v =>
      apply wp_setReset (.inr trivial)
      · intro h
        apply hQ _ _ (.resetIgnored h)
      · intro r s' henabled h
        apply hQ _ _ (.reset henabled h)
  | message m =>
      rw [Call.code, Contract.wp_map]
      apply wp_processPppState
      · intro _ _
        apply Or.inr trivial
      · intro r s' h
        apply hQ _ _ (.message h)
  | event =>
      rw [Call.code, Contract.wp_map]
      apply wp_handleQueue
      · intro h
        apply hQ _ _ (.queueEmpty h)
      · intro ev evs r s' hqueue h
        apply hQ _ _ (.queueEvent hqueue h)
  | start n =>
      rw [Call.code, Contract.wp_map]
      apply wp_startPppClient
      intro r s' h
      apply hQ _ _ (.start h)
  | stop n =>
      rw [Call.code, Contract.wp_map]
      apply wp_stopPppClient (.inr trivial)
      intro r s' h
      apply hQ _ _ (.stop h)

/-- A turn whose answers are in `A` ends in one of the ways listed. -/
theorem Turn.ends {A : (o : Op) → o.Ans → Prop} {b : Build} {l : Turn} (hl : l.Allowed A)
    {s s' : Sys} {r : Bool} (h : l.take b s = some (r, s')) :
  CallEnds A b s l.call r s'
  := by
  rw [Turn.take] at h
  cases hexec : (machine l.call.thread).exec l.answers (l.call.code b) 0 s with
  | error e =>
      rw [hexec] at h
      cases h
  | ok r' =>
      obtain ⟨r', s₁, t⟩ := r'
      rw [hexec] at h
      obtain ⟨rfl, rfl⟩ := Prod.mk.inj (Option.some.inj h)
      have hresp : (contract l.call.thread A True).Respects l.answers := hl
      apply Contract.wp_exec_ok hresp (wp_call (fun _ _ h => h)) hexec

theorem Turn.next_ends {A : (o : Op) → o.Ans → Prop} {b : Build} {l : Turn} (hl : l.Allowed A)
    {s s' : Sys} (h : l.next b s = some s') :
  ∃ r, CallEnds A b s l.call r s'
  := by
  obtain ⟨⟨r, s₁⟩, htake, rfl⟩ := Option.map_eq_some_iff.mp h
  use r
  apply Turn.ends hl htake

/-- The outside may answer anything. -/
def Unrestricted : (o : Op) → o.Ans → Prop :=
  fun _ _ => True

theorem Turn.allowed_unrestricted (l : Turn) :
  l.Allowed Unrestricted
  := fun _ _ _ => trivial

/-- Every send to the queue succeeds. -/
def SendsSucceed : (o : Op) → o.Ans → Prop
  | .mqOpen, r => r = true
  | .mqSend _, r => r = true
  | _, _ => True

theorem not_canFail (ev : PppEventQData) :
  ¬ CanFail SendsSucceed ev
  := by
  rintro (h | h)
  · cases h
  · cases h

/-- A send that may only succeed does. -/
theorem eq_true_of_sends {r : Bool} {ev : PppEventQData}
    (h : r = false → CanFail SendsSucceed ev) :
  r = true
  := Bool.of_not_eq_false (fun hr => not_canFail ev (h hr))

/-! ### The numbers of the entries -/

/-- A setter is called with the handle of an entry the PSM count covers. -/
def Call.Handles (s : Sys) : Call → Prop
  | .enable i _ => i < s.pppIfCount.toNat
  | .reset i _ => i < s.pppIfCount.toNat
  | _ => True

/-- The call may start a client. -/
def Call.starts : Call → Bool
  | .event => true
  | .start _ => true
  | _ => false

/-- What a call can do to the entry `i`, where the PSM count covers `c` entries. -/
inductive EntryStep (b : Build) (c i : ℕ) (e : DmlPppIfFull) : Call → DmlPppIfFull → Prop
  | kept (call : Call) : EntryStep b c i e call e
  | enabled : EntryStep b c i e (.enable i true) (e.setBEnabled true)
  | disabled : EntryStep b c i e (.enable i false) (stoppedEntry b e)
  | resetStopped : EntryStep b c i e (.reset i true) (stoppedEntry b e)
  | restarted : EntryStep b c i e (.reset i true) ((stoppedEntry b e).setBEnabled true)
  | switched (m : IpcMsgPayload) (uptime : ULong) (id : Option ULong) (hi : i < c)
      (hpid : e.info.pppPid = m.pppEventMsg.pid) :
      EntryStep b c i e (.message m) (switchEntry m.pppEventMsg uptime id e)
  | addressed (m : IpcMsgPayload) (l g : AnscIpv4Address) (d : Fin 2 → AnscIpv4Address) :
      EntryStep b c i e (.message m) (addressed l g d e)
  | identified (m : IpcMsgPayload) (l g : CStr) : EntryStep b c i e (.message m) (identified l g e)
  | attempted (call : Call) (e' : DmlPppIfFull) (hcall : call.starts = true)
      (he : Attempted b e e') : EntryStep b c i e call e'
  | launched (call : Call) (e' : DmlPppIfFull) (pid w v : ℤ) (hcall : call.starts = true)
      (he : Attempted b e e') :
      EntryStep b c i e call ((e'.setPppPid pid).setWanInstance w v)
  | stopped : EntryStep b c i e (.stop (i + 1)) (stoppedEntry b e)

section

variable {A : (o : Op) → o.Ans → Prop} {b : Build} {s s' : Sys} {call : Call} {r : Bool}
  {c : ℕ}

/-- An entry of a table of which one entry is replaced. -/
theorem entryStep_update {j : ℕ} {e : DmlPppIfFull} (h : EntryStep b c j (s.table j) call e) (i : ℕ) :
  EntryStep b c i (s.table i) call (Function.update s.table j e i)
  := by
  by_cases hij : i = j
  · obtain rfl := hij
    rw [Function.update_self]
    apply h
  · rw [Function.update_of_ne hij]
    apply EntryStep.kept

theorem StopEnds.entryStep {n : ℕ} {q : AnscStatus} (h : StopEnds A b s n q s')
    (hstep : ∀ j, n = j + 1 → EntryStep b c j (s.table j) call (stoppedEntry b (s.table j))) (i : ℕ) :
  EntryStep b c i (s.table i) call (s'.table i)
  := by
  cases h with
  | noEntry => apply EntryStep.kept
  | stopped j r₁ r₂ r₃ hn =>
      simp only [stoppedState, Sys.sent_table, Sys.emit_table, Sys.setEntry_table]
      apply entryStep_update (hstep j hn)

theorem StartEnds.entryStep {n : ℕ} {q : AnscStatus} (hcall : call.starts = true)
    (h : StartEnds A b s n q s') (i : ℕ) :
  EntryStep b c i (s.table i) call (s'.table i)
  := by
  cases h with
  | noWanIface => apply EntryStep.kept
  | alreadyRunning => apply EntryStep.kept
  | rejected j e hn hj hstopped he =>
      rw [Sys.setEntry_table]
      apply entryStep_update (.attempted _ e hcall he)
  | launched j e cs command q w v hn hj hstopped he =>
      rw [Sys.systems_table, Sys.setEntry_table]
      apply entryStep_update (.launched _ e _ w v hcall he)

/-- The index a state message is handed to is that of the entry it was found for. -/
theorem dispatch_index (hs : Numbered s) {i j : ℕ} (hi : i < s.pppIfCount.toNat)
    (h : (toInt (s.table i).cfg.instanceNumber).toNat = j + 1) :
  j = i
  := by
  rw [hs.toInt_instanceNumber hi, Int.toNat_natCast] at h
  omega

theorem PppStateEnds.entryStep {m : IpcMsgPayload} {q : AnscStatus} (hs : Numbered s)
    (h : PppStateEnds A b s m q s') (i : ℕ) :
  EntryStep b s.pppIfCount.toNat i (s.table i) (.message m) (s'.table i)
  := by
  cases h with
  | ignored => apply EntryStep.kept
  | dispatched k hk hcount hpid hfirst h =>
      cases h with
      | stateChanged hkind h =>
          cases h with
          | noEntry => apply EntryStep.kept
          | quiet j uptime id w hn =>
              obtain rfl := dispatch_index hs hcount hn
              rw [switchState_table]
              apply entryStep_update (.switched m uptime id hcount hpid)
          | refused j uptime id w v hn =>
              obtain rfl := dispatch_index hs hcount hn
              rw [switchState_table]
              apply entryStep_update (.switched m uptime id hcount hpid)
          | told j uptime id w v q hn =>
              obtain rfl := dispatch_index hs hcount hn
              rw [Sys.sent_table, Sys.post_table, switchState_table]
              apply entryStep_update (.switched m uptime id hcount hpid)
      | ipcp hkind h =>
          cases h with
          | noEntry => apply EntryStep.kept
          | down q =>
              rw [Sys.sent_table]
              apply EntryStep.kept
          | stored j v q r hn =>
              obtain rfl := dispatch_index hs hcount hn
              rw [Sys.sent_table, Sys.setEntry_table]
              apply entryStep_update (.addressed m _ _ _)
      | ipv6cp hkind h =>
          cases h with
          | badInstance => apply EntryStep.kept
          | noEntry => apply EntryStep.kept
          | completed j q hn =>
              obtain rfl := dispatch_index hs hcount hn
              rw [Sys.sent_table, Sys.emit_table, Sys.setEntry_table]
              apply entryStep_update (.identified m _ _)
          | down j q =>
              rw [Sys.sent_table, Sys.emit_table]
              apply EntryStep.kept
      | unknown => apply EntryStep.kept

theorem EventEnds.entryStep {ev : PppEventQData} {q : AnscStatus} (hcall : call.starts = true)
    (h : EventEnds A b s ev q s') (i : ℕ) :
  EntryStep b c i (s.table i) call (s'.table i)
  := by
  cases h with
  | invalid => apply EntryStep.kept
  | busSet =>
      rw [Sys.emit_table]
      apply EntryStep.kept
  | exec q s' hpos haction h => apply h.entryStep hcall

/-- What a call does to the entries of a numbered table. -/
theorem CallEnds.entryStep (hs : Numbered s) (hcall : call.Handles s)
    (h : CallEnds A b s call r s') (i : ℕ) :
  EntryStep b s.pppIfCount.toNat i (s.table i) call (s'.table i)
  := by
  cases h with
  | enable h =>
      rw [hs.instanceNumber _ hcall] at h
      cases h with
      | start h =>
          cases h with
          | noEntry => apply EntryStep.kept
          | refused => apply EntryStep.kept
          | posted j hn =>
              obtain rfl := Nat.succ_inj.mp hn
              rw [Sys.post_table, Sys.setEntry_table]
              apply entryStep_update .enabled
      | stop h =>
          apply h.entryStep
          intro j hn
          obtain rfl := Nat.succ_inj.mp hn
          apply EntryStep.disabled
  | resetIgnored => apply EntryStep.kept
  | @reset j v r s' henabled h =>
      rw [hs.instanceNumber _ hcall] at h
      obtain ⟨-, rfl⟩ := Bool.and_eq_true_iff.mp henabled
      have hstop : ∀ {s₁ q}, StopEnds A b s (j + 1) q s₁ →
          ∀ i, EntryStep b s.pppIfCount.toNat i (s.table i) (.reset j true) (s₁.table i) := by
        intro s₁ q h
        apply h.entryStep
        intro k hn
        obtain rfl := Nat.succ_inj.mp hn
        apply EntryStep.resetStopped
      cases h with
      | notStopped h => apply hstop h
      | stopped h h' =>
          cases h' with
          | noEntry => apply hstop h
          | refused => apply hstop h
          | posted k hn =>
              obtain rfl := Nat.succ_inj.mp hn
              rw [Sys.post_table, Sys.setEntry_table]
              by_cases hij : i = j
              · obtain rfl := hij
                rw [Function.update_self]
                cases h with
                | stopped k r₁ r₂ r₃ hk =>
                    obtain rfl := Nat.succ_inj.mp hk
                    simp only [stoppedState, Sys.sent_table, Sys.emit_table, Sys.setEntry_table,
                      Function.update_self]
                    apply EntryStep.restarted
              · rw [Function.update_of_ne hij]
                apply hstop h
  | message h => apply h.entryStep hs
  | queueEmpty => apply EntryStep.kept
  | queueEvent hqueue h => apply h.entryStep rfl
  | start h => apply h.entryStep rfl
  | stop h =>
      apply h.entryStep
      rintro j rfl
      apply EntryStep.stopped

/-- No call writes the instance number of an entry. -/
theorem EntryStep.instanceNumber {i : ℕ} {e e' : DmlPppIfFull} (h : EntryStep b c i e call e') :
  e'.cfg.instanceNumber = e.cfg.instanceNumber
  := by
  have hstopped : (stoppedEntry b e).cfg.instanceNumber = e.cfg.instanceNumber := by
    rw [stoppedEntry]
    split_ifs <;> rfl
  cases h with
  | disabled | resetStopped | restarted | stopped => apply hstopped
  | switched => apply switchEntry_instanceNumber
  | attempted _ e' _ he | launched _ e' pid w v _ he =>
      obtain ⟨u, p, -, rfl⟩ := he
      rfl
  | _ => rfl

theorem stoppedEntry_wanPair (b : Build) (e : DmlPppIfFull) :
  (stoppedEntry b e).wanPair = e.wanPair
  := by
  rw [stoppedEntry]
  split_ifs <;> rfl

/-- A call that starts no client keeps the pairs. -/
theorem EntryStep.wanPair {i : ℕ} {e e' : DmlPppIfFull} (hcall : call.starts = false)
    (h : EntryStep b c i e call e') :
  e'.wanPair = e.wanPair
  := by
  cases h with
  | disabled | resetStopped | restarted | stopped => apply stoppedEntry_wanPair
  | switched => apply switchEntry_wanPair
  | attempted _ _ hstarts | launched _ _ _ _ _ hstarts =>
      rw [hcall] at hstarts
      cases hstarts
  | _ => rfl

/-! ### The acts -/

namespace Sys

variable (P : Act → Prop)

/-- The acts of `s'` are those of `s` followed by acts that satisfy `P`. -/
def Extends (s s' : Sys) : Prop :=
  ∃ acts, s'.acts = s.acts ++ acts ∧ ∀ a ∈ acts, P a

variable {P}

theorem extends_self (s : Sys) :
  s.Extends P s
  := by
  use []
  rw [List.append_nil]
  exact ⟨rfl, fun a ha => nomatch ha⟩

theorem Extends.setEntry {s s' : Sys} {i : ℕ} {e : DmlPppIfFull} (h : s.Extends P s') :
  s.Extends P (s'.setEntry i e)
  := h

theorem Extends.emit {a : Act} (ha : P a) {s s' : Sys} (h : s.Extends P s') :
  s.Extends P (s'.emit a)
  := by
  obtain ⟨acts, hacts, hP⟩ := h
  use acts ++ [a]
  constructor
  · rw [Sys.emit_acts, hacts, List.append_assoc]
  · intro a' ha'
    rcases List.mem_append.mp ha' with h | h
    · apply hP a' h
    · rw [List.mem_singleton.mp h]
      apply ha

theorem Extends.systems {cs : List CStr} (hcs : ∀ c ∈ cs, P (.system c)) {s s' : Sys}
    (h : s.Extends P s') :
  s.Extends P (s'.systems cs)
  := by
  obtain ⟨acts, hacts, hP⟩ := h
  use acts ++ cs.map .system
  constructor
  · rw [Sys.systems_acts, hacts, List.append_assoc]
  · intro a ha
    rcases List.mem_append.mp ha with h | h
    · apply hP a h
    · obtain ⟨c, hc, rfl⟩ := List.mem_map.mp h
      apply hcs c hc

theorem Extends.trans {s s₁ s' : Sys} (h : s.Extends P s₁) (h' : s₁.Extends P s') :
  s.Extends P s'
  := by
  obtain ⟨acts, hacts, hP⟩ := h
  obtain ⟨acts', hacts', hP'⟩ := h'
  use acts ++ acts'
  constructor
  · rw [hacts', hacts, List.append_assoc]
  · intro a ha
    rcases List.mem_append.mp ha with h | h
    · apply hP a h
    · apply hP' a h

theorem Extends.sent {q : Bool} {ev : PppEventQData} (hev : P (.post ev)) {s s' : Sys}
    (h : s.Extends P s') :
  s.Extends P (s'.sent q ev)
  := by
  cases q with
  | false => apply h
  | true => apply h.emit hev

end Sys

/-! ### The database -/

theorem switchState_psm_of_ne (i : ℕ) (msg : IpcPppEventMsg) (uptime : ULong) (id : Option ULong)
    (w : Bool) {name : CStr} (hname : name ≠ psmPppSessionid) :
  (switchState i msg uptime id w s).psm name = s.psm name
  := by
  rw [switchState]
  cases msg.pppState with
  | interfaceUp =>
      cases w with
      | false => rfl
      | true => apply Function.update_of_ne hname
  | _ => rfl

theorem StopEnds.psm {n : ℕ} {q : AnscStatus} (h : StopEnds A b s n q s') :
  s'.psm = s.psm
  := by
  cases h with
  | noEntry => rfl
  | stopped => simp [stoppedState]

theorem EnqueueEnds.psm {n : ℕ} {q : AnscStatus} (h : EnqueueEnds A s n q s') :
  s'.psm = s.psm
  := by
  cases h <;> rfl

theorem StartEnds.psm {n : ℕ} {q : AnscStatus} (h : StartEnds A b s n q s') :
  s'.psm = s.psm
  := by
  cases h <;> rfl

theorem StartEnds.queue {n : ℕ} {q : AnscStatus} (h : StartEnds A b s n q s') :
  s'.queue = s.queue
  := by
  cases h <;> rfl

/-- Handling an event sends none. -/
theorem EventEnds.queue {ev : PppEventQData} {q : AnscStatus} (h : EventEnds A b s ev q s') :
  s'.queue = s.queue
  := by
  cases h with
  | invalid => rfl
  | busSet => rfl
  | exec q s' hpos haction h => apply h.queue

theorem PppStateEnds.psm_of_ne {m : IpcMsgPayload} {q : AnscStatus} (h : PppStateEnds A b s m q s')
    {name : CStr} (hname : name ≠ psmPppSessionid) :
  s'.psm name = s.psm name
  := by
  cases h with
  | ignored => rfl
  | dispatched k hk hcount hpid hfirst h =>
      cases h with
      | stateChanged hkind h =>
          cases h with
          | noEntry => rfl
          | told =>
              rw [Sys.sent_psm, Sys.post_psm]
              apply switchState_psm_of_ne _ _ _ _ _ hname
          | _ => apply switchState_psm_of_ne _ _ _ _ _ hname
      | ipcp hkind h => cases h <;> simp
      | ipv6cp hkind h => cases h <;> simp
      | unknown => rfl

/-- A call writes no record but that of the session id. -/
theorem CallEnds.psm_of_ne (h : CallEnds A b s call r s') {name : CStr}
    (hname : name ≠ psmPppSessionid) :
  s'.psm name = s.psm name
  := by
  cases h with
  | enable h =>
      cases h with
      | start h => rw [h.psm]
      | stop h => rw [h.psm]
  | resetIgnored => rfl
  | reset henabled h =>
      cases h with
      | notStopped h => rw [h.psm]
      | stopped h h' => rw [h'.psm, h.psm]
  | message h => apply h.psm_of_ne hname
  | queueEmpty => rfl
  | queueEvent hqueue h =>
      cases h with
      | invalid => rfl
      | busSet => rfl
      | exec q s' hpos haction h => rw [h.psm]
  | start h => rw [h.psm]
  | stop h => rw [h.psm]

theorem CallEnds.pppIfCount (h : CallEnds A b s call r s') :
  s'.pppIfCount = s.pppIfCount
  := by
  have hname : psmPppManagerPppIfCount ≠ psmPppSessionid := by
    decide
  rw [Sys.pppIfCount, Sys.pppIfCount, h.psm_of_ne hname]

/-- A numbered table stays numbered. -/
theorem CallEnds.numbered (hs : Numbered s) (hcall : call.Handles s) (h : CallEnds A b s call r s') :
  Numbered s'
  := by
  constructor
  · rw [h.pppIfCount]
    apply hs.count_le
  · intro i hi
    rw [h.pppIfCount] at hi
    rw [(h.entryStep hs hcall i).instanceNumber]
    apply hs.instanceNumber i hi

end

end PppManager
