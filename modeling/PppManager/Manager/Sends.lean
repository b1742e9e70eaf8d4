import PppManager.Manager.Turns

/-!
# What the calls send

The events that the handling of a state message, a stop, a start request and a reset put into the
queue.
-/

namespace PppManager

open Effect CText

/-- The event an act sends. -/
def Act.sent? : Act → Option PppEventQData
  | .post ev => some ev
  | _ => none

/-- The events a list of acts sends. -/
def events (acts : List Act) : List PppEventQData :=
  acts.filterMap Act.sent?

/-- The call that leads from `s` to `s'` sends the events `evs`. -/
structure Sends (evs : List PppEventQData) (s s' : Sys) : Prop where
  queue : s'.queue = s.queue ++ evs
  acts : events s'.acts = events s.acts ++ evs

/-- The event of an attempt to send it that succeeds as `r` says. -/
def ifSent (r : Bool) (ev : PppEventQData) : List PppEventQData :=
  if r then [ev] else []

section

variable {A : (o : Op) → o.Ans → Prop} {b : Build} {s s' : Sys} {evs : List PppEventQData}

theorem events_concat (acts : List Act) (a : Act) :
  events (acts ++ [a]) = events acts ++ a.sent?.toList
  := by
  rw [events, List.filterMap_append, events]
  congr 1

theorem sends_nil (hqueue : s'.queue = s.queue) (hacts : events s'.acts = events s.acts) :
  Sends [] s s'
  := by
  constructor
  · rw [hqueue, List.append_nil]
  · rw [hacts, List.append_nil]

theorem sends_self (s : Sys) :
  Sends [] s s
  := sends_nil rfl rfl

theorem Sends.setEntry {i : ℕ} {e : DmlPppIfFull} (h : Sends evs s s') :
  Sends evs s (s'.setEntry i e)
  := ⟨h.queue, h.acts⟩

theorem Sends.emit {a : Act} (ha : a.sent? = none) (h : Sends evs s s') :
  Sends evs s (s'.emit a)
  := by
  constructor
  · apply h.queue
  · rw [Sys.emit_acts, events_concat, ha, Option.toList_none, List.append_nil, h.acts]

theorem Sends.sent {r : Bool} {ev : PppEventQData} (h : Sends evs s s') :
  Sends (evs ++ ifSent r ev) s (s'.sent r ev)
  := by
  cases r with
  | false =>
      rw [ifSent, if_neg Bool.false_ne_true, List.append_nil]
      apply h
  | true =>
      constructor
      · rw [Sys.sent_queue, h.queue, List.append_assoc]
        rfl
      · rw [Sys.sent_acts, if_pos rfl, events_concat, h.acts, List.append_assoc]
        rfl

theorem Sends.post {ev : PppEventQData} (h : Sends evs s s') :
  Sends (evs ++ [ev]) s (s'.post ev)
  := h.sent (r := true)

theorem Sends.trans {s₁ : Sys} {evs' : List PppEventQData} (h : Sends evs s s₁)
    (h' : Sends evs' s₁ s') :
  Sends (evs ++ evs') s s'
  := by
  constructor
  · rw [h'.queue, h.queue, List.append_assoc]
  · rw [h'.acts, h.acts, List.append_assoc]

theorem Sends.systems {cs : List CStr} (h : Sends evs s s') :
  Sends evs s (s'.systems cs)
  where
    queue := h.queue
    acts := by
      have hnone : (cs.map Act.system).filterMap Act.sent? = [] := by
        rw [List.filterMap_map]
        apply List.filterMap_eq_nil_iff.mpr
        intro c _
        rfl
      rw [Sys.systems_acts, events, List.filterMap_append, hnone, List.append_nil, ← h.acts]
      rfl

/-- A start sends no event. -/
theorem StartEnds.sends {n : ℕ} {q : AnscStatus} (h : StartEnds A b s n q s') :
  Sends [] s s'
  := by
  cases h with
  | noWanIface => apply sends_self
  | alreadyRunning => apply sends_self
  | rejected => apply (sends_self s).setEntry
  | launched => apply (sends_self s).setEntry.systems

/-! ### Acts that are neither commands nor sets -/

/-- The act runs no command, kills no process and sets no parameter. -/
def Act.isPlain : Act → Bool
  | .system _ => false
  | .kill _ => false
  | .busSet _ _ _ _ => false
  | _ => true

section

variable {P : Act → Prop}

/-- A state message runs no command but the one that stops `rp-pppoe`, and kills nothing. -/
theorem PppStateEnds.extends (hP : ∀ a, a.isPlain = true → P a) (hstop : P (.system pppoeStop))
    {m : IpcMsgPayload} {q : AnscStatus} (h : PppStateEnds A b s m q s') :
  s.Extends P s'
  := by
  cases h with
  | ignored => apply Sys.extends_self
  | dispatched k hk hcount hpid hfirst h =>
      cases h with
      | stateChanged hkind h =>
          have hswitch : ∀ i uptime id w, s.Extends P
              (switchState i m.pppEventMsg uptime id w s) := by
            intro i uptime id w
            rw [switchState]
            cases m.pppEventMsg.pppState with
            | interfaceUp => cases w <;> apply Sys.extends_self
            | interfaceAuthFailed => apply Sys.Extends.emit hstop (Sys.extends_self s)
            | _ => apply Sys.extends_self
          cases h with
          | noEntry => apply Sys.extends_self
          | told i uptime id w v q =>
              apply Sys.Extends.sent (hP _ rfl)
              apply Sys.Extends.emit (hP _ rfl)
              apply hswitch i uptime id w
          | quiet i uptime id w | refused i uptime id w => apply hswitch
      | ipcp hkind h =>
          cases h with
          | noEntry => apply Sys.extends_self
          | down q =>
              apply Sys.Extends.sent (hP _ rfl)
              apply Sys.extends_self
          | stored =>
              apply Sys.Extends.sent (hP _ rfl)
              apply Sys.Extends.setEntry (Sys.extends_self s)
      | ipv6cp hkind h =>
          cases h with
          | badInstance | noEntry => apply Sys.extends_self
          | completed =>
              apply Sys.Extends.sent (hP _ rfl)
              apply Sys.Extends.emit (hP _ rfl)
              apply Sys.Extends.setEntry (Sys.extends_self s)
          | down =>
              apply Sys.Extends.sent (hP _ rfl)
              apply Sys.Extends.emit (hP _ rfl)
              apply Sys.extends_self
      | unknown => apply Sys.extends_self

/-- A stop runs no command but the one that stops `rp-pppoe`, and may kill the client. -/
theorem StopEnds.extends (hP : ∀ a, a.isPlain = true → P a) (hstop : ∀ e, P (stopAct b e)) {n : ℕ}
    {q : AnscStatus} (h : StopEnds A b s n q s') :
  s.Extends P s'
  := by
  cases h with
  | noEntry => apply Sys.extends_self
  | stopped i r₁ r₂ r₃ =>
      apply Sys.Extends.sent (hP _ rfl)
      apply Sys.Extends.sent (hP _ rfl)
      apply Sys.Extends.sent (hP _ rfl)
      apply Sys.Extends.emit (hstop _)
      apply Sys.Extends.setEntry (Sys.extends_self s)

theorem EnqueueEnds.extends (hP : ∀ a, a.isPlain = true → P a) {n : ℕ} {q : AnscStatus}
    (h : EnqueueEnds A s n q s') :
  s.Extends P s'
  := by
  cases h with
  | noEntry => apply Sys.extends_self
  | refused => apply Sys.extends_self
  | posted i =>
      apply Sys.Extends.emit (hP _ rfl)
      apply Sys.Extends.setEntry (Sys.extends_self s)

end

/-! ### State messages -/

/-- What a state message of the client of the instance `n` makes the manager send. -/
inductive MessageEvents (A : (o : Op) → o.Ans → Prop) (b : Build) (n : ℤ) :
    List PppEventQData → Prop
  | none : MessageEvents A b n []
  | lcp (p : PppState) (v : CStr) (hlink : linkStatus p = some v)
      (hfail : CanFail A (busSetEvent n (pppLinkStatusParamName b) v)) :
      MessageEvents A b n [busSetEvent n (pppLcpStatusParamName b) v]
  | link (p : PppState) (v : CStr) (hlink : linkStatus p = some v) : MessageEvents A b n
      [busSetEvent n (pppLcpStatusParamName b) v, busSetEvent n (pppLinkStatusParamName b) v]
  | ipcp (v : CStr) : MessageEvents A b n [ipcpEvent b n v]
  | ipv6cp (v : CStr) : MessageEvents A b n [ipv6cpEvent b n v]

theorem messageEvents_ipcp (r : Bool) (n : ℤ) (v : CStr) :
  MessageEvents A b n (ifSent r (ipcpEvent b n v))
  := by
  cases r with
  | false => apply MessageEvents.none
  | true => apply MessageEvents.ipcp

theorem messageEvents_ipv6cp (r : Bool) (n : ℤ) (v : CStr) :
  MessageEvents A b n (ifSent r (ipv6cpEvent b n v))
  := by
  cases r with
  | false => apply MessageEvents.none
  | true => apply MessageEvents.ipv6cp

theorem sends_switchState (i : ℕ) (msg : IpcPppEventMsg) (uptime : ULong) (id : Option ULong)
    (w : Bool) :
  Sends [] s (switchState i msg uptime id w s)
  := by
  rw [switchState]
  cases msg.pppState with
  | interfaceUp =>
      cases w with
      | false => apply (sends_self s).setEntry
      | true => exact sends_nil rfl rfl
  | interfaceAuthFailed => apply (sends_self s).setEntry.emit rfl
  | _ => apply (sends_self s).setEntry

/-- What the handler of a state message sends for the entry `k`. -/
theorem DispatchEnds.sends {m : IpcPppEventMsg} {k : ℕ} {q : AnscStatus} (hs : Numbered s)
    (hcount : k < s.pppIfCount.toNat)
    (h : DispatchEnds A b s (toInt (s.table k).cfg.instanceNumber) m q s') :
  ∃ evs, Sends evs s s' ∧ MessageEvents A b (k + 1 : ℕ) evs
  := by
  have hnumber := hs.toInt_instanceNumber hcount
  cases h with
  | stateChanged hkind h =>
      cases h with
      | noEntry => exact ⟨[], sends_self s, .none⟩
      | quiet | refused => exact ⟨[], sends_switchState _ _ _ _ _, .none⟩
      | told j uptime id w v r hn hj hlink hw hr =>
          obtain rfl := dispatch_index hs hcount hn
          refine ⟨_, (sends_switchState _ _ _ _ _).post.sent, ?_⟩
          rw [linkEvent, hnumber] at hr
          rw [lcpEvent, linkEvent, hnumber]
          cases r with
          | false => apply MessageEvents.lcp _ v hlink (hr rfl)
          | true => apply MessageEvents.link _ v hlink
  | ipcp hkind h =>
      cases h with
      | noEntry => exact ⟨[], sends_self s, .none⟩
      | down r =>
          rw [hnumber]
          exact ⟨_, (sends_self s).sent, messageEvents_ipcp r _ _⟩
      | stored j v r q hn =>
          obtain rfl := dispatch_index hs hcount hn
          rw [hnumber]
          exact ⟨_, (sends_self s).setEntry.sent, messageEvents_ipcp r _ _⟩
  | ipv6cp hkind h =>
      cases h with
      | badInstance => exact ⟨[], sends_self s, .none⟩
      | noEntry => exact ⟨[], sends_self s, .none⟩
      | completed j r hn =>
          obtain rfl := dispatch_index hs hcount hn
          rw [hnumber]
          exact ⟨_, ((sends_self s).setEntry.emit rfl).sent, messageEvents_ipv6cp r _ _⟩
      | down j r hn =>
          obtain rfl := dispatch_index hs hcount hn
          rw [hnumber]
          exact ⟨_, ((sends_self s).emit rfl).sent, messageEvents_ipv6cp r _ _⟩
  | unknown => exact ⟨[], sends_self s, .none⟩

/-- The events a state message makes the manager send are of the instance of an entry that has its
pid. -/
theorem PppStateEnds.sends {m : IpcMsgPayload} {q : AnscStatus} (hs : Numbered s)
    (h : PppStateEnds A b s m q s') :
  ∃ evs, Sends evs s s' ∧ (evs = [] ∨ ∃ i < s.pppIfCount.toNat,
    (s.table i).info.pppPid = m.pppEventMsg.pid ∧ MessageEvents A b (i + 1 : ℕ) evs)
  := by
  cases h with
  | ignored => exact ⟨[], sends_self s, .inl rfl⟩
  | dispatched k hk hcount hpid hfirst h =>
      obtain ⟨evs, hsends, hevs⟩ := h.sends hs hcount
      exact ⟨evs, hsends, .inr ⟨k, hcount, hpid, hevs⟩⟩

/-- An event of the instance `n` that sets a parameter. -/
structure SetsFor (n : ℤ) (ev : PppEventQData) : Prop where
  pppIfInstance : ev.pppIfInstance = n
  action : ev.action = .busSet
  hasPaths : ev.HasPaths

theorem setsFor_busSetEvent (n : ℤ) (keyPath v : CStr) :
  SetsFor n (busSetEvent n keyPath v)
  := ⟨rfl, rfl, nofun, nofun, nofun⟩

theorem mem_ifSent {r : Bool} {ev ev' : PppEventQData} (h : ev' ∈ ifSent r ev) :
  ev' = ev
  := by
  cases r with
  | false => cases h
  | true => apply List.mem_singleton.mp h

theorem MessageEvents.setsFor {n : ℤ} (h : MessageEvents A b n evs) :
  ∀ ev ∈ evs, SetsFor n ev
  := by
  intro ev hev
  cases h with
  | none => cases hev
  | link p v =>
      rcases List.mem_pair.mp hev with rfl | rfl <;> apply setsFor_busSetEvent
  | _ =>
      obtain rfl := List.mem_singleton.mp hev
      apply setsFor_busSetEvent

/-! ### Requests -/

/-- The events a stop of the instance `n` sends, where the sends succeed as `r₁`, `r₂` and `r₃`
say. -/
def stopEvents (b : Build) (n : ℤ) (r₁ r₂ r₃ : Bool) : List PppEventQData :=
  ifSent r₁ (busSetEvent n (pppLcpStatusParamName b) down) ++
    ifSent r₂ (busSetEvent n (pppIpcpStatusParamName b) down) ++
    ifSent r₃ (busSetEvent n (pppIpv6cpStatusParamName b) down)

theorem setsFor_stopEvents {n : ℤ} {r₁ r₂ r₃ : Bool} :
  ∀ ev ∈ stopEvents b n r₁ r₂ r₃, SetsFor n ev
  := by
  intro ev hev
  rcases List.mem_append.mp hev with hev | hev
  · rcases List.mem_append.mp hev with hev | hev
    · obtain rfl := mem_ifSent hev
      apply setsFor_busSetEvent
    · obtain rfl := mem_ifSent hev
      apply setsFor_busSetEvent
  · obtain rfl := mem_ifSent hev
    apply setsFor_busSetEvent

theorem sends_stoppedState (i n : ℕ) (r₁ r₂ r₃ : Bool) :
  Sends (stopEvents b (toInt n) r₁ r₂ r₃) s (stoppedState b i n r₁ r₂ r₃ s)
  := by
  have hact : (stopAct b (s.table i)).sent? = none := by
    rw [stopAct]
    split_ifs <;> rfl
  rw [stopEvents, stoppedState]
  apply Sends.sent
  apply Sends.sent
  exact ((sends_self s).setEntry.emit hact).sent

end

end PppManager
