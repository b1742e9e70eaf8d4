import PppManager.Manager.Outside

/-!
# Link events

What the manager tells the WAN manager of the status of a link is the last event it has sent with
the LCP status of the interface.  The manager tells it at every change of the status but those of an
interface that is connecting, authenticating or disconnecting, for which it has no up or down status
to tell (`lastLcp_agrees`).
-/

namespace PppManager

open Effect CText

/-- The LCP status of the instance `n` an act tells. -/
def lcpValue (b : Build) (n : ℤ) : Act → Option CStr
  | .post ev =>
    if ev.keyPath = some (pppLcpStatusParamName b) ∧ ev.pppIfInstance = n then some ev.val else none
  | _ => none

/-- The last LCP status of the instance `n` a list of acts tells. -/
def lastLcp (b : Build) (n : ℤ) (acts : List Act) : Option CStr :=
  acts.foldl (fun v a => (lcpValue b n a).or v) none

/-- The connection statuses of an interface that is on its way up or down. -/
def DmlPppConnStatus.isChanging : DmlPppConnStatus → Bool
  | .connecting => true
  | .authenticating => true
  | .disconnecting => true
  | _ => false

/-- The last LCP status told is up if the status is up, and is not if the status is neither up nor
changing. -/
structure Agree (x : DmlIfStatus × DmlPppConnStatus) (last : Option CStr) : Prop where
  up : x.1 = .up → last = some up
  down : x.1 ≠ .up → x.2.isChanging = false → last ≠ some PppManager.up

/-- `Status` and `ConnectionStatus` of an entry. -/
def DmlPppIfFull.statuses (e : DmlPppIfFull) : DmlIfStatus × DmlPppConnStatus :=
  (e.info.status, e.info.connectionStatus)

/-- What the WAN manager was told last agrees with the entry `i`. -/
def Told (b : Build) (i : ℕ) (s : Sys) : Prop :=
  Agree (s.table i).statuses (lastLcp b (i + 1 : ℕ) s.acts)

section

variable {b : Build} {n k : ℤ} {v : CStr} {s : Sys} {acts : List Act}

theorem lastLcp_concat (a : Act) :
  lastLcp b n (acts ++ [a]) = (lcpValue b n a).or (lastLcp b n acts)
  := by
  rw [lastLcp, List.foldl_append, List.foldl_cons, List.foldl_nil]
  rfl

theorem up_ne_down :
  up ≠ down
  := by
  decide

/-- The event that tells an LCP status. -/
theorem lastLcp_lcp (hv : v = up ∨ v = down) :
  lastLcp b n (acts ++ [.post (busSetEvent n (pppLcpStatusParamName b) v)]) = some v
  := by
  rw [lastLcp_concat, lcpValue, if_pos ⟨rfl, rfl⟩]
  rcases hv with rfl | rfl <;> rfl

/-- An event with another key. -/
theorem lastLcp_of_key {keyPath : CStr} (h : keyPath ≠ pppLcpStatusParamName b) :
  lastLcp b n (acts ++ [.post (busSetEvent k keyPath v)]) = lastLcp b n acts
  := by
  rw [lastLcp_concat, lcpValue, if_neg]
  · rfl
  · rintro ⟨hkey, -⟩
    apply h (Option.some.inj hkey)

/-- An event of another instance. -/
theorem lastLcp_of_instance {keyPath : CStr} (h : k ≠ n) :
  lastLcp b n (acts ++ [.post (busSetEvent k keyPath v)]) = lastLcp b n acts
  := by
  rw [lastLcp_concat, lcpValue, if_neg]
  · rfl
  · rintro ⟨-, hk⟩
    apply h hk

theorem pppIpcpStatusParamName_ne :
  pppIpcpStatusParamName b ≠ pppLcpStatusParamName b
  := by
  rw [pppIpcpStatusParamName, pppLcpStatusParamName]
  split_ifs
  · apply mt String.toList_injective
    decide +kernel
  · apply mt String.toList_injective
    decide +kernel

theorem pppIpv6cpStatusParamName_ne :
  pppIpv6cpStatusParamName b ≠ pppLcpStatusParamName b
  := by
  rw [pppIpv6cpStatusParamName, pppLcpStatusParamName]
  split_ifs
  · apply mt String.toList_injective
    decide +kernel
  · apply mt String.toList_injective
    decide +kernel

theorem pppIpcpStatusParamName_ne_link :
  pppIpcpStatusParamName b ≠ pppLinkStatusParamName b
  := by
  rw [pppIpcpStatusParamName, pppLinkStatusParamName]
  split_ifs
  · apply mt String.toList_injective
    decide +kernel
  · apply mt String.toList_injective
    decide +kernel

theorem pppIpv6cpStatusParamName_ne_link :
  pppIpv6cpStatusParamName b ≠ pppLinkStatusParamName b
  := by
  rw [pppIpv6cpStatusParamName, pppLinkStatusParamName]
  split_ifs
  · apply mt String.toList_injective
    decide +kernel
  · apply mt String.toList_injective
    decide +kernel

theorem pppIpcpStatusParamName_ne_ipv6cp :
  pppIpcpStatusParamName b ≠ pppIpv6cpStatusParamName b
  := by
  rw [pppIpcpStatusParamName, pppIpv6cpStatusParamName]
  split_ifs
  · apply mt String.toList_injective
    decide +kernel
  · apply mt String.toList_injective
    decide +kernel

theorem lastLcp_sent_of_key {keyPath : CStr} (h : keyPath ≠ pppLcpStatusParamName b) (r : Bool) :
  lastLcp b n (s.sent r (busSetEvent k keyPath v)).acts = lastLcp b n s.acts
  := by
  cases r with
  | false => rfl
  | true => apply lastLcp_of_key h

/-- The two events that tell a link status. -/
theorem lastLcp_link (hv : v = up ∨ v = down) :
  lastLcp b n (acts ++ [.post (busSetEvent n (pppLcpStatusParamName b) v)] ++
    [.post (busSetEvent n (pppLinkStatusParamName b) v)]) = some v
  := by
  by_cases hb : b.wanManagerUnificationEnabled
  · have hkey : pppLinkStatusParamName b = pppLcpStatusParamName b := by
      rw [pppLinkStatusParamName, pppLcpStatusParamName, if_pos hb, if_pos hb]
    rw [hkey]
    apply lastLcp_lcp hv
  · rw [lastLcp_of_key, lastLcp_lcp hv]
    rw [pppLinkStatusParamName, pppLcpStatusParamName, if_neg hb, if_neg hb]
    apply mt String.toList_injective
    decide +kernel

/-- The two events that tell a link status of another instance. -/
theorem lastLcp_link_of_instance (h : k ≠ n) :
  lastLcp b n (acts ++ [.post (busSetEvent k (pppLcpStatusParamName b) v)] ++
    [.post (busSetEvent k (pppLinkStatusParamName b) v)]) = lastLcp b n acts
  := by
  rw [lastLcp_of_instance h, lastLcp_of_instance h]

/-- A command tells nothing. -/
theorem lastLcp_system (c : CStr) :
  lastLcp b n (acts ++ [.system c]) = lastLcp b n acts
  := lastLcp_concat _

/-- The three events a stop sends. -/
theorem lastLcp_stop :
  lastLcp b n (acts ++ [.post (busSetEvent n (pppLcpStatusParamName b) down)] ++
    [.post (busSetEvent n (pppIpcpStatusParamName b) down)] ++
    [.post (busSetEvent n (pppIpv6cpStatusParamName b) down)]) = some down
  := by
  rw [lastLcp_of_key pppIpv6cpStatusParamName_ne, lastLcp_of_key pppIpcpStatusParamName_ne,
    lastLcp_lcp (.inr rfl)]

end

/-! ### Statuses -/

section

variable {x : DmlIfStatus × DmlPppConnStatus} {p : PppState} {v : CStr} {last : Option CStr}

/-- A state for which nothing is told leaves the status, or leaves one that is changing. -/
theorem Agree.quiet (h : Agree x last) (hp : linkStatus p = none) :
  Agree (statusAfter x p) last
  := by
  cases p with
  | lcpAuthCompleted => apply h
  | interfaceConnecting | interfaceAuthenticating | interfaceDisconnecting =>
      constructor
      · rintro ⟨⟩
      · rintro - ⟨⟩
  | _ => cases hp

theorem linkStatus_values (hp : linkStatus p = some v) :
  v = up ∨ v = down
  := by
  cases p <;> cases hp <;> first | exact .inl rfl | exact .inr rfl

/-- A state for which something is told leaves a status that agrees with it. -/
theorem agree_told (hp : linkStatus p = some v) :
  Agree (statusAfter x p) (some v)
  := by
  cases p with
  | interfaceUp =>
      obtain rfl := Option.some.inj hp
      constructor
      · intro _
        rfl
      · intro h
        apply absurd rfl h
  | interfaceConnecting | interfaceAuthenticating | interfaceDisconnecting | lcpAuthCompleted =>
      cases hp
  | _ =>
      obtain rfl := Option.some.inj hp
      constructor
      · rintro ⟨⟩
      · intro _ _ h
        apply up_ne_down (Option.some.inj h).symm

end

/-! ### Runs -/

section

variable {b : Build} {s s' : Sys} {i : ℕ}

/-- A step that leaves the statuses of the entry and what was told of it. -/
theorem Told.congr (h : Told b i s) (htable : (s'.table i).statuses = (s.table i).statuses)
    (hacts : lastLcp b (i + 1 : ℕ) s'.acts = lastLcp b (i + 1 : ℕ) s.acts) :
  Told b i s'
  := by
  rw [Told, htable, hacts]
  apply h

theorem stopAct_tells_nothing (e : DmlPppIfFull) (n : ℤ) (acts : List Act) :
  lastLcp b n (acts ++ [stopAct b e]) = lastLcp b n acts
  := by
  rw [stopAct]
  split_ifs <;> apply lastLcp_concat

theorem Told.stop {n : ℕ} {q : AnscStatus} (h : Told b i s)
    (hends : StopEnds SendsSucceed b s n q s') :
  Told b i s'
  := by
  cases hends with
  | noEntry => apply h
  | stopped j r₁ r₂ r₃ hn hj h₁ h₂ h₃ =>
      obtain rfl := hn
      obtain rfl := eq_true_of_sends h₁
      obtain rfl := eq_true_of_sends h₂
      obtain rfl := eq_true_of_sends h₃
      have hacts : (stoppedState b j (j + 1) true true true s).acts =
          s.acts ++ [stopAct b (s.table j)] ++
            [.post (busSetEvent (j + 1 : ℕ) (pppLcpStatusParamName b) down)] ++
            [.post (busSetEvent (j + 1 : ℕ) (pppIpcpStatusParamName b) down)] ++
            [.post (busSetEvent (j + 1 : ℕ) (pppIpv6cpStatusParamName b) down)] := by
        rw [← toInt_eq hj]
        rfl
      by_cases hij : i = j
      · obtain rfl := hij
        rw [Told, hacts, lastLcp_stop]
        have hentry : (stoppedState b i (i + 1) true true true s).table i =
            stoppedEntry b (s.table i) := Function.update_self _ _ _
        rw [hentry]
        constructor
        · rintro ⟨⟩
        · intro _ _ h
          apply up_ne_down (Option.some.inj h).symm
      · have hne : ((j + 1 : ℕ) : ℤ) ≠ (i + 1 : ℕ) := by
          omega
        apply h.congr
        · have hentry : (stoppedState b j (j + 1) true true true s).table i = s.table i :=
            Function.update_of_ne hij _ _
          rw [hentry]
        · rw [hacts, lastLcp_of_instance hne, lastLcp_of_instance hne, lastLcp_of_instance hne,
            stopAct_tells_nothing]

/-- The acts of the switch tell nothing. -/
theorem lastLcp_switchState (j : ℕ) (msg : IpcPppEventMsg) (uptime : ULong) (id : Option ULong)
    (w : Bool) (n : ℤ) :
  lastLcp b n (switchState j msg uptime id w s).acts = lastLcp b n s.acts
  := by
  rw [switchState]
  cases msg.pppState with
  | interfaceUp => cases w <;> rfl
  | interfaceAuthFailed => apply lastLcp_system
  | _ => rfl

theorem statuses_switchEntry (msg : IpcPppEventMsg) (uptime : ULong) (id : Option ULong)
    (e : DmlPppIfFull) :
  (switchEntry msg uptime id e).statuses = statusAfter e.statuses msg.pppState
  := switchEntry_status msg uptime id e

/-- A table of which one entry is replaced by one with the same statuses. -/
theorem statuses_update {j : ℕ} {e : DmlPppIfFull} (h : e.statuses = (s.table j).statuses) :
  (Function.update s.table j e i).statuses = (s.table i).statuses
  := by
  by_cases hij : i = j
  · obtain rfl := hij
    rw [Function.update_self, h]
  · rw [Function.update_of_ne hij]

theorem Told.message {m : IpcMsgPayload} {q : AnscStatus} (hs : Numbered s) (h : Told b i s)
    (hends : PppStateEnds SendsSucceed b s m q s') :
  Told b i s'
  := by
  cases hends with
  | ignored => apply h
  | dispatched k hk hcount hpid hfirst hends =>
      have hle := Nat.le_trans hcount hs.count_le
      have hnumber := hs.toInt_instanceNumber hcount
      cases hends with
      | stateChanged hkind hends =>
          cases hends with
          | noEntry => apply h
          | quiet j uptime id w hn hj hlink =>
              obtain rfl := dispatch_index hs hcount hn
              rw [Told, lastLcp_switchState, switchState_table]
              by_cases hij : i = j
              · obtain rfl := hij
                rw [Function.update_self, statuses_switchEntry]
                apply Agree.quiet h hlink
              · rw [Function.update_of_ne hij]
                apply h
          | refused j uptime id w v hn hj hlink hw hfail => apply absurd hfail (not_canFail _)
          | told j uptime id w v r hn hj hlink hw hr =>
              obtain rfl := dispatch_index hs hcount hn
              obtain rfl := eq_true_of_sends hr
              have hacts : (((switchState j m.pppEventMsg uptime id w s).post
                  (lcpEvent b (s.table j) v)).sent true (linkEvent b (s.table j) v)).acts =
                  (switchState j m.pppEventMsg uptime id w s).acts ++
                    [.post (busSetEvent (j + 1 : ℕ) (pppLcpStatusParamName b) v)] ++
                    [.post (busSetEvent (j + 1 : ℕ) (pppLinkStatusParamName b) v)] := by
                rw [← hnumber]
                rfl
              rw [Told, hacts, Sys.sent_table, Sys.post_table, switchState_table]
              by_cases hij : i = j
              · obtain rfl := hij
                rw [Function.update_self, statuses_switchEntry,
                  lastLcp_link (linkStatus_values hlink)]
                apply agree_told hlink
              · have hne : ((j + 1 : ℕ) : ℤ) ≠ (i + 1 : ℕ) := by
                  omega
                rw [Function.update_of_ne hij, lastLcp_link_of_instance hne, lastLcp_switchState]
                apply h
      | ipcp hkind hends =>
          cases hends with
          | noEntry => apply h
          | down r =>
              apply h.congr
              · rw [Sys.sent_table]
              · apply lastLcp_sent_of_key pppIpcpStatusParamName_ne
          | stored j v r =>
              apply h.congr
              · rw [Sys.sent_table, Sys.setEntry_table]
                apply statuses_update
                rfl
              · apply lastLcp_sent_of_key pppIpcpStatusParamName_ne
      | ipv6cp hkind hends =>
          cases hends with
          | badInstance => apply h
          | noEntry => apply h
          | completed j r =>
              apply h.congr
              · rw [Sys.sent_table, Sys.emit_table, Sys.setEntry_table]
                apply statuses_update
                rfl
              · rw [ipv6cpEvent, lastLcp_sent_of_key pppIpv6cpStatusParamName_ne]
                apply lastLcp_concat
          | down j r =>
              apply h.congr
              · rw [Sys.sent_table, Sys.emit_table]
              · rw [ipv6cpEvent, lastLcp_sent_of_key pppIpv6cpStatusParamName_ne]
                apply lastLcp_concat
      | unknown => apply h

/-- The messages of the client of the interface 1, whose pid is 0 before it is started, that it has
been in each of some states. -/
def reports (states : List PppState) : List Turn :=
  states.map fun p => ⟨.message (stateMessage 0 p), (workingOutside 1 none []).answers⟩

end

end PppManager
