import PppManager.Manager.LinkEvents
import PppManager.Manager.Sends

/-!
# The two keys of a link

Without `WAN_MANAGER_UNIFICATION_ENABLED` the manager writes the status of a link to two parameters of
the WAN manager, its LCP status and its link status, whose names have the number of the entry.  A state
message sends an event for each of them, a stop for the first only.

Where the client of an interface is stopped only if its link status was sent last as down, if it was
sent, the number of interfaces can be read when an event is handled, and no event is handled of another
interface that writes the same parameters, the values written last to its two parameters agree whenever
no event of the interface is in the queue (`keys_agree`).
-/

namespace PppManager

open Effect CText

/-! ### Values -/

/-- The value an event sets for the instance `n` under a key. -/
def PppEventQData.valueFor (n : ℤ) (keyPath : CStr) (ev : PppEventQData) : Option CStr :=
  if ev.pppIfInstance = n ∧ ev.keyPath = some keyPath then some ev.val else none

/-- The last value an event of the instance `n` has been sent with under a key. -/
def lastSent (n : ℤ) (keyPath : CStr) (evs : List PppEventQData) : Option CStr :=
  (evs.filterMap (PppEventQData.valueFor n keyPath)).getLast?

/-- The name of the parameter that an act writes, and the value. -/
def Act.set? : Act → Option (CStr × CStr)
  | .busSet _ _ name value => some (name, value)
  | _ => none

/-- The value of a write to the parameter `name`. -/
def valueOf (name : CStr) (w : CStr × CStr) : Option CStr :=
  if w.1 = name then some w.2 else none

/-- The last value written to the parameter `name`. -/
def lastWritten (name : CStr) (acts : List Act) : Option CStr :=
  ((acts.filterMap Act.set?).filterMap (valueOf name)).getLast?

/-- The name that a key makes with a pair. -/
def parameterName (keyPath : CStr) (pair : ℤ × ℤ) : CStr :=
  snprintf 255 keyPath [.int pair.1, .int pair.2]

/-- A state message arrives, a client is stopped or an event is taken from the queue. -/
def Call.isLinkCall : Call → Bool
  | .message _ => true
  | .stop _ => true
  | .event => true
  | _ => false

/-- Every set on the bus succeeds. -/
def SetsSucceed : (o : Op) → o.Ans → Prop
  | .busSet _ _ _ _, r => r.1 = true
  | _, _ => True

/-- A turn of the run: every send and every set of the call succeeds. -/
def KeyTurn (l : Turn) (_ : Sys) : Prop :=
  l.call.isLinkCall = true ∧ l.Allowed SendsSucceed ∧ l.Allowed SetsSucceed

/-- A stop is not of the interface of the entry `i`, or its link status was sent last as down, if it was
sent. -/
def StopsDown (b : Build) (i : ℕ) (l : Turn) (s : Sys) : Prop :=
  l.call = .stop (i + 1) →
    ∀ v, lastSent (i + 1 : ℕ) (pppLinkStatusParamName b) (events s.acts) = some v → v = down

/-- The number of interfaces can be read when an event is handled. -/
def EventsReadCount (l : Turn) (_ : Sys) : Prop :=
  l.call = .event → l.Allowed CountKnown

/-- The numbers of the WAN manager in the table are `int`s. -/
def HoldsInts (s : Sys) : Prop :=
  ∀ i, -2 ^ 31 ≤ (s.table i).wanPair.1 ∧ (s.table i).wanPair.1 < 2 ^ 31

/-- An event is of the entry `i`, or of an entry with another number. -/
def PppEventQData.Apart (i : ℕ) (table : ℕ → DmlPppIfFull) (ev : PppEventQData) : Prop :=
  (table (ev.pppIfInstance.toNat - 1)).wanPair.1 = (table i).wanPair.1 → ev.pppIfInstance = (i + 1 : ℕ)

/-- No event is handled of another entry that has the number of the entry `i`. -/
def HandlesApart (i : ℕ) (l : Turn) (s : Sys) : Prop :=
  l.call = .event → ∀ ev ∈ s.queue.head?, ev.Apart i s.table

/-- The values written last to the two parameters of the interface of the entry `i` agree, if it has no
event in the queue and both were written. -/
def KeysAgree (b : Build) (i : ℕ) (s : Sys) : Prop :=
  (∀ ev ∈ s.queue, ev.pppIfInstance ≠ (i + 1 : ℕ)) →
    ∀ lcp link,
      lastWritten (parameterName (pppLcpStatusParamName b) (s.table i).wanPair) s.acts = some lcp →
      lastWritten (parameterName (pppLinkStatusParamName b) (s.table i).wanPair) s.acts = some link →
        lcp = link

/-! ### Last values -/

section

variable {b : Build} {n k : ℤ} {key key' : CStr} {x : CStr} {evs evs' : List PppEventQData}

/-- Events of other instances. -/
theorem filterMap_valueFor_of_instance (h : ∀ ev ∈ evs, ev.pppIfInstance ≠ n) :
  evs.filterMap (PppEventQData.valueFor n key) = []
  := by
  apply List.filterMap_eq_nil_iff.mpr
  intro ev hev
  apply if_neg
  rintro ⟨hn, -⟩
  apply h ev hev hn

theorem lastSent_append_of_instance (h : ∀ ev ∈ evs', ev.pppIfInstance ≠ n) :
  lastSent n key (evs ++ evs') = lastSent n key evs
  := by
  rw [lastSent, List.filterMap_append, filterMap_valueFor_of_instance h, List.append_nil, lastSent]

/-- An event of the instance under the key. -/
theorem lastSent_concat_self (hx : x = up ∨ x = down) :
  lastSent n key (evs ++ [busSetEvent n key x]) = some x
  := by
  have hval : (busSetEvent n key x).val = x := by
    rcases hx with rfl | rfl <;> rfl
  have hself : (busSetEvent n key x).valueFor n key = some x := by
    rw [PppEventQData.valueFor, if_pos ⟨rfl, rfl⟩, hval]
  rw [lastSent, List.filterMap_append, List.filterMap_cons_some hself, List.filterMap_nil,
    List.getLast?_concat]

/-- An event under another key. -/
theorem lastSent_concat_of_key (h : key' ≠ key) :
  lastSent n key (evs ++ [busSetEvent k key' x]) = lastSent n key evs
  := by
  have hother : (busSetEvent k key' x).valueFor n key = none := by
    apply if_neg
    rintro ⟨-, hkey⟩
    apply h (Option.some.inj hkey)
  rw [lastSent, List.filterMap_append, List.filterMap_cons_none hother, List.filterMap_nil,
    List.append_nil, lastSent]

end

/-! ### The names -/

/-- The keys of the statuses. -/
def statusKeys (b : Build) : List CStr :=
  [pppLcpStatusParamName b, pppLinkStatusParamName b, pppIpcpStatusParamName b,
    pppIpv6cpStatusParamName b]

/-- What the names of the statuses of an interface begin with. -/
def cpeInterface : CStr := "Device.X_RDK_WanManager.CPEInterface.".toList

/-- What the names of the statuses of an interface end with, after its number. -/
def statusEnds : List CStr :=
  [".PPP.LCPStatus".toList, ".PPP.LinkStatus".toList, ".PPP.IPCPStatus".toList,
    ".PPP.IPv6CPStatus".toList]

section

variable {b : Build} (hb : b.wanManagerUnificationEnabled = false)
include hb

theorem pppLinkStatusParamName_ne_lcp :
  pppLinkStatusParamName b ≠ pppLcpStatusParamName b
  := by
  rw [pppLinkStatusParamName, pppLcpStatusParamName, hb]
  apply mt String.toList_injective
  decide +kernel

theorem statusKeys_eq :
  statusKeys b = statusEnds.map fun statusEnd => cpeInterface ++ "%d".toList ++ statusEnd
  := by
  rw [statusKeys, pppLcpStatusParamName, pppLinkStatusParamName, pppIpcpStatusParamName,
    pppIpv6cpStatusParamName, hb]
  decide +kernel

/-- The name that the key of a status makes with a pair whose first number is an `int`. -/
theorem parameterName_status {key : CStr} (hkey : key ∈ statusKeys b) {pair : ℤ × ℤ}
    (hint : -2 ^ 31 ≤ pair.1 ∧ pair.1 < 2 ^ 31) :
  ∃ statusEnd ∈ statusEnds, key = cpeInterface ++ "%d".toList ++ statusEnd ∧
    parameterName key pair = cpeInterface ++ (dec pair.1 ++ statusEnd)
  := by
  rw [statusKeys_eq hb] at hkey
  obtain ⟨statusEnd, hend, rfl⟩ := List.mem_map.mp hkey
  refine ⟨statusEnd, hend, rfl, ?_⟩
  have hprint : printf (cpeInterface ++ "%d".toList ++ statusEnd) [.int pair.1, .int pair.2] =
      cpeInterface ++ (dec pair.1 ++ statusEnd) := by
    simp only [statusEnds, List.mem_cons, List.not_mem_nil, or_false] at hend
    rcases hend with rfl | rfl | rfl | rfl <;> rfl
  have hdec : (dec pair.1).length ≤ 10 + 1 := by
    apply length_dec_le (by decide)
    omega
  have hends : ∀ x ∈ statusEnds, x.length ≤ 17 := by
    decide
  have hlength : (cpeInterface ++ (dec pair.1 ++ statusEnd)).length ≤ 254 := by
    have hfirst : cpeInterface.length = 37 := by
      decide
    have hlast := hends statusEnd hend
    rw [List.length_append, List.length_append, hfirst]
    omega
  rw [parameterName, snprintf, hprint]
  apply List.take_of_length_le hlength

/-- The name of a status tells which status it is, and of which number. -/
theorem parameterName_injective {key key' : CStr} (hkey : key ∈ statusKeys b)
    (hkey' : key' ∈ statusKeys b) {pair pair' : ℤ × ℤ} (hint : -2 ^ 31 ≤ pair.1 ∧ pair.1 < 2 ^ 31)
    (hint' : -2 ^ 31 ≤ pair'.1 ∧ pair'.1 < 2 ^ 31)
    (h : parameterName key pair = parameterName key' pair') :
  key = key' ∧ pair.1 = pair'.1
  := by
  obtain ⟨x, hx, rfl, hname⟩ := parameterName_status hb hkey hint
  obtain ⟨x', hx', rfl, hname'⟩ := parameterName_status hb hkey' hint'
  have hdot : ∀ y ∈ statusEnds, y.takeWhile Char.isDigit = [] := by
    decide
  rw [hname, hname'] at h
  have hscan := congrArg scanInt (List.append_cancel_left h)
  rw [scanInt_dec_append _ (hdot x hx), scanInt_dec_append _ (hdot x' hx')] at hscan
  obtain ⟨hnumber, rfl⟩ := Prod.mk.inj (Option.some.inj hscan)
  exact ⟨rfl, hnumber⟩

end

/-! ### What is sent -/

/-- An event that tells a status of the instance `n`. -/
def TellsStatus (b : Build) (n : ℤ) (ev : PppEventQData) : Prop :=
  ∃ keyPath ∈ statusKeys b, ∃ v, ev = busSetEvent n keyPath v

/-- The values sent last under the two keys for the instance `n` agree. -/
def SentAgree (b : Build) (n : ℤ) (evs : List PppEventQData) : Prop :=
  ∀ lcp link, lastSent n (pppLcpStatusParamName b) evs = some lcp →
    lastSent n (pppLinkStatusParamName b) evs = some link → lcp = link

section

variable {A : (o : Op) → o.Ans → Prop} {b : Build} {n k : ℤ} {evs evs' : List PppEventQData}

theorem MessageEvents.tellsStatus (h : MessageEvents A b n evs) :
  ∀ ev ∈ evs, TellsStatus b n ev
  := by
  have hkeys : pppLcpStatusParamName b ∈ statusKeys b ∧ pppLinkStatusParamName b ∈ statusKeys b ∧
      pppIpcpStatusParamName b ∈ statusKeys b ∧ pppIpv6cpStatusParamName b ∈ statusKeys b := by
    simp [statusKeys]
  obtain ⟨hlcp, hlink, hipcp, hipv6cp⟩ := hkeys
  intro ev hev
  cases h with
  | none => cases hev
  | lcp p v =>
      obtain rfl := List.mem_singleton.mp hev
      exact ⟨_, hlcp, v, rfl⟩
  | link p v =>
      rcases List.mem_pair.mp hev with rfl | rfl
      · exact ⟨_, hlcp, v, rfl⟩
      · exact ⟨_, hlink, v, rfl⟩
  | ipcp v =>
      obtain rfl := List.mem_singleton.mp hev
      exact ⟨_, hipcp, v, rfl⟩
  | ipv6cp v =>
      obtain rfl := List.mem_singleton.mp hev
      exact ⟨_, hipv6cp, v, rfl⟩

theorem tellsStatus_stopEvents {r₁ r₂ r₃ : Bool} :
  ∀ ev ∈ stopEvents b n r₁ r₂ r₃, TellsStatus b n ev
  := by
  intro ev hev
  rcases List.mem_append.mp hev with hev | hev
  · rcases List.mem_append.mp hev with hev | hev
    · obtain rfl := mem_ifSent hev
      exact ⟨_, by simp [statusKeys], _, rfl⟩
    · obtain rfl := mem_ifSent hev
      exact ⟨_, by simp [statusKeys], _, rfl⟩
  · obtain rfl := mem_ifSent hev
    exact ⟨_, by simp [statusKeys], _, rfl⟩

/-- Events of another instance. -/
theorem SentAgree.append_of_ne (h : SentAgree b n evs) (hk : k ≠ n)
    (hevs : ∀ ev ∈ evs', TellsStatus b k ev) :
  SentAgree b n (evs ++ evs')
  := by
  have hne : ∀ ev ∈ evs', ev.pppIfInstance ≠ n := by
    intro ev hev
    obtain ⟨keyPath, -, v, rfl⟩ := hevs ev hev
    apply hk
  intro lcp link hlcp hlink
  rw [lastSent_append_of_instance hne] at hlcp hlink
  apply h lcp link hlcp hlink

/-- What a state message sends keeps the keys in step. -/
theorem SentAgree.message (hb : b.wanManagerUnificationEnabled = false) (h : SentAgree b n evs)
    (hevs : MessageEvents SendsSucceed b k evs') :
  SentAgree b n (evs ++ evs')
  := by
  by_cases hk : k = n
  · obtain rfl := hk
    intro lcp link hlcp hlink
    cases hevs with
    | none =>
        rw [List.append_nil] at hlcp hlink
        apply h lcp link hlcp hlink
    | lcp p v _ hfail => apply absurd hfail (not_canFail _)
    | link p v hv =>
        have hsplit := List.append_assoc evs [busSetEvent k (pppLcpStatusParamName b) v]
          [busSetEvent k (pppLinkStatusParamName b) v]
        rw [List.singleton_append] at hsplit
        rw [← hsplit, lastSent_concat_of_key (pppLinkStatusParamName_ne_lcp hb),
          lastSent_concat_self (linkStatus_values hv)] at hlcp
        rw [← hsplit, lastSent_concat_self (linkStatus_values hv)] at hlink
        apply Option.some.inj (hlcp.symm.trans hlink)
    | ipcp v =>
        rw [ipcpEvent, lastSent_concat_of_key pppIpcpStatusParamName_ne] at hlcp
        rw [ipcpEvent, lastSent_concat_of_key pppIpcpStatusParamName_ne_link] at hlink
        apply h lcp link hlcp hlink
    | ipv6cp v =>
        rw [ipv6cpEvent, lastSent_concat_of_key pppIpv6cpStatusParamName_ne] at hlcp
        rw [ipv6cpEvent, lastSent_concat_of_key pppIpv6cpStatusParamName_ne_link] at hlink
        apply h lcp link hlcp hlink
  · apply h.append_of_ne hk hevs.tellsStatus

/-- What a stop sends keeps the keys in step, if the link status was sent last as down. -/
theorem SentAgree.stop (hb : b.wanManagerUnificationEnabled = false) (h : SentAgree b n evs)
    (hdown : k = n → ∀ v, lastSent n (pppLinkStatusParamName b) evs = some v → v = down) :
  SentAgree b n (evs ++ stopEvents b k true true true)
  := by
  by_cases hk : k = n
  · obtain rfl := hk
    have hsplit : evs ++ stopEvents b k true true true =
        evs ++ [busSetEvent k (pppLcpStatusParamName b) down] ++
          [busSetEvent k (pppIpcpStatusParamName b) down] ++
          [busSetEvent k (pppIpv6cpStatusParamName b) down] := by
      rw [stopEvents, ifSent, ifSent, ifSent, if_pos rfl, if_pos rfl, if_pos rfl, List.append_assoc,
        List.append_assoc, List.append_assoc]
    intro lcp link hlcp hlink
    rw [hsplit, lastSent_concat_of_key pppIpv6cpStatusParamName_ne,
      lastSent_concat_of_key pppIpcpStatusParamName_ne, lastSent_concat_self (.inr rfl)] at hlcp
    rw [hsplit, lastSent_concat_of_key pppIpv6cpStatusParamName_ne_link,
      lastSent_concat_of_key pppIpcpStatusParamName_ne_link,
      lastSent_concat_of_key (pppLinkStatusParamName_ne_lcp hb).symm] at hlink
    rw [hdown rfl link hlink]
    apply (Option.some.inj hlcp).symm
  · apply h.append_of_ne hk tellsStatus_stopEvents

end

/-! ### Runs -/

/-- What handling an event writes, where the table is `table`. -/
def PppEventQData.set (table : ℕ → DmlPppIfFull) (ev : PppEventQData) : CStr × CStr :=
  (ev.key (table (ev.pppIfInstance.toNat - 1)).wanPair, ev.val)

/-- The state in a run from `s₀`: the events that have been sent are those taken from the queue, which
have been written, and those in the queue, and tell statuses; nothing has changed the pairs. -/
structure KeysInStep (b : Build) (i : ℕ) (s₀ s : Sys) : Prop where
  numbered : Numbered s
  count : s.pppIfCount = s₀.pppIfCount
  pairs : ∀ j, (s.table j).wanPair = (s₀.table j).wanPair
  taken : ∃ evs, events s.acts = evs ++ s.queue ∧
    s.acts.filterMap Act.set? = evs.map (PppEventQData.set s₀.table) ∧
    ∀ ev ∈ evs, ev.Apart i s₀.table
  told : ∀ ev ∈ events s.acts, ∃ j < s₀.pppIfCount.toNat, TellsStatus b (j + 1 : ℕ) ev
  sent : SentAgree b (i + 1 : ℕ) (events s.acts)

section

variable {b : Build} {i : ℕ} {s₀ s s' : Sys} {evs : List PppEventQData} {call : Call} {r : Bool}

/-- A call that only sends. -/
theorem KeysInStep.sends (h : KeysInStep b i s₀ s) (hends : CallEnds SendsSucceed b s call r s')
    (hcall : call.starts = false) (hhandles : call.Handles s) (hs : Sends evs s s')
    (hwrites : s'.acts.filterMap Act.set? = s.acts.filterMap Act.set?)
    (hevs : evs = [] ∨ ∃ j < s.pppIfCount.toNat, ∀ ev ∈ evs, TellsStatus b (j + 1 : ℕ) ev)
    (hagree : SentAgree b (i + 1 : ℕ) (events s.acts ++ evs)) :
  KeysInStep b i s₀ s'
  where
    numbered := hends.numbered h.numbered hhandles
    count := hends.pppIfCount.trans h.count
    pairs := by
      intro j
      rw [(hends.entryStep h.numbered hhandles j).wanPair hcall, h.pairs]
    taken := by
      obtain ⟨taken, hacts, hset, hapart⟩ := h.taken
      use taken
      rw [hs.acts, hs.queue, hacts, List.append_assoc, hwrites]
      exact ⟨rfl, hset, hapart⟩
    told := by
      intro ev hev
      rw [hs.acts] at hev
      rcases List.mem_append.mp hev with hev | hev
      · apply h.told ev hev
      · rcases hevs with rfl | ⟨j, hj, hevs⟩
        · cases hev
        · rw [h.count] at hj
          exact ⟨j, hj, hevs ev hev⟩
    sent := by
      rw [hs.acts]
      apply hagree

/-- Acts that set no parameter add nothing to what is written. -/
theorem filterMap_set_of_extends (h : s.Extends (fun a => a.set? = none) s') :
  s'.acts.filterMap Act.set? = s.acts.filterMap Act.set?
  := by
  obtain ⟨acts, hacts, hnone⟩ := h
  rw [hacts, List.filterMap_append, List.filterMap_eq_nil_iff.mpr hnone, List.append_nil]

theorem set_of_isPlain {a : Act} (ha : a.isPlain = true) :
  a.set? = none
  := by
  cases a with
  | busSet => cases ha
  | _ => rfl

theorem KeysInStep.message (hb : b.wanManagerUnificationEnabled = false) (h : KeysInStep b i s₀ s)
    {m : IpcMsgPayload} {q : AnscStatus} (hends : PppStateEnds SendsSucceed b s m q s') :
  KeysInStep b i s₀ s'
  := by
  have hwrites : s'.acts.filterMap Act.set? = s.acts.filterMap Act.set? := by
    apply filterMap_set_of_extends
    apply hends.extends
    · intro a ha
      apply set_of_isPlain ha
    · rfl
  obtain ⟨evs, hsends, hevs⟩ := hends.sends h.numbered
  rcases hevs with rfl | ⟨j, hj, -, hevs⟩
  · apply h.sends (.message hends) rfl trivial hsends hwrites (.inl rfl)
    rw [List.append_nil]
    apply h.sent
  · apply h.sends (.message hends) rfl trivial hsends hwrites
    · exact .inr ⟨j, hj, hevs.tellsStatus⟩
    · apply h.sent.message hb hevs

theorem KeysInStep.stop (hb : b.wanManagerUnificationEnabled = false) (h : KeysInStep b i s₀ s)
    {n : ℕ} {q : AnscStatus} (hends : StopEnds SendsSucceed b s n q s')
    (hdown : n = i + 1 →
      ∀ v, lastSent (i + 1 : ℕ) (pppLinkStatusParamName b) (events s.acts) = some v → v = down) :
  KeysInStep b i s₀ s'
  := by
  have hwrites : s'.acts.filterMap Act.set? = s.acts.filterMap Act.set? := by
    apply filterMap_set_of_extends
    apply hends.extends
    · intro a ha
      apply set_of_isPlain ha
    · intro e
      rw [stopAct]
      split_ifs <;> rfl
  have hcall : CallEnds SendsSucceed b s (.stop n) (q = .success) s' := .stop hends
  cases hends with
  | noEntry => apply h
  | stopped j r₁ r₂ r₃ hn hj h₁ h₂ h₃ hcount =>
      obtain rfl := eq_true_of_sends h₁
      obtain rfl := eq_true_of_sends h₂
      obtain rfl := eq_true_of_sends h₃
      obtain rfl := hn
      have hsends := sends_stoppedState (s := s) (b := b) j (j + 1) true true true
      rw [toInt_eq hj] at hsends
      apply h.sends hcall rfl trivial hsends hwrites
      · exact .inr ⟨j, hcount, tellsStatus_stopEvents⟩
      · apply h.sent.stop hb
        intro hn
        apply hdown (Int.ofNat_inj.mp hn)

/-- Taking an event from the queue writes it. -/
theorem KeysInStep.event (h : KeysInStep b i s₀ s) {ev : PppEventQData} {evs : List PppEventQData}
    {q : AnscStatus} (hqueue : s.queue = ev :: evs) (hapart : ev.Apart i s.table)
    (hnumbered : Numbered s') (hends : EventEnds CountKnown b { s with queue := evs } ev q s') :
  KeysInStep b i s₀ s'
  := by
  obtain ⟨taken, hacts, hset, htaken⟩ := h.taken
  have hmem : ev ∈ events s.acts := by
    rw [hacts, hqueue]
    apply List.mem_append_right taken List.mem_cons_self
  obtain ⟨j, hj, keyPath, hkey, v, rfl⟩ := h.told ev hmem
  have hpos : (0 : ℤ) < (j + 1 : ℕ) := Int.natCast_pos.mpr (Nat.succ_pos j)
  cases hends with
  | invalid _ hinvalid => apply absurd ⟨hpos, nofun, nofun, nofun⟩ hinvalid
  | exec _ _ _ hexec => cases hexec
  | busSet _ component bus name value _ _ _ pair hpair hname hvalue =>
      have hentry : pair = (s₀.table j).wanPair := by
        cases hpair with
        | noEntry hnone =>
            rcases hnone with hzero | hunread | hlt
            · cases hzero
            · cases hunread rfl
            · have hcount : s.pppIfCount.toNat < j + 1 := hlt
              rw [h.count] at hcount
              omega
        | entry k hk =>
            obtain rfl := Nat.succ_inj.mp hk
            apply h.pairs
      obtain rfl := hvalue
      obtain rfl := hname
      obtain rfl := hentry
      have hevents : ∀ name value, events (s.acts ++ [Act.busSet component bus name value]) =
          events s.acts := by
        intro name value
        rw [events_concat]
        apply List.append_nil
      constructor
      · apply hnumbered
      · apply h.count
      · apply h.pairs
      · use taken ++ [busSetEvent (j + 1 : ℕ) keyPath v]
        refine ⟨?_, ?_, ?_⟩
        · rw [Sys.emit_acts, hevents, hacts, hqueue, List.append_assoc]
          rfl
        · rw [Sys.emit_acts, List.filterMap_append, hset, List.map_append]
          rfl
        · intro ev' hev'
          rcases List.mem_append.mp hev' with hev' | hev'
          · apply htaken ev' hev'
          · obtain rfl := List.mem_singleton.mp hev'
            rw [PppEventQData.Apart, ← h.pairs, ← h.pairs]
            apply hapart
      · rw [Sys.emit_acts, hevents]
        apply h.told
      · rw [Sys.emit_acts, hevents]
        apply h.sent

/-- A turn of the run. -/
theorem KeysInStep.step (hb : b.wanManagerUnificationEnabled = false) {l : Turn}
    (h : KeysInStep b i s₀ s) (hl : KeyTurn l s ∧ StopsDown b i l s ∧ EventsReadCount l s ∧
      HandlesApart i l s) (hnext : l.next b s = some s') :
  KeysInStep b i s₀ s'
  := by
  obtain ⟨⟨hcall, hsends, -⟩, hdown, hread, hapart⟩ := hl
  obtain ⟨r, hends⟩ := Turn.next_ends hsends hnext
  obtain ⟨call, answers⟩ := l
  cases call with
  | enable | reset | start => cases hcall
  | message m =>
      cases hends with
      | message hends => apply h.message hb hends
  | stop n =>
      cases hends with
      | stop hends =>
          apply h.stop hb hends
          rintro rfl
          apply hdown rfl
  | event =>
      have hnumbered := hends.numbered h.numbered (show Call.Handles s .event from trivial)
      obtain ⟨r, hends⟩ := Turn.next_ends (hread rfl) hnext
      cases hends with
      | queueEmpty => apply h
      | @queueEvent ev evs _ _ hqueue hends =>
          have hhead : ev ∈ s.queue.head? := by
            rw [hqueue]
            rfl
          apply h.event hqueue (hapart rfl ev hhead) hnumbered hends

/-! ### What is written -/

/-- An event writes the parameter of a status of the entry `i` if it is of this entry and under the key
of the status. -/
theorem valueOf_set (hb : b.wanManagerUnificationEnabled = false) (hints : HoldsInts s) {key : CStr}
    (hkey : key ∈ statusKeys b) {ev : PppEventQData} {j : ℕ} (htold : TellsStatus b (j + 1 : ℕ) ev)
    (hapart : ev.Apart i s.table) :
  valueOf (parameterName key (s.table i).wanPair) (ev.set s.table) = ev.valueFor (i + 1 : ℕ) key
  := by
  obtain ⟨keyPath, hkeyPath, v, rfl⟩ := htold
  have hname : ((busSetEvent (j + 1 : ℕ) keyPath v).set s.table).1 =
      parameterName keyPath (s.table j).wanPair := rfl
  rw [valueOf, PppEventQData.valueFor, hname]
  apply if_congr _ rfl rfl
  constructor
  · intro h
    obtain ⟨rfl, hnumber⟩ := parameterName_injective hb hkeyPath hkey (hints j) (hints i) h
    exact ⟨hapart hnumber, rfl⟩
  · rintro ⟨hn, hpath⟩
    obtain rfl := Option.some.inj hpath
    obtain rfl : j = i := by
      have hj : ((j + 1 : ℕ) : ℤ) = (i + 1 : ℕ) := hn
      omega
    rfl

/-- If no event of the entry `i` is in the queue, its parameters have been written what was sent. -/
theorem KeysInStep.lastWritten_eq (hb : b.wanManagerUnificationEnabled = false) (hints : HoldsInts s₀)
    (h : KeysInStep b i s₀ s) (hqueue : ∀ ev ∈ s.queue, ev.pppIfInstance ≠ (i + 1 : ℕ)) {key : CStr}
    (hkey : key ∈ statusKeys b) :
  lastWritten (parameterName key (s.table i).wanPair) s.acts =
    lastSent (i + 1 : ℕ) key (events s.acts)
  := by
  obtain ⟨taken, hacts, hset, hapart⟩ := h.taken
  have hvalues : (taken.map (PppEventQData.set s₀.table)).filterMap
      (valueOf (parameterName key (s₀.table i).wanPair)) =
        taken.filterMap (PppEventQData.valueFor (i + 1 : ℕ) key) := by
    rw [List.filterMap_map]
    apply List.filterMap_congr
    intro ev hev
    have hmem : ev ∈ events s.acts := by
      rw [hacts]
      apply List.mem_append_left s.queue hev
    obtain ⟨j, -, htold⟩ := h.told ev hmem
    apply valueOf_set hb hints hkey htold (hapart ev hev)
  rw [lastWritten, h.pairs, hset, hvalues, hacts, lastSent_append_of_instance hqueue, lastSent]

/-- In a run in which the client of an interface is stopped only if its link status was sent last as
down, if it was sent, the number of interfaces is read whenever an event is handled, and no event is
handled of another interface with its number, the values written last to the two parameters of the
interface agree. -/
theorem keys_agree (hb : b.wanManagerUnificationEnabled = false) (hs : Numbered s) (hints : HoldsInts s)
    (hqueue : s.queue = []) (hacts : s.acts = []) {ls : List Turn}
    (hturns : Throughout (Turn.next b) KeyTurn ls s)
    (hdown : Throughout (Turn.next b) (StopsDown b i) ls s)
    (hread : Throughout (Turn.next b) EventsReadCount ls s)
    (hapart : Throughout (Turn.next b) (HandlesApart i) ls s)
    (hrun : run (Turn.next b) ls s = some s') :
  KeysAgree b i s'
  := by
  have hstart : KeysInStep b i s s := by
    constructor
    · apply hs
    · rfl
    · intro j
      rfl
    · use []
      rw [hacts, hqueue]
      exact ⟨rfl, rfl, nofun⟩
    · rw [hacts]
      nofun
    · rw [hacts]
      intro lcp link hlcp
      cases hlcp
  have hend : KeysInStep b i s s' := by
    apply run_invariant _ hstart
      (throughout_and hturns (throughout_and hdown (throughout_and hread hapart))) hrun
    intro l s₁ s₂ h hl hnext
    apply h.step hb hl hnext
  intro hempty lcp link hlcp hlink
  rw [hend.lastWritten_eq hb hints hempty (by simp [statusKeys])] at hlcp hlink
  apply hend.sent lcp link hlcp hlink

end

/-! ### A link that is stopped while it is up -/

/-- A build without `WAN_MANAGER_UNIFICATION_ENABLED`. -/
def twoKeysBuild : Build :=
  { plainBuild false with wanManagerUnificationEnabled := false }

/-- A call with the answers of an outside where everything works. -/
def queueCall (call : Call) : Turn :=
  ⟨call, (workingOutside 1 none []).answers⟩

/-- The client of the interface 1, whose pid is 0 before it is started, reports that its link is
up, and the two events are taken from the queue. -/
def linkUp : List Call :=
  [.message (stateMessage 0 .interfaceUp), .event, .event]

/-- The link goes down again, and the two events are taken from the queue. -/
def linkDown : List Call :=
  linkUp ++ [.message (stateMessage 0 .interfaceDown), .event, .event]

/-- The client is stopped, and the three events are taken from the queue. -/
def linkStopped : List Call :=
  [.stop 1, .event, .event, .event]

/-- Everything succeeds where everything works. -/
theorem keyTurns_queueCall {calls : List Call} (hcalls : calls.all Call.isLinkCall = true) {b : Build}
    {s : Sys} :
  Throughout (Turn.next b) KeyTurn (calls.map queueCall) s
  := by
  apply throughout_of_forall
  intro l hl s
  obtain ⟨call, hcall, rfl⟩ := List.mem_map.mp hl
  refine ⟨List.all_eq_true.mp hcalls call hcall, Outside.allowed_sends rfl call, ?_⟩
  intro t o _
  cases o with
  | busSet => rfl
  | _ => trivial

theorem eventsReadCount_queueCall (calls : List Call) :
  ∀ l ∈ calls.map queueCall, ∀ s, EventsReadCount l s
  := by
  intro l hl s _ t o _
  obtain ⟨call, -, rfl⟩ := List.mem_map.mp hl
  cases o with
  | psmGet name =>
      intro _
      rfl
  | _ => trivial

theorem holdsInts_freshState (c : ℕ) :
  HoldsInts (freshState c)
  := by
  intro i
  show -2 ^ 31 ≤ (0 : ℤ) ∧ (0 : ℤ) < 2 ^ 31
  omega

/-- What has to be tested of a turn that may handle an event. -/
def apartTest (l : Turn) (s : Sys) : Bool :=
  match l.call with
  | .event => s.queue.head?.all fun ev => ev.pppIfInstance = 1
  | _ => true

theorem handlesApart_of_test {l : Turn} {s : Sys} (h : apartTest l s = true) :
  HandlesApart 0 l s
  := by
  intro hcall ev hev _
  rw [apartTest, hcall] at h
  apply of_decide_eq_true
  apply (Option.all_eq_true _ _).mp h ev hev

/-- What is in the queue, and the statuses of the interface 1 that were written last. -/
def lastStatuses (s : Sys) : List PppEventQData × Option CStr × Option CStr :=
  (s.queue, lastWritten (parameterName (pppLcpStatusParamName twoKeysBuild) (s.table 0).wanPair) s.acts,
    lastWritten (parameterName (pppLinkStatusParamName twoKeysBuild) (s.table 0).wanPair) s.acts)

/-- After a stop of a link that was up, the two parameters differ. -/
theorem stop_tells_one_key :
  ¬ ∀ (b : Build) (i : ℕ) (s : Sys) (ls : List Turn) (s' : Sys),
    b.wanManagerUnificationEnabled = false → Numbered s → HoldsInts s → s.queue = [] → s.acts = [] →
    Throughout (Turn.next b) KeyTurn ls s → Throughout (Turn.next b) EventsReadCount ls s →
    Throughout (Turn.next b) (HandlesApart i) ls s → run (Turn.next b) ls s = some s' →
    KeysAgree b i s'
  := by
  intro h
  have hapart : check (Turn.next twoKeysBuild) apartTest ((linkUp ++ linkStopped).map queueCall)
      (freshState 1) = true := by
    decide +kernel
  have hend : (run (Turn.next twoKeysBuild) ((linkUp ++ linkStopped).map queueCall)
      (freshState 1)).map lastStatuses = some ([], some down, some up) := by
    decide +kernel
  obtain ⟨s', hrun, hs'⟩ := Option.map_eq_some_iff.mp hend
  obtain ⟨hqueue, hvalues⟩ := Prod.mk.inj hs'
  obtain ⟨hlcp, hlink⟩ := Prod.mk.inj hvalues
  have hempty : ∀ ev ∈ s'.queue, ev.pppIfInstance ≠ (0 + 1 : ℕ) := by
    rw [hqueue]
    nofun
  have hagree := h twoKeysBuild 0 (freshState 1) _ s' rfl
    (initial_freshState (by decide)).toNumbered (holdsInts_freshState 1) rfl rfl
    (keyTurns_queueCall rfl) (throughout_of_forall (eventsReadCount_queueCall _))
    (throughout_of_check (fun _ _ _ => handlesApart_of_test) hapart) hrun hempty _ _ hlcp hlink
  apply up_ne_down hagree.symm

/-- What has to be tested of a turn that may stop the client of the interface 1. -/
def stopsDownTest (b : Build) (l : Turn) (s : Sys) : Bool :=
  match l.call with
  | .stop _ => (lastSent 1 (pppLinkStatusParamName b) (events s.acts)).all (· = down)
  | _ => true

theorem stopsDown_of_test {b : Build} {l : Turn} {s : Sys} (h : stopsDownTest b l s = true) :
  StopsDown b 0 l s
  := by
  intro hn v hv
  rw [stopsDownTest, hn] at h
  apply of_decide_eq_true
  apply (Option.all_eq_true _ _).mp h v hv

theorem keys_agree_stopped :
  ∃ s', run (Turn.next twoKeysBuild) ((linkDown ++ linkStopped).map queueCall) (freshState 1) =
      some s' ∧ lastStatuses s' = ([], some down, some down) ∧ KeysAgree twoKeysBuild 0 s'
  := by
  have hdown : check (Turn.next twoKeysBuild) (stopsDownTest twoKeysBuild)
      ((linkDown ++ linkStopped).map queueCall) (freshState 1) = true := by
    decide +kernel
  have hapart : check (Turn.next twoKeysBuild) apartTest ((linkDown ++ linkStopped).map queueCall)
      (freshState 1) = true := by
    decide +kernel
  have hend : (run (Turn.next twoKeysBuild) ((linkDown ++ linkStopped).map queueCall)
      (freshState 1)).map lastStatuses = some ([], some down, some down) := by
    decide +kernel
  obtain ⟨s', hrun, hs'⟩ := Option.map_eq_some_iff.mp hend
  use s', hrun, hs'
  apply keys_agree rfl (initial_freshState (by decide)).toNumbered (holdsInts_freshState 1) rfl rfl _ _
    _ _ hrun
  · apply keyTurns_queueCall
    rfl
  · apply throughout_of_check _ hdown
    intro l _ s
    apply stopsDown_of_test
  · apply throughout_of_forall
    apply eventsReadCount_queueCall
  · apply throughout_of_check _ hapart
    intro l _ s
    apply handlesApart_of_test

end PppManager
