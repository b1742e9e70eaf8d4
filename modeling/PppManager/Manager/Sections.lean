import PppManager.Manager.Points
import PppManager.Manager.Balance
import PppManager.Manager.LinkEvents

/-!
# Sections

A thread that works on an entry takes its mutex, and until it gives it back no other thread changes
the entry: this is a section.  Outside of it the other thread may do anything.  `sectionMachine` is
the machine of one thread by itself, in which the outside also says what the entry is when its mutex is
taken, and what is seen of entries whose mutex the thread does not hold.

The contract `sections b r A` asks of a thread that it takes a second mutex in no section, gives back
and writes only what it has taken, and leaves a section only with a change of `EntryChange`.  Under the
condition `A` every send succeeds, and the thread tells the LCP status of an interface in a section of
it only, which it leaves with the status that it has told.
-/

namespace PppManager

open Effect Effect.Program CText

/-- A section: the entry whose mutex is taken, how often it has been taken again, the entry as it was
found and as it is, and the events that have been sent. -/
structure Section where
  index : ℕ
  again : ℕ
  found : DmlPppIfFull
  entry : DmlPppIfFull
  sent : List PppEventQData

/-- What a thread is told at an operation: its result, and the entry, where a mutex is taken. -/
structure Op.Told (o : Op) where
  result : o.Res
  found : DmlPppIfFull

namespace Section

/-- The section after its mutex is taken again. -/
def retake (c : Section) : Section :=
  { c with again := c.again + 1 }

/-- What is left of the section after its mutex is given back once. -/
def leave (c : Section) : Option Section :=
  match c.again with
  | 0 => none
  | n + 1 => some { c with again := n }

/-- The section after a write to its entry. -/
def write (f : DmlPppIfFull → DmlPppIfFull) (c : Section) : Section :=
  { c with entry := f c.entry }

/-- The section after an event is sent, or could not be. -/
def send (ev : PppEventQData) (r : Bool) (c : Section) : Section :=
  if r then { c with sent := c.sent ++ [ev] } else c

/-- The last LCP status of the entry `i` that some events tell. -/
def lcpOf (b : Build) (i : ℕ) (es : List PppEventQData) : Option CStr :=
  lastLcp b (i + 1 : ℕ) (es.map Act.post)

/-- What is told last agrees with the status the section leaves, if it agreed with the one it found. -/
def Tells (b : Build) (c : Section) : Prop :=
  ∀ last, Agree c.found.statuses last → Agree c.entry.statuses ((lcpOf b c.index c.sent).or last)

/-- What a thread sees of the entry `i`, where it would see `e` outside of a section. -/
def seen (i : ℕ) (e : DmlPppIfFull) : Option Section → DmlPppIfFull
  | none => e
  | some c => if c.index = i then c.entry else e

/-- The meaning of the operations for a thread by itself, in a section or in none. -/
def step : (o : Op) → o.Told → Option Section → Except Unit (o.Res × Option Section)
  | .lock i, x, none => .ok ((), some ⟨i, 0, x.found, x.found, []⟩)
  | .lock i, _, some c => if c.index = i then .ok ((), some c.retake) else .error ()
  | .unlock _, _, none => .error ()
  | .unlock i, _, some c => if c.index = i then .ok ((), c.leave) else .error ()
  | .load i, x, d => .ok (seen i x.result d, d)
  | .store _ _, _, none => .error ()
  | .store i f, _, some c => if c.index = i then .ok ((), some (c.write f)) else .error ()
  | .mqSend ev, x, some c => .ok (x.result, some (c.send ev x.result))
  | _, x, d => .ok (x.result, d)

end Section

/-- The machine of a thread by itself. -/
@[reducible] def sectionMachine : Machine sig (Option Section) Unit where
  Ans := Op.Told
  step := Section.step

/-- Any change of an entry point. -/
abbrev AnyChange (b : Build) : ℕ → DmlPppIfFull → DmlPppIfFull → Prop :=
  EntryChange b True (fun _ => True)

/-- What the other threads and the outside may do: an entry is found with its number, the record of the
number of interfaces is `r` wherever it can be read, and sends succeed under the condition `A`. -/
def Op.MayBeTold (r : Option CStr) (A : Prop) : (o : Op) → o.Told → Prop
  | .lock i, x => x.found.cfg.instanceNumber = i + 1
  | .psmGet name, x => name = psmPppManagerPppIfCount → x.result = none ∨ x.result = r
  | .mqOpen, x => A → x.result = true
  | .mqSend _, x => A → x.result = true
  | _, _ => True

/-- The event is for one of the first `c` interfaces, and has all its texts if it sets a parameter, and
no key if it does not. -/
structure PppEventQData.WellFormed (c : ℕ) (ev : PppEventQData) : Prop where
  pos : 0 < ev.pppIfInstance
  le : ev.pppIfInstance ≤ c
  paths : ev.action = .busSet → ev.HasPaths
  noKey : ev.action ≠ .busSet → ev.keyPath = none

/-- If the event tells an LCP status, then that of the interface of the section. -/
def PppEventQData.IsOf (b : Build) (ev : PppEventQData) (d : Option Section) : Prop :=
  ev.keyPath = some (pppLcpStatusParamName b) → ∃ x ∈ d, ev.pppIfInstance = (x.index + 1 : ℕ)

/-- The operation may be performed in the section, of entries below `c`. -/
def Op.SafeIn (b : Build) (c : ℕ) (A : Prop) : Op → Option Section → Prop
  | .lock i, d => i < c ∧ ∀ x ∈ d, x.index = i
  | .unlock i, d => ∃ x ∈ d, x.index = i ∧
      (x.again = 0 → AnyChange b i x.found x.entry ∧ (A → x.Tells b))
  | .load i, _ => i < c
  | .store i _, d => ∃ x ∈ d, x.index = i
  | .psmSet name _, _ => name ≠ psmPppManagerPppIfCount
  | .mqSend ev, d => ev.WellFormed c ∧ (A → ev.IsOf b d)
  | _, _ => True

/-- The contract of a thread by itself, where `r` is the record of the number of interfaces. -/
def sections (b : Build) (r : Option CStr) (A : Prop) : Contract sectionMachine where
  Allows := Op.MayBeTold r A
  Safe := Op.SafeIn b (pppIfCountOf r).toNat A
  Admits := fun _ => True

/-- The operation neither uses an entry or a mutex nor sends an event, and keeps the record of the
number of interfaces. -/
def Op.IsApart : Op → Prop
  | .lock _ => False
  | .unlock _ => False
  | .load _ => False
  | .store _ _ => False
  | .mqSend _ => False
  | .psmSet name _ => name ≠ psmPppManagerPppIfCount
  | _ => True

section

variable {b : Build} {r : Option CStr} {A : Prop} {i n : ℕ} {e e' : DmlPppIfFull}
  {es : List PppEventQData} {d : Option Section} {α : Type}

/-! ### What is told -/

theorem lcpOf_concat (ev : PppEventQData) :
  Section.lcpOf b i (es ++ [ev]) =
    (lcpValue b (i + 1 : ℕ) (.post ev)).or (Section.lcpOf b i es)
  := by
  rw [Section.lcpOf, List.map_append]
  apply lastLcp_concat

theorem lcpOf_exec (k : ℤ) :
  Section.lcpOf b i (es ++ [execEvent k]) = Section.lcpOf b i es
  := lcpOf_concat _

theorem lcpOf_of_key {k : ℤ} {keyPath v : CStr} (h : keyPath ≠ pppLcpStatusParamName b) :
  Section.lcpOf b i (es ++ [busSetEvent k keyPath v]) = Section.lcpOf b i es
  := by
  rw [Section.lcpOf, List.map_append]
  apply lastLcp_of_key h

theorem lcpOf_lcp {v : CStr} (hv : v = up ∨ v = down) :
  Section.lcpOf b i (es ++ [busSetEvent (i + 1 : ℕ) (pppLcpStatusParamName b) v]) = some v
  := by
  rw [Section.lcpOf, List.map_append]
  apply lastLcp_lcp hv

theorem lcpOf_link {v : CStr} (hv : v = up ∨ v = down) :
  Section.lcpOf b i (es ++ [busSetEvent (i + 1 : ℕ) (pppLcpStatusParamName b) v] ++
    [busSetEvent (i + 1 : ℕ) (pppLinkStatusParamName b) v]) = some v
  := by
  rw [Section.lcpOf, List.map_append, List.map_append]
  apply lastLcp_link hv

/-- A section that keeps the status and tells none. -/
theorem Section.tells_quiet (hstatuses : e'.statuses = e.statuses) (h : lcpOf b i es = none) :
  Tells b ⟨i, n, e, e', es⟩
  := by
  intro last hlast
  rw [hstatuses, h]
  apply hlast

/-- A section that tells the status it leaves. -/
theorem Section.tells_told {v : CStr} (hv : Agree e'.statuses (some v))
    (h : lcpOf b i es = some v) :
  Tells b ⟨i, n, e, e', es⟩
  := by
  intro last _
  rw [h]
  apply hv

/-- The status of an entry whose client is stopped is down. -/
theorem agree_stoppedEntry (e : DmlPppIfFull) :
  Agree (stoppedEntry b e).statuses (some down)
  := by
  have hdown : (stoppedEntry b e).statuses = (.down, .unconfigured) := by
    rw [stoppedEntry]
    split_ifs <;> rfl
  rw [hdown]
  constructor
  · rintro ⟨⟩
  · intro _ _ h
    apply up_ne_down (Option.some.inj h).symm

/-! ### Rules -/

/-- The rule of an operation that can be performed. -/
theorem sections_op {o : Op} {Q : o.Res → Option Section → Prop}
    (hsafe : o.SafeIn b (pppIfCountOf r).toNat A d)
    (h : ∀ x, o.MayBeTold r A x → ∃ v d', Section.step o x d = .ok (v, d') ∧ Q v d') :
  (sections b r A).wp (perform o) Q d
  := by
  rw [perform, Contract.wp_perform]
  use hsafe
  intro x hx
  obtain ⟨v, d', hstep, hQ⟩ := h x hx
  rw [show sectionMachine.step o x d = .ok (v, d') from hstep]
  apply hQ

/-- The thread enters a section. -/
theorem sections_enter {Q : Unit → Option Section → Prop} (hi : i < (pppIfCountOf r).toNat)
    (hQ : ∀ e : DmlPppIfFull, e.cfg.instanceNumber = i + 1 → Q () (some ⟨i, 0, e, e, []⟩)) :
  (sections b r A).wp (lock i) Q none
  := by
  apply sections_op (o := .lock i)
  · use hi
    rintro x ⟨⟩
  · intro x hx
    exact ⟨(), _, rfl, hQ x.found hx⟩

/-- The thread takes the mutex of its section again. -/
theorem sections_retake {Q : Unit → Option Section → Prop} (hi : i < (pppIfCountOf r).toNat)
    (hQ : Q () (some ⟨i, n + 1, e, e', es⟩)) :
  (sections b r A).wp (lock i) Q (some ⟨i, n, e, e', es⟩)
  := by
  apply sections_op (o := .lock i)
  · use hi
    rintro x ⟨⟩
    rfl
  · intro x _
    exact ⟨(), _, if_pos rfl, hQ⟩

/-- The thread gives the mutex of its section back, and leaves the section if it has not taken it
again. -/
theorem sections_release {Q : Unit → Option Section → Prop}
    (hchange : n = 0 → AnyChange b i e e' ∧ (A → Section.Tells b ⟨i, n, e, e', es⟩))
    (hQ : Q () (Section.leave ⟨i, n, e, e', es⟩)) :
  (sections b r A).wp (getIfaceDataRelease i) Q (some ⟨i, n, e, e', es⟩)
  := by
  apply sections_op (o := .unlock i)
  · exact ⟨_, rfl, rfl, hchange⟩
  · intro x _
    exact ⟨(), _, if_pos rfl, hQ⟩

theorem sections_load {Q : DmlPppIfFull → Option Section → Prop} (hi : i < (pppIfCountOf r).toNat)
    (hQ : Q e' (some ⟨i, n, e, e', es⟩)) :
  (sections b r A).wp (load i) Q (some ⟨i, n, e, e', es⟩)
  := by
  apply sections_op (o := .load i)
  · apply hi
  · intro x _
    refine ⟨_, _, rfl, ?_⟩
    rw [Section.seen, if_pos rfl]
    apply hQ

/-- The thread looks at an entry outside of a section. -/
theorem sections_look {Q : DmlPppIfFull → Option Section → Prop} (hi : i < (pppIfCountOf r).toNat)
    (hQ : ∀ e, Q e none) :
  (sections b r A).wp (load i) Q none
  := by
  apply sections_op (o := .load i)
  · apply hi
  · intro x _
    exact ⟨_, _, rfl, hQ _⟩

theorem sections_store {f : DmlPppIfFull → DmlPppIfFull} {Q : Unit → Option Section → Prop}
    (hQ : Q () (some ⟨i, n, e, f e', es⟩)) :
  (sections b r A).wp (store i f) Q (some ⟨i, n, e, e', es⟩)
  := by
  apply sections_op (o := .store i f)
  · exact ⟨_, rfl, rfl⟩
  · intro x _
    exact ⟨(), _, if_pos rfl, hQ⟩

/-- An operation that has nothing to do with sections. -/
theorem Op.IsApart.step {o : Op} (ho : o.IsApart) (x : o.Told) :
  Section.step o x d = .ok (x.result, d)
  := by
  cases o with
  | lock | unlock | load | store | mqSend => apply ho.elim
  | _ => rfl

theorem Op.IsApart.safeIn {o : Op} (ho : o.IsApart) (c : ℕ) :
  o.SafeIn b c A d
  := by
  cases o with
  | lock | unlock | load | store | mqSend => apply ho.elim
  | psmSet name value => apply ho
  | _ => trivial

/-- A program that has nothing to do with sections. -/
theorem sections_apart {p : Code α} (hp : Only Op.IsApart p) {Q : α → Option Section → Prop}
    (hQ : ∀ a, Q a d) :
  (sections b r A).wp p Q d
  := by
  have h : (sections b r A).wp p (fun _ d' => d' = d) d := by
    apply Contract.wp_of_only (P := Op.IsApart) (I := fun d' => d' = d) _ _ hp rfl
    · intro o d' ho _
      apply ho.safeIn
    · rintro o x d' ho - rfl
      rw [show sectionMachine.step o x d' = .ok (x.result, d') from ho.step x]
  apply Contract.wp_mono _ h
  rintro a d' rfl
  apply hQ

theorem Op.IsQuery.isApart {o : Op} (ho : o.IsQuery) :
  o.IsApart
  := by
  cases o <;> trivial

theorem sections_queries {p : Code α} (hp : Only Op.IsQuery p) {Q : α → Option Section → Prop}
    (hQ : ∀ a, Q a d) :
  (sections b r A).wp p Q d
  := sections_apart (hp.mono (fun _ => Op.IsQuery.isApart)) hQ

/-- Work on the entry of the section leaves it as it does by itself. -/
theorem sections_onEntry {W C : Prop} {p : Code α} (hp : Only (Op.OnEntry AnyWrite W C i) p)
    (hi : i < (pppIfCountOf r).toNat) {R : α → DmlPppIfFull → Prop} (h : onEntry.wp p R e')
    {Q : α → Option Section → Prop} (hQ : ∀ a e'', R a e'' → Q a (some ⟨i, n, e, e'', es⟩)) :
  (sections b r A).wp p Q (some ⟨i, n, e, e', es⟩)
  := by
  have hthrough : (sections b r A).wp p
      (fun a d => ∃ e'', d = some (Section.mk i n e e'' es) ∧ R a e'') (some ⟨i, n, e, e', es⟩) := by
    apply Contract.wp_through (P := Op.OnEntry AnyWrite W C i)
      (R := fun e'' d => d = some (Section.mk i n e e'' es)) _ _ hp rfl h
    · rintro o e'' d ho rfl
      cases o with
      | lock | unlock | mqSend => apply ho.elim
      | load j =>
          obtain rfl := ho
          apply hi
      | store j f =>
          obtain ⟨rfl, -⟩ := ho
          exact ⟨_, rfl, rfl⟩
      | psmSet name value => apply ho
      | _ => trivial
    · rintro o x e'' d ho rfl -
      cases o with
      | lock | unlock | mqSend => apply ho.elim
      | load j =>
          obtain rfl := ho
          have hseen : Section.seen j x.result (some ⟨j, n, e, e'', es⟩) = e'' := if_pos rfl
          refine ⟨e'', e'', trivial, ?_, rfl⟩
          rw [hseen]
          rfl
      | store j f =>
          obtain ⟨rfl, -⟩ := ho
          have hstep : sectionMachine.step (Op.store j f) x (some ⟨j, n, e, e'', es⟩) =
              .ok ((), some ⟨j, n, e, f e'', es⟩) := if_pos rfl
          rw [hstep]
          exact ⟨(), f e'', trivial, rfl, rfl⟩
      | _ => exact ⟨x.result, e'', trivial, rfl, rfl⟩
  apply Contract.wp_mono _ hthrough
  rintro a d ⟨e'', rfl, hR⟩
  apply hQ a e'' hR

/-! ### Calls -/

theorem apart_op {o : Op} (ho : o.IsApart) :
  Only Op.IsApart (perform o)
  := reads_op ho

/-- An event is sent outside of a section. -/
theorem sections_sendOutside {ev : PppEventQData} {Q : AnscStatus → Option Section → Prop}
    (hev : ev.WellFormed (pppIfCountOf r).toNat) (hof : A → ev.IsOf b none) (hQ : ∀ q, Q q none) :
  (sections b r A).wp (sendDataToQ ev) Q none
  := by
  rw [sendDataToQ, Contract.wp_bind]
  apply sections_apart (apart_op (o := .mqOpen) trivial)
  rintro (_ | _)
  · apply hQ
  · rw [if_pos rfl, Contract.wp_bind]
    apply sections_op (o := .mqSend ev) ⟨hev, hof⟩
    intro x _
    refine ⟨x.result, none, rfl, ?_⟩
    cases x.result <;> apply hQ

/-- An event is sent in a section. -/
theorem sections_sendDataToQ {ev : PppEventQData} {Q : AnscStatus → Option Section → Prop}
    (hev : ev.WellFormed (pppIfCountOf r).toNat) (hof : A → ev.IsOf b (some ⟨i, n, e, e', es⟩))
    (hQ : ∀ q es', (A → q = .success ∧ es' = es ++ [ev]) → Q q (some ⟨i, n, e, e', es'⟩)) :
  (sections b r A).wp (sendDataToQ ev) Q (some ⟨i, n, e, e', es⟩)
  := by
  rw [sendDataToQ, Contract.wp_bind]
  apply sections_op (o := .mqOpen) trivial
  rintro ⟨opened, found⟩ hopened
  refine ⟨opened, _, rfl, ?_⟩
  cases opened with
  | false =>
      apply hQ
      intro hA
      apply absurd (hopened hA) Bool.false_ne_true
  | true =>
      rw [if_pos rfl, Contract.wp_bind]
      apply sections_op (o := .mqSend ev) ⟨hev, hof⟩
      rintro ⟨sent, found⟩ hsent
      refine ⟨sent, _, rfl, ?_⟩
      cases sent with
      | false =>
          apply hQ
          intro hA
          apply absurd (hsent hA) Bool.false_ne_true
      | true =>
          apply hQ
          intro _
          exact ⟨rfl, rfl⟩

theorem wellFormed_busSetEvent {c : ℕ} {k : ℤ} {keyPath val : CStr} (hk : 0 < k ∧ k ≤ c) :
  (busSetEvent k keyPath val).WellFormed c
  where
    pos := hk.1
    le := hk.2
    paths := by
      intro _
      refine ⟨?_, ?_, ?_⟩ <;> apply Option.some_ne_none
    noKey := fun h => absurd rfl h

/-- An event that tells the WAN manager a status of the instance `k`. -/
theorem sections_sendStatus {k : ℤ} {keyPath val : CStr} {Q : AnscStatus → Option Section → Prop}
    (hk : 0 < k ∧ k ≤ (pppIfCountOf r).toNat)
    (hof : A → keyPath = pppLcpStatusParamName b → k = (i + 1 : ℕ))
    (hQ : ∀ q es', (A → q = .success ∧ es' = es ++ [busSetEvent k keyPath val]) →
      Q q (some ⟨i, n, e, e', es'⟩)) :
  (sections b r A).wp (sendDataToQ (busSetEvent k keyPath val)) Q (some ⟨i, n, e, e', es⟩)
  := by
  apply sections_sendDataToQ (wellFormed_busSetEvent hk) _ hQ
  intro hA hkey
  exact ⟨_, rfl, hof hA (Option.some.inj hkey)⟩

/-- A status that is told outside of a section. -/
theorem sections_sendStatusOutside {k : ℤ} {keyPath val : CStr}
    {Q : AnscStatus → Option Section → Prop} (hk : 0 < k ∧ k ≤ (pppIfCountOf r).toNat)
    (hof : A → keyPath ≠ pppLcpStatusParamName b) (hQ : ∀ q, Q q none) :
  (sections b r A).wp (sendDataToQ (busSetEvent k keyPath val)) Q none
  := by
  apply sections_sendOutside (wellFormed_busSetEvent hk) _ hQ
  intro hA hkey
  apply absurd (Option.some.inj hkey) (hof hA)

/-- An event that starts the client of the instance `k`. -/
theorem sections_sendExec {k : ℤ} {Q : AnscStatus → Option Section → Prop}
    (hk : 0 < k ∧ k ≤ (pppIfCountOf r).toNat)
    (hQ : ∀ q es', (A → q = .success ∧ es' = es ++ [execEvent k]) →
      Q q (some ⟨i, n, e, e', es'⟩)) :
  (sections b r A).wp (sendDataToQ (execEvent k)) Q (some ⟨i, n, e, e', es⟩)
  := by
  apply sections_sendDataToQ _ _ hQ
  · constructor
    · apply hk.1
    · apply hk.2
    · rintro ⟨⟩
    · intro _
      rfl
  · rintro - ⟨⟩

/-- The number of interfaces a thread is told is 0 or that of the record. -/
theorem sections_total {Q : ULong → Option Section → Prop}
    (hQ : ∀ total : ULong, total.toNat ≤ (pppIfCountOf r).toNat → Q total d) :
  (sections b r A).wp dmlGetTotalNoOfPPPInterfaces Q d
  := by
  have hnone : Q (ULong.ofLong 0) d := hQ _ (Nat.zero_le _)
  rw [dmlGetTotalNoOfPPPInterfaces, getNumOfInstance, Contract.wp_bind, Contract.wp_bind]
  apply sections_op (o := .psmGet psmPppManagerPppIfCount) trivial
  intro x hx
  refine ⟨x.result, d, rfl, ?_⟩
  rcases hx rfl with h | h
  · rw [h]
    apply hnone
  · rw [h]
    cases r with
    | none => apply hnone
    | some paramValue => apply hQ _ (Nat.le_refl _)

/-- `PppMgr_GetIfaceData_locked` outside of a section. -/
theorem sections_getIfaceDataLocked {Q : Option ℕ → Option Section → Prop} (hnone : Q none none)
    (hsome : ∀ i (e : DmlPppIfFull), n = i + 1 → i < (pppIfCountOf r).toNat →
      e.cfg.instanceNumber = i + 1 → Q (some i) (some ⟨i, 0, e, e, []⟩)) :
  (sections b r A).wp (getIfaceDataLocked n) Q none
  := by
  rw [getIfaceDataLocked]
  cases n with
  | zero => apply hnone
  | succ i =>
      rw [if_neg (Nat.succ_ne_zero i), Contract.wp_bind]
      apply sections_total
      intro total htotal
      split_ifs with hcount
      · apply hnone
      · rw [Contract.wp_bind, Nat.add_sub_cancel]
        have hi := Nat.lt_of_lt_of_le (Nat.not_lt.mp hcount) htotal
        apply sections_enter hi
        intro e he
        apply hsome i e rfl hi he

/-- `PppMgr_GetIfaceData_locked` in a section of the instance. -/
theorem sections_getIfaceDataLocked_again {Q : Option ℕ → Option Section → Prop}
    (hi : i < (pppIfCountOf r).toNat) (hnone : Q none (some ⟨i, n, e, e', es⟩))
    (hsome : Q (some i) (some ⟨i, n + 1, e, e', es⟩)) :
  (sections b r A).wp (getIfaceDataLocked (i + 1)) Q (some ⟨i, n, e, e', es⟩)
  := by
  rw [getIfaceDataLocked, if_neg (Nat.succ_ne_zero i), Contract.wp_bind]
  apply sections_total
  intro total _
  split_ifs
  · apply hnone
  · rw [Contract.wp_bind, Nat.add_sub_cancel]
    apply sections_retake hi
    apply hsome

/-! ### Requests -/

/-- An entry that is left as it is. -/
theorem anyChange_self (e : DmlPppIfFull) :
  AnyChange b i e e
  := .data e .kept

/-- The part of `PppMgr_StopPppClient` in which the WAN manager is told. -/
def tellStopped (b : Build) (instanceNumber : ℕ) : Code AnscStatus := do
  let _ ← setLinkStatusDown b (toInt instanceNumber)
  let _ ← setIPCPStatusDown b (toInt instanceNumber)
  let _ ← setIPv6CPStatusDown b (toInt instanceNumber)
  pure .success

/-- The part of `PppMgr_StopPppClient` in which the entry is found. -/
def stopFound (b : Build) (instanceNumber i : ℕ) : Code AnscStatus := do
  store i (·.setBEnabled false)
  stopClient b i
  store i (·.resetSession)
  getIfaceDataRelease i
  tellStopped b instanceNumber

theorem stopPppClient_eq_stopFound (b : Build) (n : ℕ) :
  stopPppClient b n = (do
    match ← getIfaceDataLocked n with
    | none => pure .failure
    | some i => stopFound b n i)
  := rfl

/-- The section is left, and a status is returned. -/
theorem sections_done {q : AnscStatus} {Q : AnscStatus → Option Section → Prop}
    (hchange : AnyChange b i e e') (htells : A → Section.Tells b ⟨i, 0, e, e', es⟩)
    (hQ : ∀ q, Q q none) :
  (sections b r A).wp (do getIfaceDataRelease i; pure q) Q (some ⟨i, 0, e, e', es⟩)
  := by
  rw [Contract.wp_bind]
  apply sections_release (fun _ => ⟨hchange, htells⟩)
  apply hQ

theorem sections_stopClient {Q : Unit → Option Section → Prop} (hi : i < (pppIfCountOf r).toNat)
    (hQ : Q () (some ⟨i, n, e, if b.usePppDaemon then e'.setPppPid 0 else e', es⟩)) :
  (sections b r A).wp (stopClient b i) Q (some ⟨i, n, e, e', es⟩)
  := by
  rw [stopClient]
  split_ifs at hQ ⊢ with hb
  · rw [Contract.wp_bind]
    apply sections_load hi
    rw [Contract.wp_bind, stopPppProcess, Contract.wp_bind]
    apply sections_apart (apart_op (o := .kill _) trivial)
    intro _
    rw [Contract.wp_pure]
    apply sections_store
    apply hQ
  · rw [Contract.wp_bind, stopPppoe, Contract.wp_bind]
    apply sections_apart (apart_op (o := .system _) trivial)
    intro _
    apply hQ

theorem sections_stopFound {Q : AnscStatus → Option Section → Prop}
    (hi : i < (pppIfCountOf r).toNat) (hchange : n = 0 → AnyChange b i e (stoppedEntry b e') ∧
      (A → Section.Tells b ⟨i, n, e, stoppedEntry b e', es⟩))
    (htell : (sections b r A).wp (tellStopped b (i + 1)) Q
      (Section.leave ⟨i, n, e, stoppedEntry b e', es⟩)) :
  (sections b r A).wp (stopFound b (i + 1) i) Q (some ⟨i, n, e, e', es⟩)
  := by
  rw [stopFound, Contract.wp_bind]
  apply sections_store
  rw [Contract.wp_bind]
  apply sections_stopClient hi
  rw [Contract.wp_bind]
  apply sections_store
  rw [Contract.wp_bind]
  have hentry : ((if b.usePppDaemon then (e'.setBEnabled false).setPppPid 0
      else e'.setBEnabled false).resetSession) = stoppedEntry b e' := rfl
  rw [hentry]
  apply sections_release hchange htell

/-- The number of an entry that is there, as an `int`. -/
theorem inRange_succ (hc : (pppIfCountOf r).toNat ≤ pppTableLength)
    (hi : i < (pppIfCountOf r).toNat) :
  0 < toInt (i + 1 : ℕ) ∧ toInt (i + 1 : ℕ) ≤ (pppIfCountOf r).toNat
  := by
  rw [toInt_eq (Nat.le_trans hi hc)]
  omega

/-- A stop outside of a section, which tells the LCP status after its section. -/
theorem sections_stopPppClient {Q : AnscStatus → Option Section → Prop} (hA : ¬ A)
    (hc : (pppIfCountOf r).toNat ≤ pppTableLength) (hQ : ∀ q, Q q none) :
  (sections b r A).wp (stopPppClient b n) Q none
  := by
  have hany : ∀ {P : Prop}, A → P := fun h => absurd h hA
  rw [stopPppClient_eq_stopFound, Contract.wp_bind]
  apply sections_getIfaceDataLocked
  · apply hQ
  · rintro i e rfl hi _
    have hpos := inRange_succ hc hi
    apply sections_stopFound hi (fun _ => ⟨.stopped, hany⟩)
    rw [tellStopped, Contract.wp_bind]
    apply sections_sendStatusOutside hpos hany
    intro _
    rw [Contract.wp_bind]
    apply sections_sendStatusOutside hpos hany
    intro _
    rw [Contract.wp_bind]
    apply sections_sendStatusOutside hpos hany
    intro _
    apply hQ

/-- A stop in a section of the interface, which tells the LCP status. -/
theorem sections_stopPppClient_again {Q : AnscStatus → Option Section → Prop}
    (hc : (pppIfCountOf r).toNat ≤ pppTableLength) (hi : i < (pppIfCountOf r).toNat)
    (hfailed : Q .failure (some ⟨i, n, e, e', es⟩))
    (hstopped : ∀ es', (A → Section.lcpOf b i es' = some down) →
      Q .success (some ⟨i, n, e, stoppedEntry b e', es'⟩)) :
  (sections b r A).wp (stopPppClient b (i + 1)) Q (some ⟨i, n, e, e', es⟩)
  := by
  rw [stopPppClient_eq_stopFound, Contract.wp_bind]
  apply sections_getIfaceDataLocked_again hi
  · apply hfailed
  · have hpos := inRange_succ hc hi
    apply sections_stopFound hi (fun h => absurd h (Nat.succ_ne_zero n))
    rw [tellStopped, Contract.wp_bind]
    have hnumber : toInt (i + 1 : ℕ) = (i + 1 : ℕ) := toInt_eq (Nat.le_trans hi hc)
    apply sections_sendStatus hpos (fun _ _ => hnumber)
    intro _ es₁ hes₁
    rw [Contract.wp_bind]
    apply sections_sendStatus hpos (fun _ _ => hnumber)
    intro _ es₂ hes₂
    rw [Contract.wp_bind]
    apply sections_sendStatus hpos (fun _ _ => hnumber)
    intro _ es₃ hes₃
    apply hstopped
    intro hA
    rw [(hes₃ hA).2, lcpOf_of_key pppIpv6cpStatusParamName_ne, (hes₂ hA).2,
      lcpOf_of_key pppIpcpStatusParamName_ne, (hes₁ hA).2, hnumber, lcpOf_lcp (.inr rfl)]

/-- The part of `PppMgr_SendPppdStartEventToQ` in which the entry is found. -/
def enqueueFound (i : ℕ) : Code AnscStatus := do
  let pEntry ← load i
  match ← sendDataToQ (execEvent (toInt pEntry.cfg.instanceNumber)) with
  | .failure =>
    getIfaceDataRelease i
    pure .failure
  | .success =>
    store i (·.setBEnabled true)
    getIfaceDataRelease i
    pure .success

theorem sendPppdStartEventToQ_eq_enqueueFound (n : ℕ) :
  sendPppdStartEventToQ n = (do
    match ← getIfaceDataLocked n with
    | none => pure .failure
    | some i => enqueueFound i)
  := rfl

/-- The number an entry is found with, as an `int`. -/
theorem inRange_instanceNumber (hc : (pppIfCountOf r).toNat ≤ pppTableLength)
    (hi : i < (pppIfCountOf r).toNat) (he : e.cfg.instanceNumber = i + 1) :
  0 < toInt e.cfg.instanceNumber ∧ toInt e.cfg.instanceNumber ≤ (pppIfCountOf r).toNat
  := by
  rw [he, toInt_eq (Nat.le_trans hi hc)]
  omega

theorem sections_enqueueFound {Q : AnscStatus → Option Section → Prop}
    (hc : (pppIfCountOf r).toNat ≤ pppTableLength) (hi : i < (pppIfCountOf r).toNat)
    (he' : e'.cfg.instanceNumber = i + 1)
    (hfailed : ∀ es', (A → es' = es) → (sections b r A).wp
      (do getIfaceDataRelease i; pure .failure) Q (some ⟨i, n, e, e', es'⟩))
    (hposted : ∀ es', (A → Section.lcpOf b i es' = Section.lcpOf b i es) → (sections b r A).wp
      (do getIfaceDataRelease i; pure .success) Q (some ⟨i, n, e, e'.setBEnabled true, es'⟩)) :
  (sections b r A).wp (enqueueFound i) Q (some ⟨i, n, e, e', es⟩)
  := by
  have hpos := inRange_instanceNumber hc hi he'
  rw [enqueueFound, Contract.wp_bind]
  apply sections_load hi
  rw [Contract.wp_bind]
  apply sections_sendExec hpos
  rintro (_ | _) es' hes'
  · rw [Contract.wp_bind]
    apply sections_store
    apply hposted
    intro hA
    rw [(hes' hA).2, lcpOf_exec]
  · apply hfailed
    intro hA
    cases (hes' hA).1

/-- A start request outside of a section. -/
theorem sections_sendPppdStartEventToQ {Q : AnscStatus → Option Section → Prop}
    (hc : (pppIfCountOf r).toNat ≤ pppTableLength) (hQ : ∀ q, Q q none) :
  (sections b r A).wp (sendPppdStartEventToQ n) Q none
  := by
  rw [sendPppdStartEventToQ_eq_enqueueFound, Contract.wp_bind]
  apply sections_getIfaceDataLocked
  · apply hQ
  · rintro i e rfl hi he
    apply sections_enqueueFound hc hi he
    · intro es' hes'
      apply sections_done (anyChange_self e) _ hQ
      intro hA
      rw [hes' hA]
      apply Section.tells_quiet rfl rfl
    · intro es' hes'
      apply sections_done .enabled _ hQ
      intro hA
      apply Section.tells_quiet (n := 0) rfl (hes' hA)

/-- A start request in a section of the interface. -/
theorem sections_sendPppdStartEventToQ_again {Q : AnscStatus → Option Section → Prop}
    (hc : (pppIfCountOf r).toNat ≤ pppTableLength) (hi : i < (pppIfCountOf r).toNat)
    (he' : e'.cfg.instanceNumber = i + 1)
    (hfailed : ∀ es', (A → es' = es) → Q .failure (some ⟨i, n, e, e', es'⟩))
    (hposted : ∀ es', (A → Section.lcpOf b i es' = Section.lcpOf b i es) →
      Q .success (some ⟨i, n, e, e'.setBEnabled true, es'⟩)) :
  (sections b r A).wp (sendPppdStartEventToQ (i + 1)) Q (some ⟨i, n, e, e', es⟩)
  := by
  rw [sendPppdStartEventToQ_eq_enqueueFound, Contract.wp_bind]
  apply sections_getIfaceDataLocked_again hi
  · apply hfailed es (fun _ => rfl)
  · apply sections_enqueueFound hc hi he'
    · intro es' hes'
      rw [Contract.wp_bind]
      apply sections_release (fun h => absurd h (Nat.succ_ne_zero n))
      apply hfailed es' hes'
    · intro es' hes'
      rw [Contract.wp_bind]
      apply sections_release (fun h => absurd h (Nat.succ_ne_zero n))
      apply hposted es' hes'

/-- `PppMgr_EnableIf` outside of a section. -/
theorem sections_enableIf {enable : Bool} {Q : Bool → Option Section → Prop} (hA : ¬ A)
    (hc : (pppIfCountOf r).toNat ≤ pppTableLength) (hQ : ∀ q, Q q none) :
  (sections b r A).wp (enableIf b n enable) Q none
  := by
  rw [enableIf]
  split_ifs
  · rw [Contract.wp_bind]
    apply sections_sendPppdStartEventToQ hc
    rintro (_ | _) <;> apply hQ
  · rw [Contract.wp_bind]
    apply sections_stopPppClient hA hc
    rintro (_ | _) <;> apply hQ

/-- `PppDmlIfReset` outside of a section. -/
theorem sections_pppDmlIfReset {Q : Bool → Option Section → Prop} (hA : ¬ A)
    (hc : (pppIfCountOf r).toNat ≤ pppTableLength) (hQ : ∀ q, Q q none) :
  (sections b r A).wp (pppDmlIfReset b n) Q none
  := by
  rw [pppDmlIfReset, Contract.wp_bind]
  apply sections_stopPppClient hA hc
  rintro (_ | _)
  · rw [Contract.wp_bind]
    apply sections_sendPppdStartEventToQ hc
    rintro (_ | _) <;> apply hQ
  · apply hQ

end

end PppManager
