import PppManager.Effect.Views
import PppManager.Manager.Deadlock
import PppManager.Manager.SectionPoints
import PppManager.Manager.Connected

/-!
# Interleavings

The data-model thread and the event thread are at work together: each is at any entry point of its
own, and their operations, the single reads and writes, interleave in any order.

As no thread leaves a section but with a change of `EntryChange`, the entries whose mutexes are free
have come about by such changes, one after another (`sections_atomic`).
-/

namespace PppManager

open Effect Effect.Program Function CText

/-! ### The two threads at their entry points -/

/-- What a thread runs at an entry point of its own. -/
def enters (b : Build) (t : Thread) (p : EntryPoint) (s : Sys) : Option (Code Unit × Sys) :=
  if p.thread = t then some (p.code b, s) else none

/-- A move of one of the threads. -/
abbrev PointMove := Move machine EntryPoint

/-- The threads after a move. -/
def Threads.go (b : Build) : PointMove → Threads → Option Threads :=
  Pool.next (enters b)

/-- An entry point that is begun is called with the handle of one of the first `c` entries, if with
any. -/
def HandledBelow (c : ℕ) : PointMove → Prop
  | .enter _ p => p.HandledBelow c
  | .perform _ _ => True

/-- The section of a thread is as the state has it, where `g` gives each entry as the last section of
it has left it, and under the condition `A` the WAN manager was told last what has been told in the
section, or else what agrees with the status that was found. -/
structure HeldFits (b : Build) (A : Prop) (g : ℕ → DmlPppIfFull) (s : Sys) (t : Thread)
    (x : Section) : Prop where
  locks : s.locks x.index = List.replicate (x.again + 1) t
  entry : s.table x.index = x.entry
  found : g x.index = x.found
  telling : A → ∃ last, Agree x.found.statuses last ∧
    lastLcp b (x.index + 1 : ℕ) s.acts = (Section.lcpOf b x.index x.sent).or last

/-- An entry that is in no section is as its last section has left it, and under the condition `A` the
WAN manager was told last what agrees with its status. -/
structure FreeFits (b : Build) (A : Prop) (g : ℕ → DmlPppIfFull) (s : Sys) (i : ℕ) : Prop where
  locks : s.locks i = []
  entry : s.table i = g i
  told : A → Agree (g i).statuses (lastLcp b (i + 1 : ℕ) s.acts)

/-- What the threads know fits the state, where `r` is the record of the number of interfaces, and `g`
gives each entry as the last section of it has left it. -/
structure SectionsFit (b : Build) (A : Prop) (r : Option CStr) (g : ℕ → DmlPppIfFull)
    (v : Thread → Option Section) (s : Sys) : Prop where
  below : ∀ t x, v t = some x → x.index < (pppIfCountOf r).toNat
  held : ∀ t x, v t = some x → HeldFits b A g s t x
  free : ∀ i, (∀ t x, v t = some x → x.index ≠ i) → FreeFits b A g s i
  number : ∀ i < (pppIfCountOf r).toNat, (g i).cfg.instanceNumber = i + 1
  record : s.psm psmPppManagerPppIfCount = r
  posts : ∀ ev, Act.post ev ∈ s.acts → ev.WellFormed (pppIfCountOf r).toNat

section

variable {b : Build} {A : Prop} {g g' : ℕ → DmlPppIfFull} {s s' : Sys} {t : Thread} {x : Section}
  {i : ℕ}

/-- A section fits where its entry, its mutex and what is told of it are as before. -/
theorem HeldFits.congr (h : HeldFits b A g s t x) (hlocks : s'.locks x.index = s.locks x.index)
    (htable : s'.table x.index = s.table x.index) (hg : g' x.index = g x.index)
    (hlcp : A → lastLcp b (x.index + 1 : ℕ) s'.acts = lastLcp b (x.index + 1 : ℕ) s.acts) :
  HeldFits b A g' s' t x
  where
    locks := hlocks.trans h.locks
    entry := htable.trans h.entry
    found := hg.trans h.found
    telling := by
      intro hA
      rw [hlcp hA]
      apply h.telling hA

/-- An entry in no section fits where it, its mutex and what is told of it are as before. -/
theorem FreeFits.congr (h : FreeFits b A g s i) (hlocks : s'.locks i = s.locks i)
    (htable : s'.table i = s.table i) (hg : g' i = g i)
    (hlcp : A → lastLcp b (i + 1 : ℕ) s'.acts = lastLcp b (i + 1 : ℕ) s.acts) :
  FreeFits b A g' s' i
  where
    locks := hlocks.trans h.locks
    entry := htable.trans (h.entry.trans hg.symm)
    told := by
      intro hA
      rw [hlcp hA, hg]
      apply h.told hA

end

namespace SectionsFit

variable {b : Build} {A : Prop} {r : Option CStr} {g : ℕ → DmlPppIfFull}
  {v : Thread → Option Section} {s s' : Sys} {t : Thread} {i : ℕ} {x : Section}

/-- What changes no entry, no mutex and not the record, and tells no LCP status. -/
theorem congr (h : SectionsFit b A r g v s) (s' : Sys) (htable : s'.table = s.table)
    (hlocks : s'.locks = s.locks)
    (hrecord : s'.psm psmPppManagerPppIfCount = s.psm psmPppManagerPppIfCount)
    (hposts : ∀ ev, Act.post ev ∈ s'.acts → ev.WellFormed (pppIfCountOf r).toNat)
    (hlcp : A → ∀ n, lastLcp b n s'.acts = lastLcp b n s.acts) :
  SectionsFit b A r g v s'
  where
    below := h.below
    held := fun t x hx => (h.held t x hx).congr (congrFun hlocks _) (congrFun htable _) rfl
      (fun hA => hlcp hA _)
    free := fun i hi => (h.free i hi).congr (congrFun hlocks _) (congrFun htable _) rfl
      (fun hA => hlcp hA _)
    number := h.number
    record := hrecord.trans h.record
    posts := hposts

/-- The thread that holds the mutex of a section. -/
theorem owner (h : SectionsFit b A r g v s) (hx : v t = some x) {u : Thread} :
  u ∈ s.locks x.index ↔ u = t
  := by
  rw [(h.held t x hx).locks, List.mem_replicate]
  apply and_iff_right (Nat.succ_ne_zero _)

/-- Two threads are in sections of different entries. -/
theorem index_ne (h : SectionsFit b A r g v s) {u : Thread} {y : Section} (hx : v t = some x)
    (hy : v u = some y) (hu : u ≠ t) :
  y.index ≠ x.index
  := by
  intro hindex
  apply hu
  apply (h.owner hx).mp
  rw [← hindex]
  apply (h.owner hy).mpr rfl

/-- A thread changes what it knows, its entry and mutex, and what is told of its interface only. -/
theorem update (h : SectionsFit b A r g v s) {d : Option Section} {g' : ℕ → DmlPppIfFull}
    (hown : ∀ u x, u ≠ t → v u = some x → x.index ≠ i)
    (hnow : ∀ x ∈ v t, x.index = i)
    (hbelow : i < (pppIfCountOf r).toNat)
    (hsome : ∀ x ∈ d, x.index = i ∧ HeldFits b A g' s' t x)
    (hnone : d = none → FreeFits b A g' s' i)
    (hlocks : ∀ j, j ≠ i → s'.locks j = s.locks j) (htable : ∀ j, j ≠ i → s'.table j = s.table j)
    (hg : ∀ j, j ≠ i → g' j = g j) (hnumber : (g' i).cfg.instanceNumber = i + 1)
    (hrecord : s'.psm psmPppManagerPppIfCount = s.psm psmPppManagerPppIfCount)
    (hlcp : A → ∀ j, j ≠ i → lastLcp b (j + 1 : ℕ) s'.acts = lastLcp b (j + 1 : ℕ) s.acts)
    (hposts : ∀ ev, Act.post ev ∈ s'.acts → ev.WellFormed (pppIfCountOf r).toNat) :
  SectionsFit b A r g' (Function.update v t d) s'
  := by
  have hview : ∀ u x, Function.update v t d u = some x →
      u = t ∧ x ∈ d ∨ v u = some x ∧ x.index ≠ i := by
    intro u x hx
    by_cases hu : u = t
    · obtain rfl := hu
      rw [update_self] at hx
      exact .inl ⟨rfl, hx⟩
    · rw [update_of_ne hu] at hx
      exact .inr ⟨hx, hown u x hu hx⟩
  constructor
  · intro u x hx
    rcases hview u x hx with ⟨rfl, hd⟩ | ⟨hv, -⟩
    · rw [(hsome x hd).1]
      apply hbelow
    · apply h.below u x hv
  · intro u x hx
    rcases hview u x hx with ⟨rfl, hd⟩ | ⟨hv, hne⟩
    · apply (hsome x hd).2
    · apply (h.held u x hv).congr (hlocks _ hne) (htable _ hne) (hg _ hne)
      intro hA
      apply hlcp hA _ hne
  · intro j hj
    by_cases hji : j = i
    · obtain rfl := hji
      apply hnone
      cases d with
      | none => rfl
      | some x => apply absurd (hsome x rfl).1 (hj t x (update_self _ _ _))
    · have hfree : FreeFits b A g s j := by
        apply h.free j
        intro u x hx
        by_cases hu : u = t
        · obtain rfl := hu
          rw [hnow x hx]
          apply Ne.symm hji
        · apply hj u x
          rw [update_of_ne hu]
          apply hx
      apply hfree.congr (hlocks j hji) (htable j hji) (hg j hji)
      intro hA
      apply hlcp hA j hji
  · intro j hj
    by_cases hji : j = i
    · obtain rfl := hji
      apply hnumber
    · rw [hg j hji]
      apply h.number j hj
  · apply hrecord.trans h.record
  · apply hposts

/-- A thread enters a section. -/
theorem enter (h : SectionsFit b A r g v s) (hv : v t = none) (hi : i < (pppIfCountOf r).toNat)
    (hfree : ∀ t' ∈ s.locks i, t' = t) :
  SectionsFit b A r g (Function.update v t (some ⟨i, 0, g i, g i, []⟩))
    (s.setLock i (t :: s.locks i))
  := by
  have hown : ∀ u x, v u = some x → x.index ≠ i := by
    rintro u x hx rfl
    obtain rfl := hfree u ((h.owner hx).mpr rfl)
    rw [hv] at hx
    cases hx
  obtain ⟨hlocks, htable, htold⟩ := h.free i hown
  apply h.update (i := i)
  · intro u x _
    apply hown
  · intro x hx
    rw [hv] at hx
    cases hx
  · apply hi
  · rintro x ⟨⟩
    refine ⟨rfl, ?_, htable, rfl, ?_⟩
    · rw [Sys.setLock_locks, update_self, hlocks]
      rfl
    · intro hA
      exact ⟨_, htold hA, rfl⟩
  · rintro ⟨⟩
  · intro j hj
    apply update_of_ne hj
  · intro j _
    rfl
  · intro j _
    rfl
  · apply h.number i hi
  · rfl
  · intro _ j _
    rfl
  · apply h.posts

/-- A thread takes the mutex of its section again. -/
theorem retake (h : SectionsFit b A r g v s) (hx : v t = some x) :
  SectionsFit b A r g (Function.update v t (some x.retake))
    (s.setLock x.index (t :: s.locks x.index))
  := by
  apply h.update (i := x.index)
  · intro u y hu hy
    apply h.index_ne hx hy hu
  · intro y hy
    obtain rfl := Option.some.inj (hx.symm.trans hy)
    rfl
  · apply h.below t x hx
  · rintro y ⟨⟩
    obtain ⟨hlocks, hentry, hfound, htelling⟩ := h.held t x hx
    refine ⟨rfl, ?_, hentry, hfound, htelling⟩
    rw [Sys.setLock_locks, hlocks]
    apply update_self
  · rintro ⟨⟩
  · intro j hj
    apply update_of_ne hj
  · intro j _
    rfl
  · intro j _
    rfl
  · apply h.number _ (h.below t x hx)
  · rfl
  · intro _ j _
    rfl
  · apply h.posts

/-- A thread gives the mutex of its section back, and leaves the section if it has not taken it
again. -/
theorem leave (h : SectionsFit b A r g v s) (hx : v t = some x)
    (hchange : x.again = 0 → AnyChange b x.index x.found x.entry ∧ (A → x.Tells b)) :
  ∃ g', (g' = g ∨ ∃ i e, AnyChange b i (g i) e ∧ g' = Function.update g i e) ∧
    SectionsFit b A r g' (Function.update v t x.leave)
      (s.setLock x.index (List.replicate x.again t))
  := by
  obtain ⟨i, again, found, entry, sent⟩ := x
  obtain ⟨-, hentry, hfound, htelling⟩ := h.held t _ hx
  have hnumber := h.number i (h.below t _ hx)
  have hown : ∀ u y, u ≠ t → v u = some y → y.index ≠ i := by
    intro u y hu hy
    apply h.index_ne hx hy hu
  have hnow : ∀ y ∈ v t, y.index = i := by
    intro y hy
    obtain rfl := Option.some.inj (hx.symm.trans hy)
    rfl
  dsimp only at hfound hentry htelling
  cases again with
  | zero =>
      obtain ⟨hg, htells⟩ := hchange rfl
      dsimp only at hg
      refine ⟨Function.update g i entry, .inr ⟨i, entry, ?_, rfl⟩, ?_⟩
      · rw [hfound]
        apply hg
      · rw [show Section.leave ⟨i, 0, found, entry, sent⟩ = none from rfl]
        apply h.update hown hnow (h.below t _ hx)
        · rintro y ⟨⟩
        · intro _
          refine ⟨update_self _ _ _, ?_, ?_⟩
          · rw [update_self]
            apply hentry
          · intro hA
            obtain ⟨last, hlast, hlcp⟩ := htelling hA
            rw [update_self, Sys.setLock_acts, hlcp]
            apply htells hA last hlast
        · intro j hj
          apply update_of_ne hj
        · intro j _
          rfl
        · intro j hj
          apply update_of_ne hj
        · rw [update_self]
          rcases hg.instanceNumber with hkept | hnew
          · rw [hkept, ← hfound, hnumber]
          · apply hnew
        · rfl
        · intro _ j _
          rfl
        · apply h.posts
  | succ n =>
      refine ⟨g, .inl rfl, ?_⟩
      rw [show Section.leave ⟨i, n + 1, found, entry, sent⟩ =
        some ⟨i, n, found, entry, sent⟩ from rfl]
      apply h.update hown hnow (h.below t _ hx)
      · rintro y ⟨⟩
        exact ⟨rfl, update_self _ _ _, hentry, hfound, htelling⟩
      · rintro ⟨⟩
      · intro j hj
        apply update_of_ne hj
      · intro j _
        rfl
      · intro j _
        rfl
      · apply hnumber
      · rfl
      · intro _ j _
        rfl
      · apply h.posts

/-- A thread writes to the entry of its section. -/
theorem store (h : SectionsFit b A r g v s) (hx : v t = some x) (f : DmlPppIfFull → DmlPppIfFull) :
  SectionsFit b A r g (Function.update v t (some (x.write f)))
    (s.setEntry x.index (f (s.table x.index)))
  := by
  apply h.update (i := x.index)
  · intro u y hu hy
    apply h.index_ne hx hy hu
  · intro y hy
    obtain rfl := Option.some.inj (hx.symm.trans hy)
    rfl
  · apply h.below t x hx
  · rintro y ⟨⟩
    obtain ⟨hlocks, hentry, hfound, htelling⟩ := h.held t x hx
    refine ⟨rfl, hlocks, ?_, hfound, htelling⟩
    rw [Sys.setEntry_table, hentry]
    apply update_self
  · rintro ⟨⟩
  · intro j _
    rfl
  · intro j hj
    apply update_of_ne hj
  · intro j _
    rfl
  · apply h.number _ (h.below t x hx)
  · rfl
  · intro _ j _
    rfl
  · apply h.posts

/-- The events that are posted, after one more. -/
theorem posts_concat (h : SectionsFit b A r g v s) {ev ev' : PppEventQData}
    (hev : ev.WellFormed (pppIfCountOf r).toNat) (hev' : Act.post ev' ∈ s.acts ++ [.post ev]) :
  ev'.WellFormed (pppIfCountOf r).toNat
  := by
  rw [List.mem_append, List.mem_singleton] at hev'
  rcases hev' with hold | hnew
  · apply h.posts ev' hold
  · obtain rfl := Act.post.inj hnew
    apply hev

/-- A thread posts an event outside of a section. -/
theorem postOutside (h : SectionsFit b A r g v s) {ev : PppEventQData}
    (hev : ev.WellFormed (pppIfCountOf r).toNat) (hof : A → ev.IsOf b none) :
  SectionsFit b A r g v (s.post ev)
  := by
  apply h.congr (s.post ev) rfl rfl rfl
  · intro ev' hev'
    apply h.posts_concat hev hev'
  · intro hA n
    rw [Sys.post_acts, lastLcp_concat, lcpValue, if_neg]
    · rfl
    · rintro ⟨hkey, -⟩
      obtain ⟨x, ⟨⟩, -⟩ := hof hA hkey

/-- A thread posts an event in a section. -/
theorem post (h : SectionsFit b A r g v s) (hx : v t = some x) {ev : PppEventQData}
    (hev : ev.WellFormed (pppIfCountOf r).toNat) (hof : A → ev.IsOf b (some x)) :
  SectionsFit b A r g (Function.update v t (some (x.send ev true))) (s.post ev)
  := by
  apply h.update (i := x.index)
  · intro u y hu hy
    apply h.index_ne hx hy hu
  · intro y hy
    obtain rfl := Option.some.inj (hx.symm.trans hy)
    rfl
  · apply h.below t x hx
  · rintro y ⟨⟩
    obtain ⟨hlocks, hentry, hfound, htelling⟩ := h.held t x hx
    refine ⟨rfl, hlocks, hentry, hfound, ?_⟩
    intro hA
    obtain ⟨last, hlast, hlcp⟩ := htelling hA
    refine ⟨last, hlast, ?_⟩
    rw [Sys.post_acts, lastLcp_concat]
    rw [show x.send ev true = { x with sent := x.sent ++ [ev] } from rfl]
    dsimp only
    rw [lcpOf_concat, Option.or_assoc, hlcp]
  · rintro ⟨⟩
  · intro j _
    rfl
  · intro j _
    rfl
  · intro j _
    rfl
  · apply h.number _ (h.below t x hx)
  · rfl
  · intro hA j hj
    rw [Sys.post_acts, lastLcp_concat, lcpValue, if_neg]
    · rfl
    · rintro ⟨hkey, hinst⟩
      obtain ⟨y, ⟨⟩, hy⟩ := hof hA hkey
      apply hj
      rw [hinst] at hy
      omega
  · intro ev' hev'
    apply h.posts_concat hev hev'

/-- An act that is no post. -/
theorem emit (h : SectionsFit b A r g v s) {a : Act} (ha : ∀ ev, a ≠ .post ev) :
  SectionsFit b A r g v (s.emit a)
  := by
  apply h.congr (s.emit a) rfl rfl rfl
  · intro ev hev
    rw [Sys.emit_acts, List.mem_append, List.mem_singleton] at hev
    apply h.posts ev (hev.resolve_right _)
    intro hpost
    apply ha ev hpost.symm
  · intro _ n
    rw [Sys.emit_acts, lastLcp_concat]
    cases a with
    | post ev => apply absurd rfl (ha ev)
    | _ => rfl

/-- The operation, which ends with `q` in the state `s'`, is one a thread may perform on what it knows,
and what the threads know fits the state after it. -/
def FitsAfter (b : Build) (A : Prop) (r : Option CStr) (g : ℕ → DmlPppIfFull)
    (v : Thread → Option Section) (t : Thread) (o : Op) (q : o.Res) (s' : Sys) : Prop :=
  ∃ g' y d, o.MayBeTold r A y ∧ Section.step o y (v t) = .ok (q, d) ∧
    (g' = g ∨ ∃ i e, AnyChange b i (g i) e ∧ g' = Function.update g i e) ∧
    SectionsFit b A r g' (Function.update v t d) s'

/-- An operation after which the thread knows what it knew. -/
theorem fitsAfter_kept {o : Op} {q x : o.Res} (hx : o.MayBeTold r A ⟨x, .zeroed⟩)
    (hview : Section.step o ⟨x, .zeroed⟩ (v t) = .ok (q, v t)) (h : SectionsFit b A r g v s') :
  FitsAfter b A r g v t o q s'
  := by
  refine ⟨g, ⟨x, .zeroed⟩, v t, hx, hview, .inl rfl, ?_⟩
  rw [update_eq_self]
  apply h

/-- A mutex is taken. -/
theorem fitsAfter_lock (h : SectionsFit b A r g v s)
    (hsafe : (Op.lock i).SafeIn b (pppIfCountOf r).toNat A (v t)) {a q : Unit}
    (hstep : PppManager.step t (.lock i) a s = .ok (q, s')) :
  FitsAfter b A r g v t (.lock i) q s'
  := by
  rw [PppManager.step] at hstep
  split_ifs at hstep with hbound hfree
  obtain ⟨-, rfl⟩ := Prod.mk.inj (Except.ok.inj hstep)
  obtain ⟨hi, hindex⟩ := hsafe
  cases hv : v t with
  | none =>
      refine ⟨g, ⟨(), g i⟩, some ⟨i, 0, g i, g i, []⟩, h.number i hi, ?_, .inl rfl,
        h.enter hv hi hfree⟩
      rw [hv]
      rfl
  | some x =>
      obtain rfl := hindex x hv
      refine ⟨g, ⟨(), g x.index⟩, some x.retake, h.number _ hi, ?_, .inl rfl, h.retake hv⟩
      rw [hv]
      apply if_pos rfl

/-- A mutex is given back. -/
theorem fitsAfter_unlock (h : SectionsFit b A r g v s)
    (hsafe : (Op.unlock i).SafeIn b (pppIfCountOf r).toNat A (v t)) {a q : Unit}
    (hstep : PppManager.step t (.unlock i) a s = .ok (q, s')) :
  FitsAfter b A r g v t (.unlock i) q s'
  := by
  obtain ⟨x, hx, rfl, hchange⟩ := hsafe
  rw [PppManager.step, (h.held t x hx).locks, List.replicate_succ] at hstep
  dsimp only at hstep
  rw [if_pos rfl] at hstep
  obtain ⟨-, rfl⟩ := Prod.mk.inj (Except.ok.inj hstep)
  obtain ⟨g', hg', hfits⟩ := h.leave hx hchange
  refine ⟨g', ⟨(), .zeroed⟩, x.leave, trivial, ?_, hg', hfits⟩
  rw [hx]
  apply if_pos rfl

/-- An entry is read. -/
theorem fitsAfter_load (h : SectionsFit b A r g v s) {a : Unit} {q : DmlPppIfFull}
    (hstep : PppManager.step t (.load i) a s = .ok (q, s')) :
  FitsAfter b A r g v t (.load i) q s'
  := by
  rw [PppManager.step] at hstep
  split_ifs at hstep
  obtain ⟨rfl, rfl⟩ := Prod.mk.inj (Except.ok.inj hstep)
  apply fitsAfter_kept (o := .load i) (x := s.table i) trivial _ h
  show Except.ok (Section.seen i (s.table i) (v t), v t) = _
  cases hv : v t with
  | none => rfl
  | some x =>
      rw [Section.seen]
      split_ifs with hindex
      · rw [← (h.held t x hv).entry, hindex]
      · rfl

/-- An entry is written. -/
theorem fitsAfter_store (h : SectionsFit b A r g v s) {f : DmlPppIfFull → DmlPppIfFull}
    (hsafe : (Op.store i f).SafeIn b (pppIfCountOf r).toNat A (v t)) {a q : Unit}
    (hstep : PppManager.step t (.store i f) a s = .ok (q, s')) :
  FitsAfter b A r g v t (.store i f) q s'
  := by
  obtain ⟨x, hx, rfl⟩ := hsafe
  rw [PppManager.step] at hstep
  split_ifs at hstep
  obtain ⟨-, rfl⟩ := Prod.mk.inj (Except.ok.inj hstep)
  refine ⟨g, ⟨(), .zeroed⟩, some (x.write f), trivial, ?_, .inl rfl, h.store hx f⟩
  rw [hx]
  apply if_pos rfl

/-- An event is sent, or cannot be. -/
theorem fitsAfter_mqSend (h : SectionsFit b A r g v s) {ev : PppEventQData}
    (hsafe : (Op.mqSend ev).SafeIn b (pppIfCountOf r).toNat A (v t)) {a q : Bool}
    (hanswers : A → a = true) (hstep : PppManager.step t (.mqSend ev) a s = .ok (q, s')) :
  FitsAfter b A r g v t (.mqSend ev) q s'
  := by
  obtain ⟨hev, hof⟩ := hsafe
  rw [PppManager.step] at hstep
  split_ifs at hstep with ha
  · obtain ⟨rfl, rfl⟩ := Prod.mk.inj (Except.ok.inj hstep)
    cases hv : v t with
    | none =>
        rw [hv] at hof
        apply fitsAfter_kept (o := .mqSend ev) (x := true) (fun _ => rfl) _ (h.postOutside hev hof)
        rw [hv]
        rfl
    | some x =>
        rw [hv] at hof
        refine ⟨g, ⟨true, .zeroed⟩, some (x.send ev true), fun _ => rfl, ?_, .inl rfl,
          h.post hv hev hof⟩
        rw [hv]
        rfl
  · obtain ⟨rfl, rfl⟩ := Prod.mk.inj (Except.ok.inj hstep)
    apply fitsAfter_kept (o := .mqSend ev) (x := false) (fun hA => absurd (hanswers hA) ha) _ h
    cases v t <;> rfl

/-- An event is taken, or none is there. -/
theorem fitsAfter_mqReceive (h : SectionsFit b A r g v s) {a : Unit} {q : Option PppEventQData}
    (hstep : PppManager.step t .mqReceive a s = .ok (q, s')) :
  FitsAfter b A r g v t .mqReceive q s'
  := by
  rw [PppManager.step] at hstep
  split at hstep
  · obtain ⟨rfl, rfl⟩ := Prod.mk.inj (Except.ok.inj hstep)
    exact fitsAfter_kept trivial rfl h
  · obtain ⟨rfl, rfl⟩ := Prod.mk.inj (Except.ok.inj hstep)
    exact fitsAfter_kept trivial rfl (h.congr _ rfl rfl rfl h.posts (fun _ _ => rfl))

/-- A record of the database is read. -/
theorem fitsAfter_psmGet (h : SectionsFit b A r g v s) {name : CStr} {a : Bool} {q : Option CStr}
    (hstep : PppManager.step t (.psmGet name) a s = .ok (q, s')) :
  FitsAfter b A r g v t (.psmGet name) q s'
  := by
  obtain ⟨rfl, rfl⟩ := Prod.mk.inj (Except.ok.inj hstep)
  apply fitsAfter_kept (o := .psmGet name) _ rfl h
  rintro rfl
  rw [h.record]
  cases a with
  | false => apply Or.inl rfl
  | true => apply Or.inr rfl

/-- A record of the database is written, or cannot be. -/
theorem fitsAfter_psmSet (h : SectionsFit b A r g v s) {name value : CStr}
    (hsafe : (Op.psmSet name value).SafeIn b (pppIfCountOf r).toNat A (v t)) {a q : Bool}
    (hstep : PppManager.step t (.psmSet name value) a s = .ok (q, s')) :
  FitsAfter b A r g v t (.psmSet name value) q s'
  := by
  obtain ⟨rfl, rfl⟩ := Prod.mk.inj (Except.ok.inj hstep)
  apply fitsAfter_kept (o := .psmSet name value) trivial rfl
  split_ifs
  · apply h.congr (s.setRecord name value) rfl rfl _ h.posts (fun _ _ => rfl)
    rw [Sys.setRecord_psm, update_of_ne hsafe.symm]
  · apply h

/-- An operation a thread performs in a section or in none, safely. -/
theorem step (h : SectionsFit b A r g v s) {o : Op} {a : o.Ans} {q : o.Res}
    (hsafe : o.SafeIn b (pppIfCountOf r).toNat A (v t)) (hanswers : A → SendsSucceed o a)
    (hstep : PppManager.step t o a s = .ok (q, s')) :
  FitsAfter b A r g v t o q s'
  := by
  cases o with
  | lock i => apply h.fitsAfter_lock hsafe hstep
  | unlock i => apply h.fitsAfter_unlock hsafe hstep
  | load i => apply h.fitsAfter_load hstep
  | store i f => apply h.fitsAfter_store hsafe hstep
  | undefined u => cases hstep
  | mqOpen =>
      obtain ⟨rfl, rfl⟩ := Prod.mk.inj (Except.ok.inj hstep)
      exact fitsAfter_kept hanswers rfl h
  | mqSend ev => apply h.fitsAfter_mqSend hsafe hanswers hstep
  | mqReceive => apply h.fitsAfter_mqReceive hstep
  | psmGet name => apply h.fitsAfter_psmGet hstep
  | psmSet name value => apply h.fitsAfter_psmSet hsafe hstep
  | busSet | generateDuidFile | removeDuidFile | system | kill =>
      obtain ⟨rfl, rfl⟩ := Prod.mk.inj (Except.ok.inj hstep)
      refine fitsAfter_kept trivial rfl (h.emit ?_)
      rintro ev ⟨⟩
  | _ =>
      obtain ⟨rfl, rfl⟩ := Prod.mk.inj (Except.ok.inj hstep)
      exact fitsAfter_kept trivial rfl h

end SectionsFit

/-- What the threads know, and the entries as the last section of each has left them. -/
def sectionViews (b : Build) (r : Option CStr) (A : Prop) :
    Views machine (Option Section) Unit (ℕ → DmlPppIfFull) where
  view := sectionMachine
  contract := fun _ => sections b r A
  Fits := SectionsFit b A r
  Answers := fun _ o a => A → SendsSucceed o a
  Rests := (· = none)
  Evolves := fun g g' => ∃ i e, AnyChange b i (g i) e ∧ g' = update g i e
  step := fun h hsafe hanswers hstep => h.step hsafe hanswers hstep

/-! ### An interleaving -/

/-- The next operation of a thread, in an outside where everything works. -/
def goOn (t : Thread) : PointMove :=
  .perform t ((workingOutside 1 none []).answers 0)

/-- The interface 1 is enabled, and while the request holds its mutex, its client reports that the link
is up; the handling of the report takes `k` more operations after the request. -/
def overlappingMoves (k : ℕ) : List PointMove :=
  [.enter .dataModel (.setter (.interfaceBool 0 "Enable".toList true)), goOn .dataModel,
    .enter .event (.message (stateMessage 0 .interfaceUp)), goOn .event, goOn .event] ++
      List.replicate 9 (goOn .dataModel) ++ List.replicate k (goOn .event)

theorem handledBelow_overlappingMoves (k : ℕ) :
  ∀ l ∈ overlappingMoves k, HandledBelow 1 l
  := by
  have hgoOn : ∀ t, HandledBelow 1 (goOn t) := fun _ => trivial
  intro l hl
  simp only [overlappingMoves, List.mem_append, List.mem_cons, List.not_mem_nil, or_false,
    List.mem_replicate] at hl
  rcases hl with ((rfl | rfl | rfl | rfl | rfl) | ⟨-, rfl⟩) | ⟨-, rfl⟩
  · apply Nat.zero_lt_one
  · apply hgoOn
  · trivial
  · apply hgoOn
  · apply hgoOn
  · apply hgoOn
  · apply hgoOn

/-! ### Runs -/

section

variable {b : Build} {s : Sys} {ls : List PointMove} {w : Threads}

/-- In the state the threads start in, the entries are as they are, and no thread knows any. -/
theorem sectionsFit_initial {A : Prop} (hs : Initial s) :
  SectionsFit b A (s.psm psmPppManagerPppIfCount) s.table (fun _ => none) s
  where
    below := by
      rintro t x ⟨⟩
    held := by
      rintro t x ⟨⟩
    free := by
      intro i _
      refine ⟨hs.locks i, rfl, ?_⟩
      intro _
      rw [DmlPppIfFull.statuses, (hs.idle i).status, hs.acts]
      constructor
      · rintro ⟨⟩
      · rintro - - ⟨⟩
    number := by
      rw [← Sys.pppIfCount_eq]
      apply hs.instanceNumber
    record := rfl
    posts := by
      rw [hs.acts]
      rintro ev ⟨⟩

/-- A move of a run in which every send succeeds, and a stop is requested in the setters only. -/
def TellsInSections : PointMove → Prop
  | .enter _ p => p.isBareRequest = false
  | .perform _ x => ∀ o, SendsSucceed o (x o)

/-- An entry point that is begun keeps to the contract. -/
theorem admits_of_handledBelow {r : Option CStr} {A : Prop}
    (hc : (pppIfCountOf r).toNat ≤ pppTableLength) {l : PointMove}
    (hl : HandledBelow (pppIfCountOf r).toNat l) (hA : A → TellsInSections l) (w : Threads) :
  (sectionViews b r A).Admits (enters b) l w
  where
    job := by
      rintro t p q s' rfl henters
      rw [enters] at henters
      split_ifs at henters with ht
      obtain ⟨rfl, rfl⟩ := Prod.mk.inj (Option.some.inj henters)
      use rfl
      rintro k rfl
      apply sections_point hc hl hA
    answers := by
      rintro t x rfl o h
      apply hA h

/-- Every run of the two threads keeps to the contract. -/
theorem run_sections (A : Prop) (hs : Initial s)
    (hls : ∀ l ∈ ls, HandledBelow s.pppIfCount.toNat l) (hA : A → ∀ l ∈ ls, TellsInSections l)
    (hrun : run (Threads.go b) ls (Pool.idle s) = some w) :
  ∃ g, Relation.ReflTransGen (sectionViews b (s.psm psmPppManagerPppIfCount) A).Evolves s.table g ∧
    (sectionViews b (s.psm psmPppManagerPppIfCount) A).Good g w
  := by
  have hc := hs.count_le
  rw [Sys.pppIfCount_eq] at hls hc
  have hgood : (sectionViews b (s.psm psmPppManagerPppIfCount) A).Good s.table
      (Pool.idle s : Threads) :=
    Views.good_idle (sectionsFit_initial hs) (fun _ => rfl)
  apply Views.run_good hgood _ hrun
  apply throughout_of_forall
  intro l hl w
  apply admits_of_handledBelow hc (hls l hl) (fun h => hA h l hl)

/-- An entry whose mutex is free is in no section. -/
theorem SectionsFit.of_free {r : Option CStr} {A : Prop} {g : ℕ → DmlPppIfFull}
    {v : Thread → Option Section} (h : SectionsFit b A r g v s) {i : ℕ} (hfree : s.locks i = []) :
  FreeFits b A g s i
  := by
  apply h.free i
  rintro t x hx rfl
  rw [(h.held t x hx).locks] at hfree
  cases hfree

/-! ### Atomic sections -/

/-- What every change keeps, the entries whose mutexes are free satisfy in every interleaving. -/
theorem free_of_change {I : ℕ → DmlPppIfFull → Prop}
    (hI : ∀ i e e', I i e → AnyChange b i e e' → I i e') (hs : Initial s)
    (hstart : ∀ i, I i (s.table i)) (hls : ∀ l ∈ ls, HandledBelow s.pppIfCount.toNat l)
    (hrun : run (Threads.go b) ls (Pool.idle s) = some w) {i : ℕ} (hfree : w.state.locks i = []) :
  I i (w.state.table i)
  := by
  obtain ⟨g, hsteps, v, hfits, -⟩ := run_sections False hs hls False.elim hrun
  rw [(hfits.of_free hfree).entry]
  clear hfits
  induction hsteps with
  | refl => apply hstart
  | tail _ hstep ih =>
      obtain ⟨j, e, hchange, rfl⟩ := hstep
      by_cases hij : i = j
      · obtain rfl := hij
        rw [update_self]
        apply hI _ _ _ ih hchange
      · rw [update_of_ne hij]
        apply ih

/-- In every interleaving from the state the table is loaded in, an interface whose mutex is free is up
exactly if it is connected, has then no error, and keeps its number. -/
theorem free_up_iff_connected {t : Thread} {ω : Answers} {psm : CStr → Option CStr} {k : ℕ}
    (hω : ∀ k, ω k (.psmGet psmPppManagerPppIfCount) = true)
    (hinit : (machine t).exec ω (backEndManagerInitialize b) 0 (Sys.blank psm) = .ok ((), s, k))
    (hls : ∀ l ∈ ls, HandledBelow s.pppIfCount.toNat l)
    (hrun : run (Threads.go b) ls (Pool.idle s) = some w) (i : ℕ) (hfree : w.state.locks i = []) :
  UpConsistent (w.state.table i) ∧
    (i < s.pppIfCount.toNat → (w.state.table i).cfg.instanceNumber = i + 1)
  := by
  have hs := initial_of_initialize hω hinit
  apply free_of_change (I := fun i e => UpConsistent e ∧
    (i < s.pppIfCount.toNat → e.cfg.instanceNumber = i + 1)) _ hs _ hls hrun hfree
  · rintro i e e' ⟨hup, hnumber⟩ hchange
    use hup.change hchange
    intro hi
    rcases hchange.instanceNumber with hkept | hnew
    · rw [hkept, hnumber hi]
    · apply hnew
  · intro i
    use upConsistent_of_initialize hinit i
    apply hs.instanceNumber

/-- The interface 1 is loaded, and the moves are made. -/
theorem free_up_iff_connected_overlapping :
  ∃ s w k, (machine .dataModel).exec (workingOutside 1 none []).answers
      (backEndManagerInitialize (plainBuild false)) 0 (Sys.blank (freshState 1).psm) =
        .ok ((), s, k) ∧
    run (Threads.go (plainBuild false)) (overlappingMoves 18) (Pool.idle s) = some w ∧
    (w.state.table 0).info.status = .up ∧ UpConsistent (w.state.table 0) ∧
    (w.state.table 0).cfg.instanceNumber = 1
  := by
  have hend : (((machine .dataModel).exec (workingOutside 1 none []).answers
      (backEndManagerInitialize (plainBuild false)) 0 (Sys.blank (freshState 1).psm)).toOption.bind
        fun r => (run (Threads.go (plainBuild false)) (overlappingMoves 18) (Pool.idle r.2.1)).map
          fun w => (r.2.1.pppIfCount.toNat, (w.state.table 0).info.status, w.state.locks 0)) =
            some (1, .up, []) := by
    decide +kernel
  obtain ⟨⟨_, s, k⟩, hinit, hrest⟩ := Option.bind_eq_some_iff.mp hend
  obtain ⟨w, hrun, hw⟩ := Option.map_eq_some_iff.mp hrest
  obtain ⟨hcount, hw⟩ := Prod.mk.inj hw
  obtain ⟨hup, hfree⟩ := Prod.mk.inj hw
  have hinit := eq_ok_of_toOption hinit
  dsimp only at hcount
  refine ⟨s, w, k, hinit, hrun, hup, ?_⟩
  have h := free_up_iff_connected (fun _ => rfl) hinit
    (by rw [hcount]; apply handledBelow_overlappingMoves) hrun 0 hfree
  use h.1
  apply h.2
  rw [hcount]
  apply Nat.zero_lt_one

/-! ### What the WAN manager is told -/

/-- In every interleaving in which the sends succeed and a stop is requested in the setters only, the
WAN manager was told last what agrees with the status of the interface, whenever its mutex is free. -/
theorem free_status_told (hs : Initial s) (hls : ∀ l ∈ ls, HandledBelow s.pppIfCount.toNat l)
    (htells : ∀ l ∈ ls, TellsInSections l) (hrun : run (Threads.go b) ls (Pool.idle s) = some w)
    {i : ℕ} (hfree : w.state.locks i = []) :
  Agree (w.state.table i).statuses (lastLcp b (i + 1 : ℕ) w.state.acts)
  := by
  obtain ⟨g, -, v, hfits, -⟩ := run_sections True hs hls (fun _ => htells) hrun
  have hfree := hfits.of_free hfree
  rw [hfree.entry]
  apply hfree.told trivial

theorem tellsInSections_goOn (t : Thread) :
  TellsInSections (goOn t)
  := by
  intro o
  cases o with
  | mqOpen | mqSend => rfl
  | _ => trivial

theorem tellsInSections_overlappingMoves (k : ℕ) :
  ∀ l ∈ overlappingMoves k, TellsInSections l
  := by
  intro l hl
  simp only [overlappingMoves, List.mem_append, List.mem_cons, List.not_mem_nil, or_false,
    List.mem_replicate] at hl
  rcases hl with ((rfl | rfl | rfl | rfl | rfl) | ⟨-, rfl⟩) | ⟨-, rfl⟩
  · rfl
  · apply tellsInSections_goOn
  · rfl
  · apply tellsInSections_goOn
  · apply tellsInSections_goOn
  · apply tellsInSections_goOn
  · apply tellsInSections_goOn

/-- The WAN manager is told that the link is up. -/
theorem free_status_told_overlapping :
  ∃ w, run (Threads.go (plainBuild false)) (overlappingMoves 19) (Pool.idle (freshState 1)) = some w ∧
    (w.state.table 0).info.status = .up ∧
    lastLcp (plainBuild false) 1 w.state.acts = some up
  := by
  have hend : (run (Threads.go (plainBuild false)) (overlappingMoves 19)
      (Pool.idle (freshState 1))).map
        (fun w => ((w.state.table 0).info.status, w.state.locks 0)) = some (.up, []) := by
    decide +kernel
  have hcount : (freshState 1).pppIfCount.toNat = 1 := by
    decide +kernel
  obtain ⟨w, hrun, hw⟩ := Option.map_eq_some_iff.mp hend
  obtain ⟨hup, hfree⟩ := Prod.mk.inj hw
  use w, hrun, hup
  have hagree := free_status_told (initial_freshState (by rw [hcount]; decide))
    (by rw [hcount]; apply handledBelow_overlappingMoves) (tellsInSections_overlappingMoves 19) hrun
    hfree
  apply hagree.up hup

end

end PppManager
