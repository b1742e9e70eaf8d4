import PppManager.Manager.Points

/-!
# Mutexes

Which mutexes the code holds when it performs an operation, whatever the other threads do while it
waits for one.  `waitingMachine` is the machine of a thread that waits: the outside says what the other
threads do before the thread gets a mutex.

`guarded R L W` is the contract under which the thread `t` holds at most one mutex that is not in `L`,
gives back only mutexes it holds, and, without `W`, reads and writes the WAN manager only while it
holds none, where the other threads meanwhile do what `R` says.  `Balanced R L W i p` states that `p`
keeps this contract where it takes the mutex of the entry `i` only, and gives it back as often as it
takes it; `Releases R L W i p` states that `p` gives it back once more than it takes it.
-/

namespace PppManager

open Effect Effect.Program Function CText

/-- The thread holds no mutex but those in `L` and that of the entry `i`. -/
def HoldsOnly (t : Thread) (L : ℕ → Prop) (i : ℕ) (s : Sys) : Prop :=
  ∀ j, t ∈ s.locks j → L j ∨ j = i

/-- The thread holds the mutexes of two different entries, neither of which is in `L`. -/
def HoldsTwo (t : Thread) (L : ℕ → Prop) (s : Sys) : Prop :=
  ∃ i j, i ≠ j ∧ t ∈ s.locks i ∧ t ∈ s.locks j ∧ ¬ L i ∧ ¬ L j

/-- The thread holds no mutex. -/
def HoldsNone (t : Thread) (s : Sys) : Prop :=
  ∀ j, t ∉ s.locks j

/-- The operation reads or writes a parameter of the WAN manager. -/
def Op.AsksWan : Op → Prop
  | .busGet component _ _ => component = wanComponentName
  | .busSet component _ _ _ => component = wanComponentName
  | _ => False

/-- The operation takes and gives back no mutex, and asks the WAN manager only if `W` holds. -/
def Op.IsNeutral (W : Prop) : Op → Prop
  | .lock _ => False
  | .unlock _ => False
  | o => o.AsksWan → W

/-- How often the thread holds each mutex. -/
def owns (t : Thread) (s : Sys) (i : ℕ) : ℕ :=
  (s.locks i).count t

/-- The state in which an operation is performed, where the other threads do `f` while the mutex of an
entry is waited for. -/
def Op.waited (f : ℕ → Sys → Sys) (s : Sys) : Op → Sys
  | .lock i => f i s
  | _ => s

/-- The machine of the thread `t`, which is told besides the answer what the other threads do before it
gets a mutex. -/
@[reducible] def waitingMachine (t : Thread) : Machine sig Sys Stop where
  Ans o := o.Ans × (ℕ → Sys → Sys)
  step o x s := step t o x.1 (o.waited x.2 s)

/-- What the other threads may do while the thread `t` waits for the mutex of an entry: they leave it
the mutexes it holds. -/
structure Meanwhile (t : Thread) where
  leads : ℕ → Sys → Sys → Prop
  keeps : ∀ i s s', leads i s s' → owns t s' = owns t s

/-- The other threads do nothing. -/
def Meanwhile.nothing (t : Thread) : Meanwhile t where
  leads _ s s' := s' = s
  keeps := by
    rintro _ s s' rfl
    rfl

/-- The answers of an outside where the other threads do nothing. -/
def unwaited {t : Thread} (ω : ℕ → (o : Op) → o.Ans) : (waitingMachine t).Oracle :=
  fun k o => (ω k o, fun _ s => s)

/-- The contract under which the thread `t` holds at most one mutex that is not in `L`, gives back
only mutexes it holds, and asks the WAN manager only while it holds none, unless `W` holds. -/
def guarded {t : Thread} (R : Meanwhile t) (L : ℕ → Prop) (W : Prop) : Contract (waitingMachine t) where
  Allows := fun _ x => ∀ i s, R.leads i s (x.2 i s)
  Safe := fun o s =>
    ¬ HoldsTwo t L s ∧ (∀ i, o = .unlock i → t ∈ s.locks i) ∧ (o.AsksWan → W ∨ HoldsNone t s)
  Admits := fun _ => True

/-- The program takes the mutex of the entry `i` only, and as often as it gives it back. -/
def Balanced {t : Thread} (R : Meanwhile t) (L : ℕ → Prop) (W : Prop) (i : ℕ) {α : Type}
    (p : Code α) : Prop :=
  ∀ s, HoldsOnly t L i s → (guarded R L W).wp p (fun _ s' => owns t s' = owns t s) s

/-- The program takes the mutex of the entry `i` only, and once less than it gives it back. -/
def Releases {t : Thread} (R : Meanwhile t) (L : ℕ → Prop) (W : Prop) (i : ℕ) {α : Type}
    (p : Code α) : Prop :=
  ∀ s, t ∈ s.locks i → HoldsOnly t L i s →
    (guarded R L W).wp p (fun _ s' => owns t s' = update (owns t s) i (owns t s i - 1)) s

section

variable {t : Thread} {R : Meanwhile t} {L : ℕ → Prop} {W : Prop} {i : ℕ} {s s' : Sys} {α β : Type}

theorem owns_pos :
  0 < owns t s i ↔ t ∈ s.locks i
  := List.count_pos_iff

theorem owns_setLock (l : List Thread) :
  owns t (s.setLock i l) = update (owns t s) i (l.count t)
  := by
  funext j
  by_cases hji : j = i
  · obtain rfl := hji
    rw [owns, Sys.setLock_locks, update_self, update_self]
  · rw [owns, Sys.setLock_locks, update_of_ne hji, update_of_ne hji, owns]

theorem HoldsOnly.not_two (h : HoldsOnly t L i s) :
  ¬ HoldsTwo t L s
  := by
  rintro ⟨j, k, hne, hj, hk, hLj, hLk⟩
  apply hne
  rw [(h j hj).resolve_left hLj, (h k hk).resolve_left hLk]

theorem HoldsOnly.of_update {n : ℕ} (h : HoldsOnly t L i s)
    (howns : owns t s' = update (owns t s) i n) :
  HoldsOnly t L i s'
  := by
  intro j hj
  by_cases hji : j = i
  · apply Or.inr hji
  · rw [← owns_pos, howns, update_of_ne hji, owns_pos] at hj
    apply h j hj

theorem HoldsOnly.of_owns (h : HoldsOnly t L i s) (howns : owns t s' = owns t s) :
  HoldsOnly t L i s'
  := by
  apply h.of_update (n := owns t s i)
  rw [howns, update_eq_self]

theorem HoldsNone.of_owns (h : HoldsNone t s) (howns : owns t s' = owns t s) :
  HoldsNone t s'
  := by
  intro j
  rw [← owns_pos, howns, owns_pos]
  apply h j

theorem owns_of_locks (h : s'.locks = s.locks) :
  owns t s' = owns t s
  := by
  funext i
  rw [owns, h, owns]

theorem mem_setLock_self {l : List Thread} :
  t ∈ (s.setLock i (t :: l)).locks i
  := by
  rw [Sys.setLock_locks, update_self]
  apply List.mem_cons_self

/-- A mutex that has been taken and given back is held as often as before. -/
theorem owns_released {f : ℕ → ℕ} :
  update (update f i (f i + 1)) i (update f i (f i + 1) i - 1) = f
  := by
  rw [update_self, Nat.add_sub_cancel, update_idem, update_eq_self]

/-- A thread that has got a mutex holds it once more. -/
theorem Meanwhile.owns_taken (h : R.leads i s s') :
  owns t (s'.setLock i (t :: s'.locks i)) = update (owns t s) i (owns t s i + 1)
  := by
  rw [owns_setLock, List.count_cons_self, ← R.keeps i s s' h]
  rfl

theorem Op.OnEntry.isNeutral {K : (DmlPppIfFull → DmlPppIfFull) → Prop} {C : Prop} {o : Op}
    (ho : o.OnEntry K W C i) :
  o.IsNeutral W
  := by
  cases o with
  | busGet component bus name => apply ho
  | lock | unlock | busSet => apply ho.elim
  | _ => apply False.elim

/-! ### The operations -/

/-- The operation takes no mutex. -/
def Op.TakesNoMutex (o : Op) : Prop :=
  ∀ i, o ≠ .lock i

/-- A thread waits for nothing else than a mutex. -/
theorem Op.TakesNoMutex.waited {o : Op} (ho : o.TakesNoMutex) (f : ℕ → Sys → Sys) :
  o.waited f s = s
  := by
  cases o with
  | lock i => apply absurd rfl (ho i)
  | _ => rfl

theorem Op.IsNeutral.takesNoMutex {o : Op} (ho : o.IsNeutral W) :
  o.TakesNoMutex
  := by
  rintro i rfl
  apply ho

theorem Op.IsRead.takesNoMutex {o : Op} (ho : o.IsRead) :
  o.TakesNoMutex
  := by
  rintro i rfl
  apply ho

/-- A thread that need not wait does what `machine` says. -/
theorem step_unwaited (ω : ℕ → (o : Op) → o.Ans) (o : Op) (k : ℕ) (s : Sys) (_ : True) :
  (machine t).step o (ω k o) s = (waitingMachine t).step o (unwaited ω k o) s
  := by
  cases o <;> rfl

theorem guarded_perform {o : Op} {Q : o.Res → Sys → Prop} (ho : o.TakesNoMutex)
    (hsafe : (guarded R L W).Safe o s) (hQ : ∀ x r s', step t o x s = .ok (r, s') → Q r s') :
  (guarded R L W).wp (perform o) Q s
  := by
  rw [perform, Contract.wp_perform]
  use hsafe
  intro x _
  dsimp only
  rw [ho.waited]
  cases hstep : step t o x.1 s with
  | ok r => apply hQ x.1 r.1 r.2 hstep
  | error e => trivial

theorem guarded_lock {Q : Unit → Sys → Prop} (hheld : ¬ HoldsTwo t L s)
    (hQ : ∀ s', i < pppTableLength → R.leads i s s' → (∀ t' ∈ s'.locks i, t' = t) →
      Q () (s'.setLock i (t :: s'.locks i))) :
  (guarded R L W).wp (lock i) Q s
  := by
  rw [lock, perform, Contract.wp_perform]
  use ⟨hheld, by rintro _ ⟨⟩, False.elim⟩
  intro x hx
  have hwaited : Op.waited x.2 s (.lock i) = x.2 i s := rfl
  dsimp only
  rw [hwaited]
  cases hstep : step t (.lock i) x.1 (x.2 i s) with
  | ok r =>
      obtain ⟨u, s'⟩ := r
      rw [step] at hstep
      split_ifs at hstep with hi hown
      obtain ⟨-, rfl⟩ := Prod.mk.inj (Except.ok.inj hstep)
      apply hQ _ (Nat.not_le.mp hi) (hx i s) hown
  | error e => trivial

theorem guarded_unlock {Q : Unit → Sys → Prop} (hlock : t ∈ s.locks i) (hheld : ¬ HoldsTwo t L s)
    (hQ : ∀ s', owns t s' = update (owns t s) i (owns t s i - 1) → Q () s') :
  (guarded R L W).wp (unlock i) Q s
  := by
  apply guarded_perform (o := .unlock i) nofun
  · use hheld
    constructor
    · intro j hj
      obtain rfl := Op.unlock.inj hj
      apply hlock
    · apply False.elim
  · intro x r s' hstep
    rw [step] at hstep
    cases hlocks : s.locks i with
    | nil =>
        rw [hlocks] at hlock
        cases hlock
    | cons t' owners =>
        rw [hlocks] at hstep
        dsimp only at hstep
        split_ifs at hstep with ht
        obtain ⟨-, rfl⟩ := Prod.mk.inj (Except.ok.inj hstep)
        obtain rfl := ht
        apply hQ
        rw [owns_setLock, owns, hlocks, List.count_cons_self, Nat.add_sub_cancel]

theorem guarded_load {Q : DmlPppIfFull → Sys → Prop} (hheld : ¬ HoldsTwo t L s)
    (hQ : Q (s.table i) s) :
  (guarded R L W).wp (load i) Q s
  := by
  apply guarded_perform (o := .load i) nofun ⟨hheld, nofun, False.elim⟩
  intro x r s' hstep
  rw [step] at hstep
  split_ifs at hstep
  obtain ⟨rfl, rfl⟩ := Prod.mk.inj (Except.ok.inj hstep)
  apply hQ

theorem guarded_store {f : DmlPppIfFull → DmlPppIfFull} {Q : Unit → Sys → Prop}
    (hheld : ¬ HoldsTwo t L s) (hQ : Q () (s.setEntry i (f (s.table i)))) :
  (guarded R L W).wp (store i f) Q s
  := by
  apply guarded_perform (o := .store i f) nofun ⟨hheld, nofun, False.elim⟩
  intro x r s' hstep
  rw [step] at hstep
  split_ifs at hstep
  obtain ⟨-, rfl⟩ := Prod.mk.inj (Except.ok.inj hstep)
  apply hQ

/-- A neutral operation leaves the mutexes as they are. -/
theorem locks_of_isNeutral {o : Op} (ho : o.IsNeutral W) {x : o.Ans} {r : o.Res}
    (hstep : step t o x s = .ok (r, s')) :
  s'.locks = s.locks
  := by
  cases o with
  | lock | unlock => apply ho.elim
  | load i | store i f =>
      rw [step] at hstep
      split_ifs at hstep
      obtain ⟨-, rfl⟩ := Prod.mk.inj (Except.ok.inj hstep)
      rfl
  | undefined u => cases hstep
  | mqSend ev =>
      rw [step] at hstep
      split_ifs at hstep
      · obtain ⟨-, rfl⟩ := Prod.mk.inj (Except.ok.inj hstep)
        rfl
      · obtain ⟨-, rfl⟩ := Prod.mk.inj (Except.ok.inj hstep)
        rfl
  | mqReceive =>
      rw [step] at hstep
      split at hstep
      · obtain ⟨-, rfl⟩ := Prod.mk.inj (Except.ok.inj hstep)
        rfl
      · obtain ⟨-, rfl⟩ := Prod.mk.inj (Except.ok.inj hstep)
        rfl
  | psmSet name value =>
      obtain ⟨-, rfl⟩ := Prod.mk.inj (Except.ok.inj hstep)
      split_ifs
      · rfl
      · rfl
  | _ =>
      obtain ⟨-, rfl⟩ := Prod.mk.inj (Except.ok.inj hstep)
      rfl

/-- An operation of a thread leaves the others the mutexes they hold. -/
theorem owns_of_step {t' : Thread} (ht : t' ≠ t) {o : Op} {x : o.Ans} {r : o.Res}
    (hstep : step t o x s = .ok (r, s')) :
  owns t' s' = owns t' s
  := by
  cases o with
  | lock i =>
      rw [step] at hstep
      split_ifs at hstep
      obtain ⟨-, rfl⟩ := Prod.mk.inj (Except.ok.inj hstep)
      rw [owns_setLock, List.count_cons_of_ne ht.symm]
      apply update_eq_self
  | unlock i =>
      rw [step] at hstep
      cases hlocks : s.locks i with
      | nil =>
          rw [hlocks] at hstep
          cases hstep
      | cons owner owners =>
          rw [hlocks] at hstep
          dsimp only at hstep
          split_ifs at hstep with howner
          obtain ⟨-, rfl⟩ := Prod.mk.inj (Except.ok.inj hstep)
          obtain rfl := howner
          have hcount : owners.count t' = owns t' s i := by
            rw [owns, hlocks, List.count_cons_of_ne ht.symm]
          rw [owns_setLock, hcount, update_eq_self]
  | _ =>
      apply owns_of_locks
      apply locks_of_isNeutral (W := True) _ hstep
      intro _
      trivial

/-- A program that only performs neutral operations keeps the contract. -/
theorem guarded_of_neutral {p : Code α} (hp : Only (Op.IsNeutral W) p) (hheld : ¬ HoldsTwo t L s) :
  (guarded R L W).wp p (fun _ s' => owns t s' = owns t s) s
  := by
  have hkept : (guarded R L W).wp p (fun _ s' => s'.locks = s.locks) s := by
    apply Contract.wp_of_only (P := Op.IsNeutral W) (I := fun s' : Sys => s'.locks = s.locks) _ _ hp rfl
    · intro o s' ho hs'
      refine ⟨?_, ?_, ?_⟩
      · rw [HoldsTwo, hs']
        apply hheld
      · rintro j rfl
        apply ho.elim
      · intro hasks
        left
        cases o with
        | lock | unlock => apply ho.elim
        | _ => apply ho hasks
    · intro o x s' ho _ hs'
      dsimp only
      rw [ho.takesNoMutex.waited]
      cases hstep : step t o x.1 s' with
      | ok r => apply (locks_of_isNeutral ho hstep).trans hs'
      | error e => trivial
  apply Contract.wp_mono _ hkept
  intro a s' hs'
  rw [owns_of_locks hs']

/-- A program that only reads keeps the contract, while no mutex is held if it asks the WAN
manager. -/
theorem guarded_of_reads {p : Code α} (hp : Only Op.IsRead p) (hheld : ¬ HoldsTwo t L s)
    (hfree : W ∨ HoldsNone t s) {Q : α → Sys → Prop} (hQ : ∀ a, Q a s) :
  (guarded R L W).wp p Q s
  := by
  have h : (guarded R L W).wp p (fun _ s' => s' = s) s := by
    apply Contract.wp_of_only (P := Op.IsRead) (I := fun s' => s' = s) _ _ hp rfl
    · rintro o s' ho rfl
      refine ⟨hheld, ?_, fun _ => hfree⟩
      rintro j rfl
      apply ho.elim
    · intro o x s' ho _ hs'
      dsimp only
      rw [ho.takesNoMutex.waited]
      cases hstep : step t o x.1 s' with
      | ok r => apply (step_of_isRead ho hstep).trans hs'
      | error e => trivial
  apply Contract.wp_mono _ h
  rintro a s' rfl
  apply hQ

/-! ### Programs that keep their mutexes -/

theorem balanced_of_neutral {p : Code α} (hp : Only (Op.IsNeutral W) p) :
  Balanced R L W i p
  := by
  intro s hheld
  apply guarded_of_neutral hp hheld.not_two

theorem balanced_pure (a : α) :
  Balanced R L W i (pure a : Code α)
  := balanced_of_neutral (only_pure a)

theorem Balanced.bind {p : Code α} {f : α → Code β} (hp : Balanced R L W i p)
    (hf : ∀ a, Balanced R L W i (f a)) :
  Balanced R L W i (p >>= f)
  := by
  intro s hheld
  rw [Contract.wp_bind]
  apply Contract.wp_mono _ (hp s hheld)
  intro a s' hs'
  rw [← hs']
  apply hf a s' (hheld.of_owns hs')

theorem Balanced.map {p : Code α} {f : α → β} (hp : Balanced R L W i p) :
  Balanced R L W i (f <$> p)
  := hp.bind (fun _ => balanced_pure _)

theorem Balanced.ite {c : Prop} [Decidable c] {p q : Code α} (hp : c → Balanced R L W i p)
    (hq : ¬ c → Balanced R L W i q) :
  Balanced R L W i (if c then p else q)
  := by
  split_ifs with h
  · apply hp h
  · apply hq h

theorem balanced_undefined {u : Undefined} :
  Balanced R L W i (undefined u : Code α)
  := balanced_of_neutral (reads_undefined False.elim)

/-- A program between taking a mutex and giving it back. -/
theorem guarded_bracket {p : Code α} (hheld : HoldsOnly t L i s)
    (hp : ∀ s', R.leads i s s' → (guarded R L W).wp p
      (fun _ s₁ => owns t s₁ = owns t (s'.setLock i (t :: s'.locks i)))
      (s'.setLock i (t :: s'.locks i))) :
  (guarded R L W).wp (bracket i p) (fun _ s' => owns t s' = owns t s) s
  := by
  rw [bracket, Contract.wp_bind]
  apply guarded_lock hheld.not_two
  intro s' _ hs' _
  have htaken := R.owns_taken hs'
  rw [Contract.wp_bind]
  apply Contract.wp_mono _ (hp s' hs')
  intro a s₁ hs₁
  rw [htaken] at hs₁
  rw [Contract.wp_bind]
  apply guarded_unlock
  · rw [← owns_pos, hs₁, update_self]
    apply Nat.succ_pos
  · apply (hheld.of_update hs₁).not_two
  · intro s₂ hs₂
    rw [Contract.wp_pure, hs₂, hs₁, owns_released]

theorem Balanced.bracket {p : Code α} (hp : Balanced R L W i p) :
  Balanced R L W i (bracket i p)
  := by
  intro s hheld
  apply guarded_bracket hheld
  intro s' hs'
  apply hp _ (hheld.of_update (R.owns_taken hs'))

/-! ### Programs that give a mutex back -/

theorem releases_release {p : Code α} (hp : Only (Op.IsNeutral W) p) :
  Releases R L W i (getIfaceDataRelease i >>= fun _ => p)
  := by
  intro s hlock hheld
  rw [Contract.wp_bind, getIfaceDataRelease]
  apply guarded_unlock hlock hheld.not_two
  intro s' hs'
  rw [← hs']
  apply guarded_of_neutral hp (hheld.of_update hs').not_two

theorem Releases.after {p : Code α} {f : α → Code β} (hp : Only (Op.IsNeutral W) p)
    (hf : ∀ a, Releases R L W i (f a)) :
  Releases R L W i (p >>= f)
  := by
  intro s hlock hheld
  rw [Contract.wp_bind]
  apply Contract.wp_mono _ (guarded_of_neutral hp hheld.not_two)
  intro a s' hs'
  rw [← owns_pos, ← hs', owns_pos] at hlock
  rw [← hs']
  apply hf a s' hlock (hheld.of_owns hs')

theorem Releases.ite {c : Prop} [Decidable c] {p q : Code α} (hp : c → Releases R L W i p)
    (hq : ¬ c → Releases R L W i q) :
  Releases R L W i (if c then p else q)
  := by
  split_ifs with h
  · apply hp h
  · apply hq h

/-- What a program that takes no mutex does without waiting, it does under the contract. -/
theorem guarded_and {p : Code α} (hp : Only Op.TakesNoMutex p) {Q Q' : α → Sys → Prop}
    (h : (contract t (fun _ _ => True) True).wp p Q s) (h' : (guarded R L W).wp p Q' s) :
  (guarded R L W).wp p (fun a s' => Q a s' ∧ Q' a s') s
  := by
  apply Contract.wp_and_alike _ hp h h'
  intro o x ho _
  refine ⟨x.1, fun _ => trivial, ?_⟩
  intro s'
  show step t o x.1 (o.waited x.2 s') = _
  rw [ho.waited]

/-- A lookup that takes the mutex of the entry it finds. -/
theorem guarded_getIfaceDataLocked {n : ℕ} {Q : Option ℕ → Sys → Prop}
    (hheld : ¬ HoldsTwo t L s) (hnone : Q none s)
    (hsome : ∀ s', n = i + 1 → i < pppTableLength → i < s.pppIfCount.toNat → R.leads i s s' →
      (∀ t' ∈ s'.locks i, t' = t) → Q (some i) (s'.setLock i (t :: s'.locks i))) (hi : i = n - 1) :
  (guarded R L W).wp (getIfaceDataLocked n) Q s
  := by
  rw [getIfaceDataLocked]
  split_ifs with hn
  · apply hnone
  · rw [Contract.wp_bind]
    have htotal : (contract t (fun _ _ => True) True).wp dmlGetTotalNoOfPPPInterfaces
        (fun total s' => (total = 0 ∨ total = s.pppIfCount) ∧ s' = s) s := by
      apply wp_dmlGetTotalNoOfPPPInterfaces
      · intro _
        exact ⟨.inl rfl, rfl⟩
      · exact ⟨.inr rfl, rfl⟩
    have hneutral : Only (Op.IsNeutral W) dmlGetTotalNoOfPPPInterfaces := by
      apply only_bind
      · apply only_bind (reads_op (P := Op.IsNeutral W) (o := .psmGet _) False.elim)
        rintro (_ | paramValue) <;> apply only_pure
      · intro pppIfCount
        apply only_pure
    apply Contract.wp_mono _ (guarded_and (hneutral.mono (fun _ => Op.IsNeutral.takesNoMutex)) htotal
      (guarded_of_neutral hneutral hheld))
    rintro total s' ⟨⟨hle, rfl⟩, -⟩
    split_ifs with hlt
    · apply hnone
    · have hcount : n ≤ s'.pppIfCount.toNat := by
        rcases hle with rfl | rfl
        · have h : n ≤ 0 := Nat.le_of_not_lt hlt
          apply absurd (Nat.le_zero.mp h) hn
        · apply Nat.le_of_not_lt hlt
      obtain rfl := hi
      rw [Contract.wp_bind]
      apply guarded_lock hheld
      intro s₁ hlength hleads hown
      apply hsome s₁ _ hlength _ hleads hown
      · omega
      · omega

/-- A function that looks an entry up, and gives the mutex of the entry it finds back. -/
theorem balanced_getIfaceDataLocked {n : ℕ} {f : Option ℕ → Code α} (hi : i = n - 1)
    (hnone : Balanced R L W i (f none)) (hsome : Releases R L W i (f (some i))) :
  Balanced R L W i (getIfaceDataLocked n >>= f)
  := by
  intro s hheld
  rw [Contract.wp_bind]
  apply guarded_getIfaceDataLocked hheld.not_two _ _ hi
  · apply hnone s hheld
  · intro s' _ _ _ hs' _
    have htaken := R.owns_taken hs'
    have h := hsome (s'.setLock i (t :: s'.locks i)) mem_setLock_self (hheld.of_update htaken)
    rw [htaken, owns_released] at h
    apply h

end

end PppManager
