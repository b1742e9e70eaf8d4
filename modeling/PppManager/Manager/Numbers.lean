import PppManager.Manager.Outside
import PppManager.Manager.Points

/-!
# The numbers of the interfaces

An interface has an index in the table, the instance number its entry was given, and the number that
events of the queue and lookups carry.  The three agree in every state the manager reaches
(`numbers_agree`).
-/

namespace PppManager

open Effect CText

/-- A thread that does not have to wait for the mutex of the entry gets `r` when it looks up the
instance `n`. -/
def LookupGives (s : Sys) (n : ℕ) (r : Option ℕ) : Prop :=
  ∀ (t : Thread) (ω : Answers) (k : ℕ), ω k (.psmGet psmPppManagerPppIfCount) = true →
    (∀ t' ∈ s.locks (n - 1), t' = t) →
      ∃ s' k', (machine t).exec ω (getIfaceDataLocked n) k s = .ok (r, s', k')

/-- The instances 1 to `c` are those of the entries with the indices 0 to `c - 1`, they are found
there and no others are, and the events in the queue are theirs. -/
structure NumbersAgree (c : ℕ) (s : Sys) : Prop where
  table : ∀ i < c, (s.table i).cfg.instanceNumber = i + 1
  found : ∀ n, 1 ≤ n → n ≤ c → ∃ i, (s.table i).cfg.instanceNumber = n ∧ LookupGives s n (some i)
  notFound : ∀ n, ¬ (1 ≤ n ∧ n ≤ c) → LookupGives s n none
  queue : ∀ ev ∈ s.queue, 1 ≤ ev.pppIfInstance ∧ ev.pppIfInstance ≤ c

/-! ### Lookups -/

section

variable {t : Thread} {ω : Answers} {k : ℕ} {s : Sys}

/-- What a lookup gives. -/
theorem lookupGives (hs : Numbered s) (n : ℕ) :
  LookupGives s n (if 1 ≤ n ∧ n ≤ s.pppIfCount.toNat then some (n - 1) else none)
  := by
  intro t ω k hω hfree
  rw [getIfaceDataLocked]
  cases n with
  | zero =>
      use s, k
      rfl
  | succ i =>
      rw [Nat.add_sub_cancel] at hfree
      rw [if_neg (Nat.succ_ne_zero i), Machine.exec_bind, exec_dmlGetTotalNoOfPPPInterfaces,
        if_pos hω]
      dsimp only [Except.bind]
      by_cases hcount : s.pppIfCount.toNat < i + 1
      · use s, k + 1
        rw [if_pos hcount, if_neg (fun h => Nat.not_lt.mpr h.2 hcount)]
        rfl
      · have hle := Nat.not_lt.mp hcount
        have hi : ¬ pppTableLength ≤ i := Nat.not_le.mpr (Nat.le_trans hle hs.count_le)
        use s.setLock i (t :: s.locks i), k + 2
        rw [if_neg hcount, if_pos ⟨Nat.succ_pos i, hle⟩, Machine.exec_bind, Nat.add_sub_cancel, lock,
          perform, Program.perform, Machine.exec]
        simp only [step, if_neg hi]
        rw [if_pos hfree]
        rfl

end

/-! ### Runs -/

/-- The table is numbered for `c` interfaces, and the events in the queue are theirs. -/
structure NumberedFor (c : ℕ) (s : Sys) : Prop extends Numbered s where
  count : s.pppIfCount.toNat = c
  queue : ∀ ev ∈ s.queue, 1 ≤ ev.pppIfInstance ∧ ev.pppIfInstance ≤ c

section

variable {A : (o : Op) → o.Ans → Prop} {b : Build} {c n : ℕ} {s s' : Sys}

theorem NumberedFor.numbersAgree (h : NumberedFor c s) :
  NumbersAgree c s
  where
    table := by
      intro i hi
      rw [← h.count] at hi
      apply h.instanceNumber i hi
    found := by
      intro n hpos hn
      have hlookup := lookupGives h.toNumbered n
      rw [h.count, if_pos ⟨hpos, hn⟩] at hlookup
      refine ⟨n - 1, ?_, hlookup⟩
      rw [h.instanceNumber (n - 1), Nat.sub_add_cancel hpos]
      rw [h.count]
      omega
    notFound := by
      intro n hn
      have hlookup := lookupGives h.toNumbered n
      rw [h.count, if_neg hn] at hlookup
      apply hlookup
    queue := h.queue

/-- Events of one instance the PSM count covers are sent. -/
theorem NumberedFor.queue_of_sendsFor (h : NumberedFor c s) (hsends : SendsFor n s s') :
  ∀ ev ∈ s'.queue, 1 ≤ ev.pppIfInstance ∧ ev.pppIfInstance ≤ c
  := by
  obtain ⟨evs, hevs, hinstance⟩ := hsends
  intro ev hev
  rw [hevs.queue] at hev
  rcases List.mem_append.mp hev with hev | hev
  · apply h.queue ev hev
  · obtain ⟨heq, hpos, hle⟩ := hinstance ev hev
    rw [h.count] at hle
    omega

/-- An entry point keeps the numbers in step. -/
theorem NumberedFor.point {p : EntryPoint} (h : NumberedFor c s) (hends : PointEnds A b s p s') :
  NumberedFor c s'
  := by
  refine ⟨hends.numbered h.toNumbered, hends.pppIfCount ▸ h.count, ?_⟩
  cases hends with
  | quiet p hp hquiet =>
      rw [hquiet.queue]
      apply h.queue
  | getEntry => apply h.queue
  | setEnable hends | enable hends => apply h.queue_of_sendsFor (hends.sendsFor h.toNumbered)
  | setReset hends | reset hends => apply h.queue_of_sendsFor (hends.sendsFor h.toNumbered)
  | message hends =>
      cases hends with
      | ignored => apply h.queue
      | dispatched i hi hcount hpid hfirst hends =>
          apply h.queue_of_sendsFor (hends.sendsFor h.toNumbered hcount)
  | takeEvent hqueue hends =>
      intro ev hev
      rw [hends.queue] at hev
      apply h.queue ev
      rw [hqueue]
      apply List.mem_cons_of_mem _ hev
  | event hends =>
      rw [hends.queue]
      apply h.queue
  | start hends =>
      rw [hends.queue]
      apply h.queue
  | stop hends => apply h.queue_of_sendsFor (hends.sendsFor h.toNumbered)

theorem Initial.numberedFor (hs : Initial s) :
  NumberedFor s.pppIfCount.toNat s
  where
    toNumbered := hs.toNumbered
    count := rfl
    queue := by
      rw [hs.queue]
      nofun

/-- In every state the manager reaches from the one its table is loaded in, where the number of
interfaces can always be read, the numbers of the interfaces agree. -/
theorem numbers_agree {t : Thread} {ω : Answers} {psm : CStr → Option CStr} {k : ℕ} {ls : List Access}
    (hω : ∀ k, ω k (.psmGet psmPppManagerPppIfCount) = true)
    (hinit : (machine t).exec ω (backEndManagerInitialize b) 0 (Sys.blank psm) = .ok ((), s, k))
    (hls : ∀ l ∈ ls, l.Allowed CountKnown) (hrun : run (Access.next b) ls s = some s') :
  NumbersAgree s.pppIfCount.toNat s'
  := by
  have hinitial := initial_of_initialize hω hinit
  apply NumberedFor.numbersAgree
  apply run_invariant (G := fun l _ => l.Allowed CountKnown) _ hinitial.numberedFor
    (throughout_of_forall fun l hl _ => hls l hl) hrun
  intro l s₁ s₂ h hl hnext
  apply h.point (l.ends hl hnext)

end

/-! ### A queued start -/

/-- A database that knows of one interface. -/
def oneInterface : CStr → Option CStr :=
  fun name => if name = psmPppManagerPppIfCount then some "1".toList else none

theorem numbers_agree_enabling :
  ∃ s s' k, (machine .dataModel).exec (workingOutside 1 none []).answers
      (backEndManagerInitialize (plainBuild false)) 0 (Sys.blank oneInterface) = .ok ((), s, k) ∧
    run (Access.next (plainBuild false)) [enabling] s = some s' ∧
    s'.queue.map PppEventQData.pppIfInstance = [1] ∧ NumbersAgree 1 s'
  := by
  have hend : (((machine .dataModel).exec (workingOutside 1 none []).answers
      (backEndManagerInitialize (plainBuild false)) 0 (Sys.blank oneInterface)).toOption.bind
        fun r => (run (Access.next (plainBuild false)) [enabling] r.2.1).map fun s' =>
          (r.2.1.pppIfCount.toNat, s'.queue.map PppEventQData.pppIfInstance)) = some (1, [1]) := by
    decide +kernel
  obtain ⟨⟨_, s, k⟩, hinit, hrest⟩ := Option.bind_eq_some_iff.mp hend
  obtain ⟨s', hrun, hs'⟩ := Option.map_eq_some_iff.mp hrest
  obtain ⟨hcount, hqueue⟩ := Prod.mk.inj hs'
  have hinit := eq_ok_of_toOption hinit
  refine ⟨s, s', k, hinit, hrun, hqueue, ?_⟩
  have hagree := numbers_agree (fun _ => rfl) hinit (fun l hl => ?_) hrun
  · rw [hcount] at hagree
    apply hagree
  · obtain rfl := List.mem_singleton.mp hl
    apply Outside.allowed_countKnown rfl

end PppManager
