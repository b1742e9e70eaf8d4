import PppManager.Manager.Balance
import PppManager.Manager.Outside

/-!
# Lock discipline

Every entry point gives back the mutexes it takes, gives back only mutexes its thread holds, and holds
the mutex of one interface at a time (`lock_discipline`).  The setters of `Enable` and `Reset` hold
the mutex of their entry while they look the entry up by its instance number, so that for them it
matters that the entries are numbered.
-/

namespace PppManager

open Effect Effect.Program Function CText

section

variable {t : Thread} {R : Meanwhile t} {L : ℕ → Prop} {W : Prop} {i : ℕ} {s : Sys} {b : Build}

/-! ### Events -/

theorem balanced_wanInstanceOf {n : ℕ} (hi : i = n - 1) :
  Balanced R L W i (wanInstanceOf n)
  := by
  apply balanced_getIfaceDataLocked hi
  · apply balanced_pure
  · apply Releases.after neutral_load
    intro pEntry
    apply releases_pure

theorem guarded_dmlWanmanagerSetParamValues {component bus name value : CStr}
    (hheld : ¬ HoldsTwo t L s) (hfree : W ∨ HoldsNone t s) :
  (guarded R L W).wp (dmlWanmanagerSetParamValues component bus name value)
    (fun _ s' => owns t s' = owns t s) s
  := by
  rw [dmlWanmanagerSetParamValues, Contract.wp_bind]
  apply guarded_perform (o := .busSet component bus name value) (by rintro _ ⟨⟩)
    ⟨hheld, by rintro _ ⟨⟩, fun _ => hfree⟩
  intro x r s' hstep
  obtain ⟨-, rfl⟩ := Prod.mk.inj (Except.ok.inj hstep)
  dsimp only
  split_ifs <;> rfl

/-- An event that sets a parameter is handled with no mutex held, and one that starts a client as the
start is. -/
theorem guarded_processPppEvent {ev : PppEventQData} (hL : ∀ j, t ∈ s.locks j → L j)
    (hfree : W ∨ HoldsNone t s)
    (hask : ∀ i s', ev.starts = some (i + 1) → i < pppTableLength → i < s.pppIfCount.toNat →
      R.leads i s s' → (s'.table i).AsksVlan b → W) :
  (guarded R L W).wp (processPppEvent b ev) (fun _ s' => owns t s' = owns t s) s
  := by
  have hone : ∀ i, HoldsOnly t L i s := fun i j hj => .inl (hL j hj)
  rw [processPppEvent]
  split_ifs with hpos
  · rfl
  · cases haction : ev.action with
    | busSet =>
        cases ev.keyPath with
        | none => rfl
        | some keyPath =>
            cases ev.comPath with
            | none => rfl
            | some comPath =>
                cases ev.busPath with
                | none => rfl
                | some busPath =>
                    dsimp only
                    rw [Contract.wp_bind]
                    apply Contract.wp_mono _ (balanced_wanInstanceOf rfl s (hone _))
                    intro pair s' hs'
                    rw [← hs']
                    apply guarded_dmlWanmanagerSetParamValues
                    · apply ((hone 0).of_owns hs').not_two
                    · apply hfree.imp_right
                      intro h
                      apply h.of_owns hs'
    | execPppClient =>
        dsimp only
        rw [Contract.wp_bind]
        apply Contract.wp_mono _ (guarded_startPppClient rfl (hone _) hfree _)
        · intro _ s' hs'
          apply hs'
        · intro s' hn
          apply hask
          rw [PppEventQData.starts, if_pos ⟨Int.not_le.mp hpos, haction⟩, ← hn]

/-! ### The data model -/

theorem guarded_getter (g : Getter) (hL : ∀ j, t ∈ s.locks j → L j) :
  (guarded R L W).wp (g.code b) (fun _ s' => owns t s' = owns t s) s
  := by
  have hone : ∀ i, HoldsOnly t L i s := fun i j hj => .inl (hL j hj)
  cases hg : g.readsStats with
  | false =>
      obtain ⟨p, hcode, hp, -⟩ := getter_bracket (W := W) (C := True) (b := b) hg
      rw [hcode]
      apply (balanced_of_neutral (neutral_local hp)).bracket s (hone _)
  | true =>
      cases g with
      | statsUlong i paramName =>
          apply Balanced.map _ s (hone i)
          apply Balanced.bind
          · apply balanced_of_neutral
            apply only_bind neutral_load
            intro pEntry
            apply only_ite
            · intro _
              apply only_bind (reads_op (P := Op.IsNeutral W) (o := .readFile _) False.elim)
              rintro (_ | text) <;> apply only_pure
            · intro _
              apply reads_undefined False.elim
          · intro stats
            apply (balanced_pure (statsUlongParam paramName stats)).bracket
      | _ => cases hg

/-- The setters of `Enable` and `Reset` take the mutex of their entry once more, if it is
numbered. -/
theorem guarded_setter (w : Setter) (hL : ∀ j, t ∈ s.locks j → L j)
    (hnumber : w.isRequest = true → (∀ j, L j) ∨
      ∀ s', R.leads w.handle s s' → (s'.table w.handle).cfg.instanceNumber = w.handle + 1) :
  (guarded R L W).wp (w.code b) (fun _ s' => owns t s' = owns t s) s
  := by
  have hone : ∀ i, HoldsOnly t L i s := fun i j hj => .inl (hL j hj)
  cases hw : w.isRequest with
  | false =>
      obtain ⟨p, hcode, hp, -⟩ := setter_bracket (W := W) (b := b) hw (fun _ => trivial)
      rw [hcode]
      apply (balanced_of_neutral (neutral_local hp)).bracket s (hone _)
  | true =>
      cases w with
      | interfaceBool i paramName bValue =>
          show (guarded R L W).wp (bracket i (writeBoolParam b i paramName bValue)) _ s
          apply guarded_bracket (hone i)
          intro s' hs'
          have htaken : HoldsOnly t L i (s'.setLock i (t :: s'.locks i)) :=
            (hone i).of_update (R.owns_taken hs')
          have hagain : HoldsOnly t L ((s'.table i).cfg.instanceNumber - 1)
              (s'.setLock i (t :: s'.locks i)) := by
            rcases hnumber hw with hall | hi
            · exact fun j _ => .inl (hall j)
            · rw [show (s'.table i).cfg.instanceNumber = i + 1 from hi s' hs', Nat.add_sub_cancel]
              apply htaken
          rw [writeBoolParam]
          have hwrite : ∀ f, (guarded R L W).wp (do store i f; pure true)
              (fun _ s₁ => owns t s₁ = owns t (s'.setLock i (t :: s'.locks i)))
              (s'.setLock i (t :: s'.locks i)) := by
            intro f
            apply guarded_of_neutral _ htaken.not_two
            apply only_bind (neutral_set f)
            intro _
            apply only_pure
          split_ifs
          · rw [Contract.wp_bind]
            apply guarded_load htaken.not_two
            apply balanced_enableIf rfl _ _ hagain
          · apply hwrite
          · apply hwrite
          · rw [Contract.wp_bind]
            apply guarded_load htaken.not_two
            apply Balanced.ite _ _ _ hagain
            · intro _
              apply balanced_pppDmlIfReset rfl
            · intro _
              apply balanced_pure
          · rfl
      | _ => cases hw

theorem guarded_interfaceGetEntry {nIndex : ℕ} (hL : ∀ j, t ∈ s.locks j → L j) :
  (guarded R L W).wp (interfaceGetEntry nIndex) (fun _ s' => owns t s' = owns t s) s
  := by
  have hcode : interfaceGetEntry nIndex =
      (fun _ => nIndex) <$> bracket nIndex (store nIndex (·.setInstanceNumber (nIndex + 1))) := by
    simp only [interfaceGetEntry, bracket, map_eq_pure_bind, LawfulMonad.bind_assoc, pure_bind]
  rw [hcode]
  apply (balanced_of_neutral (neutral_set _)).bracket.map s
  intro j hj
  apply Or.inl (hL j hj)

/-! ### Messages -/

theorem balanced_dispatchPppState {n : ℤ} {msg : IpcPppEventMsg} (hi : i = n.toNat - 1) :
  Balanced R L W i (dispatchPppState b n msg)
  := by
  rw [dispatchPppState]
  cases msg.pppState with
  | ipcpCompleted | ipcpFailed => apply balanced_processIpcpParams hi
  | ipv6cpCompleted | ipv6cpFailed => apply balanced_processIpv6cpParams hi
  | unknown code => apply balanced_pure
  | _ => apply balanced_processStateChangedMsg hi

theorem guarded_processPppState {m : IpcMsgPayload} (hL : ∀ j, t ∈ s.locks j → L j) :
  (guarded R L W).wp (processPppState b m) (fun _ s' => owns t s' = owns t s) s
  := by
  have hone : ∀ i, HoldsOnly t L i s := fun i j hj => .inl (hL j hj)
  rw [processPppState]
  split_ifs
  · rfl
  · rw [Contract.wp_bind, getIfaceDataWithPid, Contract.wp_bind]
    apply Contract.wp_mono _
      (guarded_of_neutral neutral_dmlGetTotalNoOfPPPInterfaces (hone 0).not_two)
    intro total s₁ hs₁
    apply Contract.wp_mono _ (balanced_getIfaceDataWithPidLoop _ _ _ s₁ _)
    · intro n s₂ hs₂
      have howns := hs₂.trans hs₁
      rw [← howns]
      split_ifs
      · rfl
      · apply balanced_dispatchPppState rfl s₂ ((hone _).of_owns howns)
    · intro j hj
      rw [← owns_pos, hs₁, owns_pos] at hj
      apply hL j hj

/-! ### Entry points -/

/-- An entry point keeps the contract, if the entry of a setter that makes a request is numbered, and
if `W` holds where a start asks for the VLAN of its entry. -/
theorem guarded_point {p : EntryPoint} {R : Meanwhile p.thread} (hL : ∀ j, p.thread ∈ s.locks j → L j)
    (hfree : W ∨ HoldsNone p.thread s)
    (hnumber : ∀ w, p = .setter w → w.isRequest = true → (∀ j, L j) ∨
      ∀ s', R.leads w.handle s s' → (s'.table w.handle).cfg.instanceNumber = w.handle + 1)
    (hask : ∀ i s', p.starts s = some (i + 1) → i < pppTableLength → i < s.pppIfCount.toNat →
      R.leads i (p.taken s) s' → (s'.table i).AsksVlan b → W) :
  (guarded R L W).wp (p.code b) (fun _ s' => owns p.thread s' = owns p.thread s) s
  := by
  have hone : ∀ i, HoldsOnly p.thread L i s := fun i j hj => .inl (hL j hj)
  have htotal : Only (Op.IsNeutral W) dmlGetTotalNoOfPPPInterfaces :=
    neutral_dmlGetTotalNoOfPPPInterfaces
  cases p with
  | getter g => apply guarded_getter g hL
  | setter w =>
      rw [EntryPoint.code, Contract.wp_map]
      apply guarded_setter w hL (hnumber w rfl)
  | constant => rfl
  | getEntryCount =>
      rw [EntryPoint.code, Contract.wp_map]
      apply guarded_of_neutral htotal (hone 0).not_two
  | getEntry nIndex =>
      rw [EntryPoint.code, Contract.wp_map]
      apply guarded_interfaceGetEntry hL
  | validate i =>
      rw [EntryPoint.code, Contract.wp_map]
      apply guarded_of_neutral _ (hone 0).not_two
      apply only_bind htotal
      intro ulEntryCount
      apply only_bind neutral_load
      intro pEntry
      apply neutral_validateLoop
  | message m =>
      rw [EntryPoint.code, Contract.wp_map]
      apply guarded_processPppState hL
  | takeEvent =>
      rw [EntryPoint.code, handleQueue, Contract.wp_bind, mqReceive]
      apply guarded_perform (o := .mqReceive) (by rintro _ ⟨⟩)
        ⟨(hone 0).not_two, by rintro _ ⟨⟩, False.elim⟩
      intro x r s' hstep
      rw [step] at hstep
      cases hqueue : s.queue with
      | nil =>
          rw [hqueue] at hstep
          obtain ⟨rfl, rfl⟩ := Prod.mk.inj (Except.ok.inj hstep)
          rfl
      | cons ev evs =>
          rw [hqueue] at hstep
          obtain ⟨rfl, rfl⟩ := Prod.mk.inj (Except.ok.inj hstep)
          dsimp only
          rw [Contract.wp_bind]
          apply Contract.wp_mono _
            (guarded_processPppEvent (s := { s with queue := evs }) hL hfree _)
          · intro _ s'' hs''
            apply hs''
          · intro i s' hstarts hi hcount hleads
            apply hask i s' _ hi hcount
            · rw [EntryPoint.taken, hqueue]
              apply hleads
            · rw [EntryPoint.starts, hqueue]
              apply hstarts
  | event ev =>
      rw [EntryPoint.code, Contract.wp_map]
      apply guarded_processPppEvent hL hfree hask
  | start n =>
      rw [EntryPoint.code, Contract.wp_map]
      apply guarded_startPppClient rfl (hone _) hfree
      intro s' hn
      apply hask (n - 1)
      rw [← hn]
      rfl
  | stop n =>
      rw [EntryPoint.code, Contract.wp_map]
      apply balanced_stopPppClient rfl s (hone _)
  | enable n v =>
      rw [EntryPoint.code, Contract.wp_map]
      apply balanced_enableIf rfl v s (hone _)
  | reset n =>
      rw [EntryPoint.code, Contract.wp_map]
      apply balanced_pppDmlIfReset rfl s (hone _)

end

/-- An entry point leaves every thread with the mutexes it held. -/
theorem owns_of_exec {b : Build} {p : EntryPoint} {ω : Answers} {s s' : Sys} {u : Unit} {k : ℕ}
    (hexec : (machine p.thread).exec ω (p.code b) 0 s = .ok (u, s', k)) (t : Thread) :
  owns t s' = owns t s
  := by
  have hany := only_of_forall (fun _ => trivial) (p.code b)
  by_cases ht : t = p.thread
  · obtain rfl := ht
    have hguarded : (guarded (.nothing p.thread) (fun _ => True) True).wp (p.code b)
        (fun _ s' => owns p.thread s' = owns p.thread s) s := by
      apply guarded_point (fun _ _ => trivial) (.inl trivial)
      · intro w _ _
        exact .inl fun _ => trivial
      · intros
        trivial
    rw [Machine.exec_alike (step_unwaited ω) hany] at hexec
    apply Contract.wp_exec_ok _ hguarded hexec
    intro _ _ _ _
    rfl
  · have hothers : (contract p.thread (fun _ _ => True) True).wp (p.code b)
        (fun _ s' => owns t s' = owns t s) s := by
      apply Contract.wp_of_only (P := fun _ => True) (I := fun s' => owns t s' = owns t s) _ _ hany rfl
      · intro o s' _ _ _
        apply Or.inr trivial
      · intro o x s' _ _ hs'
        cases hstep : (machine p.thread).step o x s' with
        | ok r => apply (owns_of_step ht hstep).trans hs'
        | error e => apply fun _ => trivial
    apply Contract.wp_exec_ok _ hothers hexec
    intro _ _ _
    trivial

/-- What a call of an entry point does with the mutexes: it leaves its thread with each of them as
often as it held it, it gives back only mutexes the thread holds, and at no moment does the thread
hold the mutexes of two different interfaces, neither of which it held before. -/
structure LockDiscipline (b : Build) (p : EntryPoint) (ω : Answers) (s : Sys) : Prop where
  balanced : ∀ u s' k, (machine p.thread).exec ω (p.code b) 0 s = .ok (u, s', k) →
    ∀ i, (s'.locks i).count p.thread = (s.locks i).count p.thread
  owned : ¬ (machine p.thread).Performs ω (fun o s' => ∃ i, o = .unlock i ∧ p.thread ∉ s'.locks i)
    (p.code b) 0 s
  single : ¬ (machine p.thread).Performs ω
    (fun _ s' => HoldsTwo p.thread (fun i => p.thread ∈ s.locks i) s') (p.code b) 0 s

/-- In a table that is numbered, every entry point keeps the lock discipline, if the setters of
`Enable` and `Reset` are called with the handle of an interface. -/
theorem lock_discipline {b : Build} {p : EntryPoint} {ω : Answers} {s : Sys} (hs : Numbered s)
    (hp : ∀ w, p = .setter w → w.isRequest = true → w.handle < s.pppIfCount.toNat) :
  LockDiscipline b p ω s
  := by
  have hguarded : (guarded (.nothing p.thread) (fun i => p.thread ∈ s.locks i) True).wp (p.code b)
      (fun _ s' => owns p.thread s' = owns p.thread s) s := by
    apply guarded_point (fun _ h => h) (.inl trivial)
    · intro w hw hrequest
      right
      rintro s' rfl
      apply hs.instanceNumber _ (hp w hw hrequest)
    · intros
      trivial
  have hresp : (guarded (.nothing p.thread) (fun i => p.thread ∈ s.locks i) True).Respects
      (unwaited ω) := fun _ _ _ _ => rfl
  have halike := step_unwaited (t := p.thread) ω
  have hany := only_of_forall (fun _ => trivial) (p.code b)
  constructor
  · intro u s' k hexec
    apply congrFun (owns_of_exec hexec p.thread)
  · rw [Machine.performs_alike halike hany]
    apply Contract.wp_performs hresp _ hguarded
    rintro o s' hsafe ⟨i, rfl, hi⟩
    apply hi (hsafe.2.1 i rfl)
  · rw [Machine.performs_alike halike hany]
    apply Contract.wp_performs hresp _ hguarded
    intro o s' hsafe
    apply hsafe.1

theorem lock_discipline_enable :
  (Access.next (plainBuild false)
      ⟨.setter (.interfaceBool 0 "Enable".toList true), (workingOutside 1 none []).answers⟩
      (freshState 1)).isSome = true ∧
    LockDiscipline (plainBuild false) (.setter (.interfaceBool 0 "Enable".toList true))
      (workingOutside 1 none []).answers (freshState 1)
  := by
  use by decide +kernel
  have hcount : (freshState 1).pppIfCount.toNat = 1 := by
    decide +kernel
  apply lock_discipline
  · apply (initial_freshState _).toNumbered
    rw [hcount]
    decide
  · intro w hw _
    obtain rfl := EntryPoint.setter.inj hw
    rw [hcount]
    apply Nat.zero_lt_one

end PppManager
