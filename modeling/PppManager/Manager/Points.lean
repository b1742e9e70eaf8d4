import PppManager.Manager.Local
import PppManager.Manager.Sends

/-!
# What the entry points do

Most functions of the data model are quiet: they send no event, keep the number of interfaces, and
change entries only as the data model does (`QuietChange`).  The other entry points end as the calls
they make do (`PointEnds`).  So the ways an entry point changes an entry are those of `EntryChange`.
-/

namespace PppManager

open Effect Effect.Program CText

/-! ### Quiet programs -/

/-- The operation sends and takes no event, keeps the number of interfaces, and runs a command only
if `C` holds. -/
def Op.IsQuiet (C : Prop) : Op → Prop
  | .psmSet name _ => name ≠ psmPppManagerPppIfCount
  | .mqOpen => False
  | .mqSend _ => False
  | .mqReceive => False
  | .busSet _ _ _ _ => False
  | .system _ => C
  | _ => True

/-- A quiet operation that writes to no entry. -/
def Op.IsQuietRead (C : Prop) (o : Op) : Prop :=
  o.IsQuiet C ∧ o.StoresNothing

/-- The act neither sends an event nor writes to the bus, and runs a command only if `C` holds. -/
def Act.IsQuiet (C : Prop) : Act → Prop
  | .post _ => False
  | .busSet _ _ _ _ => False
  | .system _ => C
  | _ => True

/-- What a quiet function may change that leaves the table `T`, where it runs a command only if `C`
holds. -/
structure QuietTable (C : Prop) (T : ℕ → DmlPppIfFull) (s s' : Sys) : Prop where
  table : s'.table = T
  queue : s'.queue = s.queue
  count : s'.psm psmPppManagerPppIfCount = s.psm psmPppManagerPppIfCount
  acts : s.Extends (Act.IsQuiet C) s'

/-- What a quiet function may change, where it runs a command only if `C` holds. -/
structure QuietChange (C : Prop) (s s' : Sys) : Prop where
  entries : ∀ i, DataChange (s.table i) (s'.table i)
  queue : s'.queue = s.queue
  count : s'.psm psmPppManagerPppIfCount = s.psm psmPppManagerPppIfCount
  acts : s.Extends (Act.IsQuiet C) s'

theorem Op.IsQuery.isQuietRead {C : Prop} {o : Op} (ho : o.IsQuery) :
  o.IsQuietRead C
  := by
  cases o <;> first | exact ⟨trivial, trivial⟩ | exact ho.elim

theorem Op.OnEntry.isQuiet {K : (DmlPppIfFull → DmlPppIfFull) → Prop} {W C : Prop} {i : ℕ} {o : Op}
    (ho : o.OnEntry K W C i) :
  o.IsQuiet C
  := by
  cases o with
  | psmSet name value => apply ho
  | system command => apply ho
  | lock | unlock | mqOpen | mqSend | mqReceive | busSet => apply ho.elim
  | _ => trivial

section

variable {t : Thread} {A : (o : Op) → o.Ans → Prop} {C F : Prop} {s : Sys} {α β : Type} {b : Build}
  {T : ℕ → DmlPppIfFull}

theorem quietTable_self :
  QuietTable C s.table s s
  := ⟨rfl, rfl, rfl, Sys.extends_self s⟩

theorem QuietTable.emit {s' : Sys} {a : Act} (h : QuietTable C T s s') (ha : a.IsQuiet C) :
  QuietTable C T s (s'.emit a)
  := ⟨h.table, h.queue, h.count, h.acts.emit ha⟩

theorem QuietTable.setEntry {s' : Sys} {i : ℕ} {e : DmlPppIfFull} (h : QuietTable C T s s') :
  QuietTable C (Function.update T i e) s (s'.setEntry i e)
  where
    table := by
      rw [Sys.setEntry_table, h.table]
    queue := h.queue
    count := h.count
    acts := h.acts

theorem QuietTable.setRecord {s' : Sys} {name value : CStr} (h : QuietTable C T s s')
    (hname : name ≠ psmPppManagerPppIfCount) :
  QuietTable C T s (s'.setRecord name value)
  where
    table := h.table
    queue := h.queue
    count := by
      rw [Sys.setRecord_psm, Function.update_of_ne hname.symm, h.count]
    acts := h.acts

theorem quietChange_self (C : Prop) (s : Sys) :
  QuietChange C s s
  := ⟨fun _ => .kept, rfl, rfl, Sys.extends_self s⟩

/-- The data model keeps what the rest of the manager goes by. -/
theorem QuietChange.vital {s' : Sys} (h : QuietChange C s s') (i : ℕ) :
  (s'.table i).vital = (s.table i).vital
  := (h.entries i).vital

theorem QuietTable.step {o : Op} (ho : o.IsQuietRead C) {x : o.Ans} {s' s'' : Sys} {r : o.Res}
    (h : QuietTable C T s s') (hstep : step t o x s' = .ok (r, s'')) :
  QuietTable C T s s''
  := by
  cases o with
  | mqOpen | mqSend | mqReceive | busSet => apply ho.1.elim
  | store => apply ho.2.elim
  | lock i =>
      rw [PppManager.step] at hstep
      split_ifs at hstep
      obtain ⟨-, rfl⟩ := Prod.mk.inj (Except.ok.inj hstep)
      exact ⟨h.table, h.queue, h.count, h.acts⟩
  | unlock i =>
      rw [PppManager.step] at hstep
      split at hstep
      · split_ifs at hstep
        obtain ⟨-, rfl⟩ := Prod.mk.inj (Except.ok.inj hstep)
        exact ⟨h.table, h.queue, h.count, h.acts⟩
      · cases hstep
  | load i =>
      rw [PppManager.step] at hstep
      split_ifs at hstep
      obtain ⟨-, rfl⟩ := Prod.mk.inj (Except.ok.inj hstep)
      apply h
  | undefined u => cases hstep
  | psmSet name value =>
      obtain ⟨rfl, rfl⟩ := Prod.mk.inj (Except.ok.inj hstep)
      split_ifs
      · apply h.setRecord ho.1
      · apply h
  | system command =>
      obtain ⟨-, rfl⟩ := Prod.mk.inj (Except.ok.inj hstep)
      apply h.emit
      apply ho.1
  | generateDuidFile | removeDuidFile | kill =>
      obtain ⟨-, rfl⟩ := Prod.mk.inj (Except.ok.inj hstep)
      apply h.emit
      trivial
  | _ =>
      obtain ⟨-, rfl⟩ := Prod.mk.inj (Except.ok.inj hstep)
      apply h

/-- Only sends wait for room in the queue. -/
theorem step_ne_queueFull {o : Op} (ho : o.IsQuiet C) {x : o.Ans} {s' : Sys} {e : Stop}
    (hstep : step t o x s' = .error e) :
  e ≠ .queueFull
  := by
  cases o with
  | mqOpen | mqSend | mqReceive | busSet => apply ho.elim
  | lock i | load i | store i f =>
      rw [PppManager.step] at hstep
      split_ifs at hstep <;> obtain rfl := Except.error.inj hstep <;> nofun
  | unlock i =>
      rw [PppManager.step] at hstep
      split at hstep
      · split_ifs at hstep
        obtain rfl := Except.error.inj hstep
        nofun
      · obtain rfl := Except.error.inj hstep
        nofun
  | undefined u =>
      obtain rfl := Except.error.inj hstep
      nofun
  | _ => cases hstep

/-- A program that only performs quiet operations and writes to no entry keeps the table. -/
theorem wp_of_quiet {p : Code α} (hp : Only (Op.IsQuietRead C) p) {s₀ : Sys} {Q : α → Sys → Prop}
    (hs : QuietTable C T s₀ s) (hQ : ∀ a s', QuietTable C T s₀ s' → Q a s') :
  (contract t A F).wp p Q s
  := by
  have h : (contract t A F).wp p (fun _ s' => QuietTable C T s₀ s') s := by
    apply Contract.wp_of_only (P := Op.IsQuietRead C) (I := QuietTable C T s₀) _ _ hp hs
    · rintro o s' ho - rfl
      apply ho.1.elim
    · intro o x s' ho _ hs'
      cases hstep : (machine t).step o x s' with
      | ok r => apply hs'.step ho hstep
      | error e =>
          intro he
          apply absurd he (step_ne_queueFull ho.1 hstep)
  apply Contract.wp_mono hQ h

/-- An operation of work on the entry `i` does to it what it does by itself. -/
theorem QuietTable.onEntry {i : ℕ} {W : Prop} {o : Op} (ho : o.OnEntry AnyWrite W C i)
    {e : DmlPppIfFull} {x : o.Ans} {s' s'' : Sys} {r : o.Res}
    (h : QuietTable C (Function.update T i e) s s')
    (hstep : PppManager.step t o x s' = .ok (r, s'')) :
  ∃ y e', entryStep o y e = .ok (r, e') ∧ QuietTable C (Function.update T i e') s s''
  := by
  have hentry : s'.table i = e := by
    rw [h.table, Function.update_self]
  cases o with
  | load j =>
      obtain rfl := ho
      rw [PppManager.step] at hstep
      split_ifs at hstep
      obtain ⟨rfl, rfl⟩ := Prod.mk.inj (Except.ok.inj hstep)
      use e, e
      rw [hentry]
      exact ⟨rfl, h⟩
  | store j f =>
      obtain ⟨rfl, -⟩ := ho
      rw [PppManager.step] at hstep
      split_ifs at hstep
      obtain ⟨-, rfl⟩ := Prod.mk.inj (Except.ok.inj hstep)
      refine ⟨(), f e, rfl, ?_⟩
      have hset := h.setEntry (i := j) (e := f e)
      rw [Function.update_idem] at hset
      rw [hentry]
      apply hset
  | undefined => cases hstep
  | _ => exact ⟨r, e, rfl, h.step ⟨ho.isQuiet, trivial⟩ hstep⟩

/-- Work on the entry `i` leaves it as it does by itself. -/
theorem wp_of_onEntry {i : ℕ} {W : Prop} {p : Code α} (hp : Only (Op.OnEntry AnyWrite W C i) p)
    {e : DmlPppIfFull} {s₀ : Sys} {R : α → DmlPppIfFull → Prop} (h : onEntry.wp p R e)
    {Q : α → Sys → Prop} (hs : QuietTable C (Function.update T i e) s₀ s)
    (hQ : ∀ a e' s', R a e' → QuietTable C (Function.update T i e') s₀ s' → Q a s') :
  (contract t A F).wp p Q s
  := by
  have hthrough : (contract t A F).wp p
      (fun a s' => ∃ e', QuietTable C (Function.update T i e') s₀ s' ∧ R a e') s := by
    apply Contract.wp_through (P := Op.OnEntry AnyWrite W C i)
      (R := fun e s' => QuietTable C (Function.update T i e) s₀ s') _ _ hp hs h
    · rintro o e s' ho - rfl
      apply ho.elim
    · intro o x e s' ho hs' _
      cases hstep : (machine t).step o x s' with
      | ok r =>
          obtain ⟨y, e', hentry, hs''⟩ := hs'.onEntry ho hstep
          exact ⟨y, e', trivial, hentry, hs''⟩
      | error stop =>
          intro hstop
          apply absurd hstop (step_ne_queueFull ho.isQuiet hstep)
  apply Contract.wp_mono _ hthrough
  rintro a s' ⟨e', hs', hR⟩
  apply hQ a e' s' hR hs'

/-- Work of the data model on the entry `i`, with its mutex held. -/
theorem wp_changesData {i : ℕ} {W : Prop} {p : Code α} (hp : Only (Op.OnEntry AnyWrite W C i) p)
    (hchanges : ChangesData p) {Q : α → Sys → Prop} (hQ : ∀ a s', QuietChange C s s' → Q a s') :
  (contract t A F).wp (bracket i p) Q s
  := by
  rw [bracket, Contract.wp_bind]
  apply wp_of_quiet (reads_op (P := Op.IsQuietRead C) (o := .lock i) ⟨trivial, trivial⟩)
    quietTable_self
  intro _ s₁ h₁
  rw [Contract.wp_bind]
  rw [← Function.update_eq_self i s.table] at h₁
  apply wp_of_onEntry hp (hchanges _) h₁
  intro a e s₂ he h₂
  rw [Contract.wp_bind]
  apply wp_of_quiet (reads_op (P := Op.IsQuietRead C) (o := .unlock i) ⟨trivial, trivial⟩) h₂
  intro _ s₃ h₃
  apply hQ a s₃
  refine ⟨?_, h₃.queue, h₃.count, h₃.acts⟩
  intro j
  rw [h₃.table]
  by_cases hj : j = i
  · obtain rfl := hj
    rw [Function.update_self]
    apply he
  · rw [Function.update_of_ne hj]
    apply DataChange.kept

/-- A quiet program that writes to no entry. -/
theorem wp_of_quietRead {p : Code α} (hp : Only (Op.IsQuietRead C) p) {Q : α → Sys → Prop}
    (hQ : ∀ a s', QuietChange C s s' → Q a s') :
  (contract t A F).wp p Q s
  := by
  apply wp_of_quiet hp quietTable_self
  intro a s' h
  apply hQ a s' ⟨_, h.queue, h.count, h.acts⟩
  intro i
  rw [h.table]
  apply DataChange.kept

/-! ### Quiet entry points -/

theorem quiet_bracket {K : (DmlPppIfFull → DmlPppIfFull) → Prop} {i : ℕ} {W : Prop} {p : Code α}
    (hp : Only (Op.OnEntry K W C i) p) :
  Only (Op.IsQuiet C) (bracket i p)
  := by
  apply only_bind (reads_op (P := Op.IsQuiet C) (o := .lock i) trivial)
  intro _
  apply only_bind (hp.mono (fun _ => Op.OnEntry.isQuiet))
  intro r
  apply only_bind (reads_op (P := Op.IsQuiet C) (o := .unlock i) trivial)
  intro _
  apply only_pure

theorem quiet_load (i : ℕ) :
  Only (Op.IsQuietRead C) (load i)
  := reads_op (P := Op.IsQuietRead C) (o := .load i) ⟨trivial, trivial⟩

theorem quiet_statsGetParamUlongValue (i : ℕ) (paramName : CStr) :
  Only (Op.IsQuietRead C) (statsGetParamUlongValue i paramName)
  := by
  apply only_bind
  · apply only_bind (quiet_load i)
    intro pEntry
    apply only_ite
    · intro _
      apply only_bind (reads_op (P := Op.IsQuietRead C) (o := .readFile _) ⟨trivial, trivial⟩)
      rintro (_ | text) <;> apply only_pure
    · intro _
      apply reads_undefined ⟨trivial, trivial⟩
  · intro stats
    apply only_bind (reads_op (P := Op.IsQuietRead C) (o := .lock i) ⟨trivial, trivial⟩)
    intro _
    apply only_bind (reads_op (P := Op.IsQuietRead C) (o := .unlock i) ⟨trivial, trivial⟩)
    intro _
    apply only_pure

theorem quiet_getter (g : Getter) :
  Only (Op.IsQuiet C) (g.code b)
  := by
  cases hg : g.readsStats with
  | false =>
      obtain ⟨p, hcode, hp, -⟩ := getter_bracket (W := True) (b := b) hg
      rw [hcode]
      apply quiet_bracket hp
  | true =>
      cases g with
      | statsUlong i paramName =>
          apply only_map ((quiet_statsGetParamUlongValue i paramName).mono (fun _ ho => ho.1))
      | _ => cases hg

theorem quiet_setter {w : Setter} (hw : w.isRequest = false) :
  Only (Op.IsQuiet (w.setsAutoDisconnectTime = true)) (w.code b)
  := by
  obtain ⟨p, hcode, hp, -⟩ := setter_bracket (W := True) (b := b) hw id
  rw [hcode]
  apply quiet_bracket hp

/-- A getter. -/
theorem wp_getter {g : Getter} {Q : Unit → Sys → Prop} (hQ : ∀ s', QuietChange C s s' → Q () s') :
  (contract t A F).wp (g.code b) Q s
  := by
  cases hg : g.readsStats with
  | false =>
      obtain ⟨p, hcode, hp, hchanges⟩ := getter_bracket (W := True) (b := b) hg
      rw [hcode]
      apply wp_changesData hp hchanges
      intro _
      apply hQ
  | true =>
      cases g with
      | statsUlong i paramName =>
          rw [Getter.code, Contract.wp_map]
          apply wp_of_quietRead (quiet_statsGetParamUlongValue i paramName)
          intro _
          apply hQ
      | _ => cases hg

/-- A setter that makes no request. -/
theorem wp_setter {w : Setter} (hw : w.isRequest = false) {Q : Bool → Sys → Prop}
    (hQ : ∀ r s', QuietChange (w.setsAutoDisconnectTime = true) s s' → Q r s') :
  (contract t A F).wp (w.code b) Q s
  := by
  obtain ⟨p, hcode, hp, hchanges⟩ := setter_bracket (W := True) (b := b) hw id
  rw [hcode]
  apply wp_changesData hp hchanges hQ

theorem quiet_validateLoop (i : ℕ) (name : CStr) (ulIndex k : ℕ) :
  Only (Op.IsQuietRead C) (validateLoop i name ulIndex k)
  := by
  induction k generalizing ulIndex with
  | zero => apply only_pure
  | succ k ih =>
      apply only_ite
      · intro _
        apply ih
      · intro _
        apply only_bind (quiet_load ulIndex)
        intro other
        apply only_ite
        · intro _
          apply only_pure
        · intro _
          apply ih

theorem quiet_interfaceValidate (i : ℕ) :
  Only (Op.IsQuietRead C) (interfaceValidate i)
  := by
  apply only_bind (reads_dmlGetTotalNoOfPPPInterfaces.mono (fun _ => Op.IsQuery.isQuietRead))
  intro ulEntryCount
  apply only_bind (quiet_load i)
  intro pEntry
  apply quiet_validateLoop

/-! ### How entry points end -/

/-- The entry point is a quiet function, or has nothing to do in the state. -/
def EntryPoint.isQuiet (s : Sys) : EntryPoint → Bool
  | .getter _ => true
  | .setter (.interfaceBool i paramName v) =>
    paramName = "Reset".toList && !((s.table i).cfg.bEnabled && v) ||
      !(Setter.interfaceBool i paramName v).isRequest
  | .setter _ => true
  | .constant => true
  | .getEntryCount => true
  | .validate _ => true
  | .takeEvent => s.queue.isEmpty
  | _ => false

/-- The entry point sets `AutoDisconnectTime`, the only quiet function that runs a command. -/
def EntryPoint.setsAutoDisconnectTime : EntryPoint → Bool
  | .setter w => w.setsAutoDisconnectTime
  | _ => false

/-- The ways an entry point ends. -/
inductive PointEnds (A : (o : Op) → o.Ans → Prop) (b : Build) (s : Sys) : EntryPoint → Sys → Prop
  | quiet (p : EntryPoint) {s' : Sys} (hp : p.isQuiet s = true)
      (h : QuietChange (p.setsAutoDisconnectTime = true) s s') : PointEnds A b s p s'
  | getEntry (nIndex : ℕ) (hi : nIndex < pppTableLength) : PointEnds A b s (.getEntry nIndex)
      (s.setEntry nIndex ((s.table nIndex).setInstanceNumber (nIndex + 1)))
  | setEnable {i : ℕ} {v r : Bool} {s' : Sys}
      (h : EnableEnds A b s (s.table i).cfg.instanceNumber v r s') :
      PointEnds A b s (.setter (.interfaceBool i "Enable".toList v)) s'
  | setReset {i : ℕ} {v r : Bool} {s' : Sys}
      (h : ResetEnds A b s (s.table i).cfg.instanceNumber r s')
      (henabled : ((s.table i).cfg.bEnabled && v) = true) :
      PointEnds A b s (.setter (.interfaceBool i "Reset".toList v)) s'
  | message {m : IpcMsgPayload} {r : AnscStatus} {s' : Sys} (h : PppStateEnds A b s m r s') :
      PointEnds A b s (.message m) s'
  | takeEvent {ev : PppEventQData} {evs : List PppEventQData} {r : AnscStatus} {s' : Sys}
      (hqueue : s.queue = ev :: evs) (h : EventEnds A b { s with queue := evs } ev r s') :
      PointEnds A b s .takeEvent s'
  | event {ev : PppEventQData} {r : AnscStatus} {s' : Sys} (h : EventEnds A b s ev r s') :
      PointEnds A b s (.event ev) s'
  | start {n : ℕ} {r : AnscStatus} {s' : Sys} (h : StartEnds A b s n r s') :
      PointEnds A b s (.start n) s'
  | stop {n : ℕ} {r : AnscStatus} {s' : Sys} (h : StopEnds A b s n r s') :
      PointEnds A b s (.stop n) s'
  | enable {n : ℕ} {v r : Bool} {s' : Sys} (h : EnableEnds A b s n v r s') :
      PointEnds A b s (.enable n v) s'
  | reset {n : ℕ} {r : Bool} {s' : Sys} (h : ResetEnds A b s n r s') :
      PointEnds A b s (.reset n) s'

theorem wp_interfaceGetEntry {nIndex : ℕ} {Q : ℕ → Sys → Prop}
    (hQ : nIndex < pppTableLength →
      Q nIndex (s.setEntry nIndex ((s.table nIndex).setInstanceNumber (nIndex + 1)))) :
  (contract t A F).wp (interfaceGetEntry nIndex) Q s
  := by
  rw [interfaceGetEntry, Contract.wp_bind, wp_lock]
  intro hi _
  rw [Contract.wp_bind, wp_store]
  intro _
  rw [Contract.wp_bind]
  apply wp_getIfaceDataRelease (l := s.locks nIndex)
  · simp
  · rw [Sys.setEntry_setLock, Sys.setLock_setLock, Sys.setLock_self _ _ (by simp)]
    apply hQ hi

/-- Every entry point ends in one of the ways listed. -/
theorem wp_point {p : EntryPoint} {Q : Unit → Sys → Prop} (hQ : ∀ s', PointEnds A b s p s' → Q () s') :
  (contract p.thread A True).wp (p.code b) Q s
  := by
  have hquiet : p.isQuiet s = true →
      Only (Op.IsQuietRead (p.setsAutoDisconnectTime = true)) (p.code b) →
      (contract p.thread A True).wp (p.code b) Q s := by
    intro hp h
    apply wp_of_quietRead h
    intro _ s' hs'
    apply hQ s' (.quiet p hp hs')
  cases p with
  | getter g =>
      apply wp_getter
      intro s' hs'
      apply hQ s' (.quiet _ rfl hs')
  | constant => apply hquiet rfl (only_pure ())
  | getEntryCount =>
      apply hquiet rfl
      apply only_map (reads_dmlGetTotalNoOfPPPInterfaces.mono (fun _ => Op.IsQuery.isQuietRead))
  | validate i => apply hquiet rfl (only_map (quiet_interfaceValidate i))
  | getEntry nIndex =>
      rw [EntryPoint.code, Contract.wp_map]
      apply wp_interfaceGetEntry
      intro hi
      apply hQ _ (.getEntry nIndex hi)
  | setter w =>
      cases hw : w.isRequest with
      | false =>
          rw [EntryPoint.code, Contract.wp_map]
          apply wp_setter hw
          intro _ s' hs'
          apply hQ s' (.quiet _ _ hs')
          cases w with
          | interfaceBool i paramName v =>
              rw [EntryPoint.isQuiet, hw, Bool.not_false, Bool.or_true]
          | _ => rfl
      | true =>
          rw [EntryPoint.code, Contract.wp_map]
          cases w with
          | interfaceBool i paramName bValue =>
              rcases Bool.or_eq_true_iff.mp hw with hname | hname
              · obtain rfl := of_decide_eq_true hname
                apply wp_setEnable (.inr trivial)
                intro r s' h
                apply hQ _ (.setEnable h)
              · obtain rfl := of_decide_eq_true hname
                apply wp_setReset (.inr trivial)
                · intro hignored
                  apply hQ _ (.quiet _ _ (quietChange_self _ s))
                  rw [EntryPoint.isQuiet, hignored]
                  rfl
                · intro r s' henabled h
                  apply hQ _ (.setReset h henabled)
          | _ => cases hw
  | message m =>
      rw [EntryPoint.code, Contract.wp_map]
      apply wp_processPppState
      · intro _ _
        apply Or.inr trivial
      · intro r s' h
        apply hQ _ (.message h)
  | takeEvent =>
      apply wp_handleQueue
      · intro hqueue
        apply hQ _ (.quiet _ _ (quietChange_self _ s))
        rw [EntryPoint.isQuiet, hqueue]
        rfl
      · intro ev evs r s' hqueue h
        apply hQ _ (.takeEvent hqueue h)
  | event ev =>
      rw [EntryPoint.code, Contract.wp_map]
      apply wp_processPppEvent
      intro r s' h
      apply hQ _ (.event h)
  | start n =>
      rw [EntryPoint.code, Contract.wp_map]
      apply wp_startPppClient
      intro r s' h
      apply hQ _ (.start h)
  | stop n =>
      rw [EntryPoint.code, Contract.wp_map]
      apply wp_stopPppClient (.inr trivial)
      intro r s' h
      apply hQ _ (.stop h)
  | enable n v =>
      rw [EntryPoint.code, Contract.wp_map]
      apply wp_enableIf (.inr trivial)
      intro r s' h
      apply hQ _ (.enable h)
  | reset n =>
      rw [EntryPoint.code, Contract.wp_map]
      apply wp_pppDmlIfReset (.inr trivial)
      intro r s' h
      apply hQ _ (.reset h)

/-- An entry point that is called with answers in `A` ends in one of the ways listed. -/
theorem Access.ends {l : Access} (hl : l.Allowed A) {s' : Sys} (h : l.next b s = some s') :
  PointEnds A b s l.point s'
  := l.next_ends (Q := fun _ s' => PointEnds A b s l.point s') hl (wp_point (fun _ h => h)) h

/-- An entry point ends in one of the ways listed for the answers its run gets. -/
theorem Access.ends_gets {l : Access} {s' : Sys} (h : l.next b s = some s') :
  PointEnds (l.Gets b s) b s l.point s'
  := l.next_ends_gets (Q := fun _ s' => PointEnds (l.Gets b s) b s l.point s')
    (wp_point (fun _ h => h)) h

/-! ### The entries -/

/-- The ways an entry point changes an entry; it attempts to start a client only if `S` holds, and
handles only state messages in `M`. -/
inductive EntryChange (b : Build) (S : Prop) (M : IpcPppEventMsg → Prop) (i : ℕ) (e : DmlPppIfFull) :
    DmlPppIfFull → Prop
  | data (e' : DmlPppIfFull) (h : DataChange e e') : EntryChange b S M i e e'
  | numbered : EntryChange b S M i e (e.setInstanceNumber (i + 1))
  | enabled : EntryChange b S M i e (e.setBEnabled true)
  | stopped : EntryChange b S M i e (stoppedEntry b e)
  | restarted : EntryChange b S M i e ((stoppedEntry b e).setBEnabled true)
  | switched (msg : IpcPppEventMsg) (uptime : ULong) (id : Option ULong) (hM : M msg) :
      EntryChange b S M i e (switchEntry msg uptime id e)
  | addressed (msg : IpcPppEventMsg) (hM : M msg) :
      EntryChange b S M i e (e.setAddresses msg.pppIpcpMsg.stored.1)
  | identified (msg : IpcPppEventMsg) (hM : M msg) :
      EntryChange b S M i e (e.storeIdentifiers msg.pppIpv6cpMsg)
  | attempted (hS : S) (e' : DmlPppIfFull) (he : Attempted b e e') : EntryChange b S M i e e'
  | launched (hS : S) (e' : DmlPppIfFull) (pid w v : ℤ) (he : Attempted b e e') :
      EntryChange b S M i e ((e'.setPppPid pid).setWanInstance w v)

/-- Only the entry of the instance `n` changes. -/
inductive TableChange (b : Build) (S : Prop) (M : IpcPppEventMsg → Prop) (n : ℕ) (s s' : Sys) :
    Prop
  | kept (h : s'.table = s.table)
  | entry (i : ℕ) (e : DmlPppIfFull) (hn : n = i + 1) (he : EntryChange b S M i (s.table i) e)
      (h : s'.table = Function.update s.table i e)

variable {S : Prop} {M : IpcPppEventMsg → Prop} {s' : Sys} {n : ℕ}

theorem EntryChange.instanceNumber {i : ℕ} {e e' : DmlPppIfFull} (h : EntryChange b S M i e e') :
  e'.cfg.instanceNumber = e.cfg.instanceNumber ∨ e'.cfg.instanceNumber = i + 1
  := by
  have hstopped : (stoppedEntry b e).cfg.instanceNumber = e.cfg.instanceNumber := by
    rw [stoppedEntry]
    split_ifs <;> rfl
  cases h with
  | data e' h => exact .inl (congrArg (fun v => v.1.1) h.vital)
  | numbered => exact .inr rfl
  | enabled | addressed | identified => exact .inl rfl
  | stopped | restarted => exact .inl hstopped
  | switched msg uptime id => exact .inl (switchEntry_instanceNumber msg uptime id e)
  | attempted _ e' he | launched _ e' pid w v he =>
      obtain ⟨u, p, -, rfl⟩ := he
      exact .inl rfl

theorem TableChange.entryChange (h : TableChange b S M n s s') (i : ℕ) :
  EntryChange b S M i (s.table i) (s'.table i)
  := by
  cases h with
  | kept h =>
      rw [h]
      apply EntryChange.data _ .kept
  | entry j e hn he h =>
      rw [h]
      by_cases hij : i = j
      · obtain rfl := hij
        rw [Function.update_self]
        apply he
      · rw [Function.update_of_ne hij]
        apply EntryChange.data _ .kept

/-- The other entries stay as they are. -/
theorem TableChange.table_of_ne (h : TableChange b S M n s s') {i : ℕ} (hi : n ≠ i + 1) :
  s'.table i = s.table i
  := by
  cases h with
  | kept h => rw [h]
  | entry j e hn he h =>
      rw [h, Function.update_of_ne]
      rintro rfl
      apply hi hn

theorem StopEnds.tableChange {q : AnscStatus} (h : StopEnds A b s n q s') :
  TableChange b S M n s s'
  := by
  cases h with
  | noEntry => apply TableChange.kept rfl
  | stopped i r₁ r₂ r₃ hn =>
      apply TableChange.entry i _ hn .stopped
      simp only [stoppedState, Sys.sent_table, Sys.emit_table, Sys.setEntry_table]

theorem EnqueueEnds.tableChange {q : AnscStatus} (h : EnqueueEnds A s n q s') :
  TableChange b S M n s s'
  := by
  cases h with
  | noEntry => apply TableChange.kept rfl
  | refused => apply TableChange.kept rfl
  | posted i hn => apply TableChange.entry i _ hn .enabled rfl

theorem EnableEnds.tableChange {v r : Bool} (h : EnableEnds A b s n v r s') :
  TableChange b S M n s s'
  := by
  cases h with
  | start h => apply h.tableChange
  | stop h => apply h.tableChange

theorem ResetEnds.tableChange {r : Bool} (h : ResetEnds A b s n r s') :
  TableChange b S M n s s'
  := by
  cases h with
  | notStopped h => apply h.tableChange
  | stopped h h' =>
      cases h' with
      | noEntry => apply h.tableChange
      | refused => apply h.tableChange
      | posted i hn =>
          cases h with
          | stopped j r₁ r₂ r₃ hj =>
              obtain rfl := Nat.succ_inj.mp (hj.symm.trans hn)
              apply TableChange.entry j _ hn .restarted
              simp only [stoppedState, Sys.post_table, Sys.sent_table, Sys.emit_table,
                Sys.setEntry_table, Function.update_idem, Function.update_self]

theorem StartEnds.tableChange (hS : S) {q : AnscStatus} (h : StartEnds A b s n q s') :
  TableChange b S M n s s'
  := by
  cases h with
  | noWanIface => apply TableChange.kept rfl
  | alreadyRunning => apply TableChange.kept rfl
  | rejected i e hn hi hstopped he => apply TableChange.entry i e hn (.attempted hS e he) rfl
  | launched i e cs command r w v hn hi hstopped he =>
      apply TableChange.entry i _ hn (.launched hS e _ w v he) rfl

theorem EventEnds.tableChange {ev : PppEventQData} (hS : ev.starts ≠ none → S) {q : AnscStatus}
    (h : EventEnds A b s ev q s') :
  TableChange b S M ev.pppIfInstance.toNat s s'
  := by
  cases h with
  | invalid => apply TableChange.kept rfl
  | busSet => exact .kept rfl
  | exec q s' hpos haction h =>
      apply h.tableChange
      apply hS
      rw [PppEventQData.starts, if_pos ⟨hpos, haction⟩]
      apply Option.some_ne_none

theorem DispatchEnds.tableChange {m : IpcPppEventMsg} {k : ℤ} {q : AnscStatus} (hM : M m)
    (h : DispatchEnds A b s k m q s') :
  TableChange b S M k.toNat s s'
  := by
  cases h with
  | stateChanged hkind h =>
      cases h with
      | noEntry => apply TableChange.kept rfl
      | quiet i uptime id w hn | refused i uptime id w v hn =>
          apply TableChange.entry i _ hn (.switched m uptime id hM)
          apply switchState_table
      | told i uptime id w v r hn =>
          apply TableChange.entry i _ hn (.switched m uptime id hM)
          rw [Sys.sent_table, Sys.post_table, switchState_table]
  | ipcp hkind h =>
      cases h with
      | noEntry => apply TableChange.kept rfl
      | down r =>
          apply TableChange.kept
          rw [Sys.sent_table]
      | stored i v r q hn =>
          apply TableChange.entry i _ hn (.addressed m hM)
          rw [Sys.sent_table, Sys.setEntry_table]
  | ipv6cp hkind h =>
      cases h with
      | badInstance => apply TableChange.kept rfl
      | noEntry => apply TableChange.kept rfl
      | completed i r hn =>
          apply TableChange.entry i _ hn (.identified m hM)
          rw [Sys.sent_table, Sys.emit_table, Sys.setEntry_table]
      | down i r =>
          apply TableChange.kept
          rw [Sys.sent_table, Sys.emit_table]
  | unknown => apply TableChange.kept rfl

theorem PppStateEnds.tableChange {m : IpcMsgPayload} {q : AnscStatus}
    (hM : m.msgType = .pppStateChange → HasPid s m.pppEventMsg.pid → M m.pppEventMsg)
    (h : PppStateEnds A b s m q s') :
  ∃ n, TableChange b S M n s s'
  := by
  cases h with
  | ignored => exact ⟨0, .kept rfl⟩
  | dispatched i hi hcount hpid hfirst h htype =>
      exact ⟨_, h.tableChange (hM htype ⟨i, hcount, hpid⟩)⟩

/-- The entry point handles the state message in the state. -/
def EntryPoint.Hears (s : Sys) (p : EntryPoint) (msg : IpcPppEventMsg) : Prop :=
  ∃ m, p = .message m ∧ m.msgType = .pppStateChange ∧ m.pppEventMsg = msg ∧ HasPid s msg.pid

/-- What an entry point does to the entries. -/
theorem PointEnds.entryChange {p : EntryPoint} (h : PointEnds A b s p s') (i : ℕ) :
  EntryChange b (p.starts s ≠ none) (p.Hears s) i (s.table i) (s'.table i)
  := by
  cases h with
  | quiet p hp h => apply EntryChange.data _ (h.entries i)
  | getEntry nIndex =>
      rw [Sys.setEntry_table]
      by_cases hi : i = nIndex
      · obtain rfl := hi
        rw [Function.update_self]
        apply EntryChange.numbered
      · rw [Function.update_of_ne hi]
        apply EntryChange.data _ .kept
  | @message m _ _ h =>
      obtain ⟨n, h⟩ := h.tableChange (M := EntryPoint.Hears s (.message m))
        (fun htype hpid => ⟨m, rfl, htype, rfl, hpid⟩)
      apply h.entryChange
  | setEnable h => apply h.tableChange.entryChange
  | setReset h => apply h.tableChange.entryChange
  | takeEvent hqueue h =>
      have htable := h.tableChange (S := EntryPoint.takeEvent.starts s ≠ none)
        (M := EntryPoint.takeEvent.Hears s) (fun hstarts => by
        rw [EntryPoint.starts, hqueue]
        apply hstarts)
      apply htable.entryChange
  | event h => apply (h.tableChange id).entryChange
  | start h => apply (h.tableChange nofun).entryChange
  | stop h => apply h.tableChange.entryChange
  | enable h => apply h.tableChange.entryChange
  | reset h => apply h.tableChange.entryChange

/-! ### The database -/

/-- No entry point changes the number of interfaces. -/
theorem PointEnds.pppIfCount {p : EntryPoint} (h : PointEnds A b s p s') :
  s'.pppIfCount = s.pppIfCount
  := by
  have hname : psmPppManagerPppIfCount ≠ psmPppSessionid := by
    decide
  have hpsm : s'.psm psmPppManagerPppIfCount = s.psm psmPppManagerPppIfCount := by
    cases h with
    | quiet p hp h => apply h.count
    | getEntry => rfl
    | setEnable h | enable h =>
        cases h with
        | start h => rw [h.psm]
        | stop h => rw [h.psm]
    | setReset h | reset h =>
        cases h with
        | notStopped h => rw [h.psm]
        | stopped h h' => rw [h'.psm, h.psm]
    | message h => apply h.psm_of_ne hname
    | takeEvent hqueue h | event h =>
        cases h with
        | invalid => rfl
        | busSet => rfl
        | exec q s' hpos haction h => rw [h.psm]
    | start h => rw [h.psm]
    | stop h => rw [h.psm]
  rw [Sys.pppIfCount, Sys.pppIfCount, hpsm]

theorem numbered_of_entryChange (hs : Numbered s)
    (hentry : ∀ i, EntryChange b S M i (s.table i) (s'.table i)) (hcount : s'.pppIfCount = s.pppIfCount) :
  Numbered s'
  where
    count_le := by
      rw [hcount]
      apply hs.count_le
    instanceNumber := by
      intro i hi
      rw [hcount] at hi
      rcases (hentry i).instanceNumber with hkept | hnew
      · rw [hkept, hs.instanceNumber i hi]
      · apply hnew

/-- A numbered table stays numbered. -/
theorem PointEnds.numbered {p : EntryPoint} (hs : Numbered s) (h : PointEnds A b s p s') :
  Numbered s'
  := numbered_of_entryChange hs h.entryChange h.pppIfCount

/-! ### The queue -/

/-- The call sends events of the instance `n` only, which the PSM count covers if it sends any. -/
def SendsFor (n : ℕ) (s s' : Sys) : Prop :=
  ∃ evs, Sends evs s s' ∧ ∀ ev ∈ evs, ev.pppIfInstance = n ∧ 0 < n ∧ n ≤ s.pppIfCount.toNat

theorem sendsFor_self (n : ℕ) (s : Sys) :
  SendsFor n s s
  := ⟨[], sends_self s, nofun⟩

theorem StopEnds.sendsFor (hs : Numbered s) {q : AnscStatus} (h : StopEnds A b s n q s') :
  SendsFor n s s'
  := by
  cases h with
  | noEntry => apply sendsFor_self
  | stopped i r₁ r₂ r₃ hn hi h₁ h₂ h₃ hcount =>
      refine ⟨_, sends_stoppedState i n r₁ r₂ r₃, ?_⟩
      intro ev hev
      rw [(setsFor_stopEvents ev hev).pppIfInstance, toInt_eq (Nat.le_trans hcount hs.count_le)]
      refine ⟨rfl, ?_, hcount⟩
      omega

theorem EnqueueEnds.sendsFor (hs : Numbered s) {q : AnscStatus} (h : EnqueueEnds A s n q s') :
  SendsFor n s s'
  := by
  cases h with
  | noEntry => apply sendsFor_self
  | refused => apply sendsFor_self
  | posted i hn hi hcount =>
      refine ⟨_, (sends_self s).setEntry.post, ?_⟩
      intro ev hev
      obtain rfl := List.mem_singleton.mp hev
      have hinst := toInt_eq (Nat.le_trans hcount hs.count_le)
      rw [hs.instanceNumber i (by omega), ← hn, hinst]
      refine ⟨rfl, ?_, hcount⟩
      omega

theorem SendsFor.trans {s₁ : Sys} (h : SendsFor n s s₁) (h' : SendsFor n s₁ s')
    (hcount : s₁.pppIfCount = s.pppIfCount) :
  SendsFor n s s'
  := by
  obtain ⟨evs, hsends, hevs⟩ := h
  obtain ⟨evs', hsends', hevs'⟩ := h'
  refine ⟨_, hsends.trans hsends', ?_⟩
  intro ev hev
  rcases List.mem_append.mp hev with hev | hev
  · apply hevs ev hev
  · rw [← hcount]
    apply hevs' ev hev

theorem EnableEnds.sendsFor (hs : Numbered s) {v r : Bool} (h : EnableEnds A b s n v r s') :
  SendsFor n s s'
  := by
  cases h with
  | start h => apply h.sendsFor hs
  | stop h => apply h.sendsFor hs

theorem ResetEnds.sendsFor (hs : Numbered s) {r : Bool} (h : ResetEnds A b s n r s') :
  SendsFor n s s'
  := by
  cases h with
  | notStopped h => apply h.sendsFor hs
  | @stopped _ s₁ _ h h' =>
      have hcount : s₁.pppIfCount = s.pppIfCount := by
        rw [Sys.pppIfCount, Sys.pppIfCount, h.psm]
      have hs₁ := numbered_of_entryChange hs (h.tableChange (S := False) (M := fun _ => False)).entryChange hcount
      apply (h.sendsFor hs).trans (h'.sendsFor hs₁) hcount

/-- What the handler of a state message sends is for the instance of the entry. -/
theorem DispatchEnds.sendsFor {m : IpcPppEventMsg} {i : ℕ} {q : AnscStatus} (hs : Numbered s)
    (hcount : i < s.pppIfCount.toNat)
    (h : DispatchEnds A b s (toInt (s.table i).cfg.instanceNumber) m q s') :
  SendsFor (i + 1) s s'
  := by
  obtain ⟨evs, hsends, hevs⟩ := h.sends hs hcount
  use evs, hsends
  intro ev hev
  exact ⟨(hevs.setsFor ev hev).pppIfInstance, Nat.succ_pos i, hcount⟩

end

end PppManager
