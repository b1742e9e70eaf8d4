import PppManager.Manager.Rules

/-!
# Programs that only read

A program all of whose operations read leaves the state as it is (`wp_of_reads`).
-/

namespace PppManager

open Effect Effect.Program CText

/-- The operation asks the host. -/
def Op.IsHostQuery : Op → Prop
  | .undefined _ => True
  | .halGetPppUserName => True
  | .halGetPppPassword => True
  | .readFile _ => True
  | .popen _ => True
  | .readProc => True
  | .syscfgGet _ => True
  | .syseventGet _ => True
  | .getIfAddr _ => True
  | _ => False

/-- The operation asks the host, and gets an answer. -/
def Op.IsHostRead : Op → Prop
  | .undefined _ => False
  | o => o.IsHostQuery

/-- The operation asks the outside, and leaves every state as it is. -/
def Op.IsQuery : Op → Prop
  | .nnRecv => True
  | .psmGet _ => True
  | .busGet _ _ _ => True
  | o => o.IsHostQuery

/-- The operation leaves every state as it is. -/
def Op.IsRead : Op → Prop
  | .load _ => True
  | o => o.IsQuery

theorem Op.IsHostRead.isHostQuery {o : Op} (ho : o.IsHostRead) :
  o.IsHostQuery
  := by
  cases o <;> trivial

theorem Op.IsHostQuery.isQuery {o : Op} (ho : o.IsHostQuery) :
  o.IsQuery
  := by
  cases o <;> trivial

theorem Op.IsQuery.isRead {o : Op} (ho : o.IsQuery) :
  o.IsRead
  := by
  cases o <;> trivial

/-- A reading operation leaves the state as it is. -/
theorem step_of_isRead {t : Thread} {o : Op} (ho : o.IsRead) {x : o.Ans} {s s' : Sys} {r : o.Res}
    (h : step t o x s = .ok (r, s')) :
  s' = s
  := by
  cases o with
  | load i =>
      rw [step] at h
      split_ifs at h
      obtain ⟨rfl, rfl⟩ := Prod.mk.inj (Except.ok.inj h)
      rfl
  | _ => simp_all [Op.IsRead, Op.IsQuery, Op.IsHostQuery, step]

/-- A reading operation does not wait for room in the queue. -/
theorem step_ne_queueFull_of_isRead {t : Thread} {o : Op} (ho : o.IsRead) {x : o.Ans} {s : Sys}
    {e : Stop} (h : step t o x s = .error e) :
  e ≠ .queueFull
  := by
  cases o with
  | load i =>
      rw [step] at h
      split_ifs at h
      obtain rfl := Except.error.inj h
      apply Stop.noConfusion
  | undefined u =>
      obtain rfl := Except.error.inj h
      apply Stop.noConfusion
  | _ => simp_all [Op.IsRead, Op.IsQuery, Op.IsHostQuery, step]

/-- Only undefined behaviour stops a run with undefined behaviour. -/
theorem step_ne_undefined {t : Thread} {u : Undefined} {o : Op} (ho : o ≠ .undefined u) (x : o.Ans)
    (s : Sys) :
  step t o x s ≠ .error (.undefined u)
  := by
  intro hstep
  cases o with
  | undefined u' =>
      cases hstep
      apply ho rfl
  | lock i | load i | store i f =>
      simp only [step] at hstep
      split_ifs at hstep <;> cases hstep
  | unlock i =>
      simp only [step] at hstep
      split at hstep
      · split_ifs at hstep
        cases hstep
      · cases hstep
  | mqSend ev =>
      simp only [step] at hstep
      split_ifs at hstep
      cases hstep
  | mqReceive =>
      simp only [step] at hstep
      split at hstep <;> cases hstep
  | _ => cases hstep

section

variable {t : Thread} {A : (o : Op) → o.Ans → Prop} {F : Prop} {s : Sys} {α β : Type}

/-- A program that only reads ends in the state it starts from. -/
theorem wp_of_reads {p : Code α} (hp : Only Op.IsRead p) {Q : α → Sys → Prop}
    (hQ : ∀ a, Q a s) :
  (contract t A F).wp p Q s
  := by
  have h : (contract t A F).wp p (fun _ s' => s' = s) s := by
    apply Contract.wp_of_only (P := Op.IsRead) (I := fun s' => s' = s) _ _ hp rfl
    · rintro o s' ho - rfl
      apply ho.elim
    intro o x s' ho _ hs'
    cases hstep : (machine t).step o x s' with
    | ok r => apply (step_of_isRead ho hstep).trans hs'
    | error e =>
        intro he
        apply absurd he (step_ne_queueFull_of_isRead ho hstep)
  apply Contract.wp_mono _ h
  rintro a s' rfl
  apply hQ

/-- A program that only asks ends in the state it starts from. -/
theorem wp_of_queries {p : Code α} (hp : Only Op.IsQuery p) {Q : α → Sys → Prop}
    (hQ : ∀ a, Q a s) :
  (contract t A F).wp p Q s
  := wp_of_reads (hp.mono (fun _ => Op.IsQuery.isRead)) hQ

/-! ### The names of the WAN manager -/

/-- The name is one `PppMgr_GetWanIfaceInstance` asks for: the text of a format with the numbers of an
interface and of a virtual interface. -/
inductive IsWanName (b : Build) : CStr → Prop
  | interfaces : IsWanName b (wanNoeParamName b)
  | virtualInterfaces (i : ℕ) (hi : i < 2 ^ 31) :
      IsWanName b (printf wanNoOfVirtualIfaceParamName [.int i])
  | pppInterface (i v : ℕ) (hi : i < 2 ^ 31) (hv : v < 2 ^ 31) :
      IsWanName b (printf pppWanVirtualIfaceName [.int i, .int v])

theorem length_dec_wan {i : ℕ} (hi : i < 2 ^ 31) :
  (dec i).length ≤ 11
  := by
  apply length_dec_le (k := 10) (by decide)
  omega

theorem length_wanNoOfVirtualIfaceParamName {i : ℕ} (hi : i < 2 ^ 31) :
  (printf wanNoOfVirtualIfaceParamName [.int i]).length < 128
  := by
  have hdec := length_dec_wan hi
  have hformat : wanNoOfVirtualIfaceParamName.length < 100 := by
    decide
  have hle := length_printf_le wanNoOfVirtualIfaceParamName [.int i]
  simp only [List.map_cons, List.map_nil, List.sum_cons, List.sum_nil, Arg.text_int] at hle
  omega

theorem length_pppWanVirtualIfaceName {i v : ℕ} (hi : i < 2 ^ 31) (hv : v < 2 ^ 31) :
  (printf pppWanVirtualIfaceName [.int i, .int v]).length < 128
  := by
  have hdec := length_dec_wan hi
  have hdec' := length_dec_wan hv
  have hformat : pppWanVirtualIfaceName.length < 100 := by
    decide
  have hle := length_printf_le pppWanVirtualIfaceName [.int i, .int v]
  simp only [List.map_cons, List.map_nil, List.sum_cons, List.sum_nil, Arg.text_int] at hle
  omega

/-- The names are shorter than the buffer they are written to. -/
theorem IsWanName.length_le {b : Build} {name : CStr} (h : IsWanName b name) :
  name.length < 128
  := by
  cases h with
  | interfaces =>
      rw [wanNoeParamName]
      split_ifs <;> decide
  | virtualInterfaces i hi => apply length_wanNoOfVirtualIfaceParamName hi
  | pppInterface i v hi hv => apply length_pppWanVirtualIfaceName hi hv

theorem snprintf_wanNoOfVirtualIfaceParamName {i : ℕ} (hi : i < 2 ^ 31) :
  snprintf 256 wanNoOfVirtualIfaceParamName [.int i] =
    printf wanNoOfVirtualIfaceParamName [.int i]
  := by
  apply List.take_of_length_le
  apply Nat.le_trans (Nat.le_of_lt (length_wanNoOfVirtualIfaceParamName hi)) (by decide)

theorem snprintf_pppWanVirtualIfaceName {i v : ℕ} (hi : i < 2 ^ 31) (hv : v < 2 ^ 31) :
  snprintf 256 pppWanVirtualIfaceName [.int i, .int v] =
    printf pppWanVirtualIfaceName [.int i, .int v]
  := by
  apply List.take_of_length_le
  apply Nat.le_trans (Nat.le_of_lt (length_pppWanVirtualIfaceName hi hv)) (by decide)

/-! ### The programs -/

theorem reads_undefined {P : Op → Prop} {u : Undefined} (hu : P (.undefined u)) :
  Only P (undefined u : Code α)
  := by
  use hu
  intro r
  apply r.elim

theorem reads_op {P : Op → Prop} {o : Op} (ho : P o) :
  Only P (perform o)
  := (only_perform (E := sig) o).mpr ho

theorem only_dmlGetTotalNoOfPPPInterfaces {P : Op → Prop}
    (hget : P (.psmGet psmPppManagerPppIfCount)) :
  Only P dmlGetTotalNoOfPPPInterfaces
  := by
  apply only_bind
  · apply only_bind (reads_op hget)
    rintro (_ | paramValue) <;> apply only_pure
  · intro pppIfCount
    apply only_pure

theorem reads_dmlGetTotalNoOfPPPInterfaces :
  Only Op.IsQuery dmlGetTotalNoOfPPPInterfaces
  := only_dmlGetTotalNoOfPPPInterfaces trivial

theorem only_getCredentialsFromHal {P : Op → Prop} {i : ℕ} (huser : P .halGetPppUserName)
    (hpass : P .halGetPppPassword) (hstore : ∀ f, P (.store i f)) :
  Only P (getCredentialsFromHal i)
  := by
  apply only_bind (reads_op huser)
  rintro (_ | u)
  · apply only_bind (reads_op hpass)
    rintro (_ | v)
    · apply only_pure
    · apply reads_op (hstore _)
  · apply only_bind (reads_op (hstore _))
    intro _
    apply only_bind (reads_op hpass)
    rintro (_ | v)
    · apply only_pure
    · apply reads_op (hstore _)

section

variable {P : Op → Prop} (hP : ∀ o, o.IsHostRead → P o)
include hP

theorem only_getPppIpAddr :
  Only P getPppIpAddr
  := by
  apply only_bind (reads_op (hP (.syscfgGet _) trivial))
  rintro (_ | output)
  · apply only_pure
  · apply only_ite
    · intro _
      apply only_pure
    · intro _
      apply only_bind (reads_op (hP (.syseventGet _) trivial))
      rintro (_ | buf)
      · apply only_pure
      · apply only_ite
        · intro _
          apply only_pure
        · intro _
          apply reads_op (hP (.getIfAddr _) trivial)

theorem only_findSessionId {i : ℕ} (hload : P (.load i)) :
  Only P (findSessionId i)
  := by
  apply only_bind (reads_op hload)
  intro pEntry
  cases pEntry.cfg.linkType with
  | pppoe =>
      apply only_bind (reads_op (hP (.readFile _) trivial))
      rintro (_ | text) <;> apply only_pure
  | pppoa =>
      apply only_bind (only_getPppIpAddr hP)
      intro addr
      apply only_ite
      · intro _
        apply only_pure
      · intro _
        apply only_bind (reads_op (hP (.readFile _) trivial))
        rintro (_ | text) <;> apply only_pure
  | unset => apply only_pure
  | other v => apply only_pure

end

theorem only_checkPidExist {P : Op → Prop} (hps : P (.popen psPppd)) (pppPid : ℤ) :
  Only P (checkPidExist pppPid)
  := by
  apply only_ite
  · intro _
    apply only_pure
  · intro _
    apply only_bind (reads_op hps)
    rintro (_ | text)
    · apply only_pure
    · apply only_ite <;> intro _ <;> apply only_pure

theorem only_getPppPid {P : Op → Prop} (hproc : P .readProc) (ifname : Option CStr) :
  Only P (getPppPid ifname)
  := by
  rw [getPppPid]
  induction getPppIdAttempt + 1 with
  | zero => apply only_pure
  | succ k ih =>
      apply only_bind
      · apply only_bind (reads_op hproc)
        rintro (_ | dents) <;> apply only_pure
      · intro pid
        apply only_ite
        · intro _
          apply only_pure
        · intro _
          apply ih

section

variable {P : Op → Prop} (hover : P (.undefined .bufferOverflow))
include hover

theorem only_dmlPppMgrGetParamValues {pComponent pBus pParamName : CStr}
    (hget : P (.busGet pComponent pBus pParamName)) (size : ℕ) (pReturnVal : CStr) :
  Only P (dmlPppMgrGetParamValues pComponent pBus pParamName size pReturnVal)
  := by
  apply only_bind (reads_op hget)
  rintro (_ | _ | parameterValue)
  · apply only_pure
  · apply only_pure
  · apply only_ite
    · intro _
      apply only_pure
    · intro _
      apply reads_undefined hover

theorem only_getUptimeinSeconds
    (hget : P (.busGet pandmComponentName pandmDbusPath upTimeParamName)) :
  Only P getUptimeinSeconds
  := by
  apply only_bind (only_dmlPppMgrGetParamValues hover hget _ _)
  rintro (_ | acGetParamValue) <;> apply only_pure

variable {b : Build} (hwan : ∀ name, IsWanName b name → P (.busGet wanComponentName wanDbusPath name))
include hwan

theorem only_wanVirtIfaceLoop (path : CStr) {iIfaceCount iVcount k : ℕ} (hi : iIfaceCount < 2 ^ 31)
    (hk : iVcount + k ≤ 2 ^ 31) (buf : CStr) :
  Only P (wanVirtIfaceLoop path iIfaceCount iVcount k buf)
  := by
  induction k generalizing iVcount buf with
  | zero => apply only_pure
  | succ k ih =>
      have hname : IsWanName b (snprintf 256 pppWanVirtualIfaceName [.int iIfaceCount, .int iVcount]) := by
        rw [snprintf_pppWanVirtualIfaceName hi (by omega)]
        apply IsWanName.pppInterface _ _ hi (by omega)
      apply only_bind (only_dmlPppMgrGetParamValues hover (hwan _ hname) _ _)
      rintro (_ | acTmpReturnValue)
      · apply only_pure
      · apply only_ite
        · intro _
          apply only_pure
        · intro _
          apply ih
          omega

theorem only_wanIfaceLoop (path : CStr) {iIfaceCount k : ℕ} (hk : iIfaceCount + k ≤ 2 ^ 31)
    (buf : CStr) :
  Only P (wanIfaceLoop path iIfaceCount k buf)
  := by
  induction k generalizing iIfaceCount buf with
  | zero => apply only_pure
  | succ k ih =>
      have hi : iIfaceCount < 2 ^ 31 := by
        omega
      have hname : IsWanName b (snprintf 256 wanNoOfVirtualIfaceParamName [.int iIfaceCount]) := by
        rw [snprintf_wanNoOfVirtualIfaceParamName hi]
        apply IsWanName.virtualInterfaces _ hi
      apply only_bind (only_dmlPppMgrGetParamValues hover (hwan _ hname) _ _)
      rintro (_ | acTmpReturnValue)
      · apply only_pure
      · have hcount := atoi_lt acTmpReturnValue
        apply only_bind (only_wanVirtIfaceLoop hover hwan _ hi (by omega) _)
        rintro (_ | _ | acTmpReturnValue)
        · apply only_pure
        · apply only_pure
        · apply ih
          omega

variable (b) in
theorem only_getWanIfaceInstance (instanceNumber : ℕ) (out : ℤ × ℤ) :
  Only P (getWanIfaceInstance b instanceNumber out)
  := by
  apply only_ite
  · intro _
    apply only_pure
  · intro _
    apply only_bind (only_dmlPppMgrGetParamValues hover (hwan _ .interfaces) _ _)
    rintro (_ | acTmpReturnValue)
    · apply only_pure
    · have hcount := atoi_lt acTmpReturnValue
      apply only_ite
      · intro _
        apply only_pure
      · intro _
        apply only_bind (only_wanIfaceLoop hover hwan _ (by omega) _)
        rintro (_ | _ | _) <;> apply only_pure

end

theorem only_getIfaceDataLocked {P : Op → Prop} (hget : P (.psmGet psmPppManagerPppIfCount))
    (hlock : ∀ i, P (.lock i)) {n : ℕ} :
  Only P (getIfaceDataLocked n)
  := by
  apply only_ite
  · intro _
    apply only_pure
  · intro _
    apply only_bind (only_dmlGetTotalNoOfPPPInterfaces hget)
    intro total
    apply only_ite
    · intro _
      apply only_pure
    · intro _
      apply only_bind (reads_op (hlock _))
      intro _
      apply only_pure

theorem reads_getPppIpAddr :
  Only Op.IsQuery getPppIpAddr
  := only_getPppIpAddr (fun _ ho => ho.isHostQuery.isQuery)

/-- `get_session_id` reads, up to the store of the id. -/
theorem reads_findSessionId (i : ℕ) :
  Only Op.IsRead (findSessionId i)
  := only_findSessionId (fun _ ho => ho.isHostQuery.isQuery.isRead) trivial

theorem reads_checkPidExist (pppPid : ℤ) :
  Only Op.IsQuery (checkPidExist pppPid)
  := only_checkPidExist trivial pppPid

theorem reads_getPppPid (ifname : Option CStr) :
  Only Op.IsQuery (getPppPid ifname)
  := only_getPppPid trivial ifname

theorem reads_dmlPppMgrGetParamValues (pComponent pBus pParamName : CStr) (size : ℕ)
    (pReturnVal : CStr) :
  Only Op.IsQuery (dmlPppMgrGetParamValues pComponent pBus pParamName size pReturnVal)
  := only_dmlPppMgrGetParamValues trivial trivial size pReturnVal

theorem reads_getUptimeinSeconds :
  Only Op.IsQuery getUptimeinSeconds
  := only_getUptimeinSeconds trivial trivial

theorem reads_getWanIfaceInstance (b : Build) (instanceNumber : ℕ) (out : ℤ × ℤ) :
  Only Op.IsQuery (getWanIfaceInstance b instanceNumber out)
  := only_getWanIfaceInstance trivial b (fun _ _ => trivial) instanceNumber out

end

end PppManager
