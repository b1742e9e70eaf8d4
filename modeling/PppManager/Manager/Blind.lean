import PppManager.Effect.Lockstep
import PppManager.Manager.EntryPoints

/-!
# Fields that reads fill in

`PPPDmlGetIfInfo`, which the getters of the data model call, fills in fields of an entry that nothing
else writes.  Two states are alike when they differ in these fields only.  Every entry point, with
the same answers, takes states alike to states alike (`inStep_code`), up to the command that
configures a client, which has two of the fields in it.
-/

namespace PppManager

open Effect Effect.Program CText

/-- The fields that only reads of the data model write. -/
structure ReadInfo where
  encryptionProtocol : DmlPppEncryption
  compressionProtocol : DmlPppCompression
  currentMRUSize : BitVec 16
  lcpEcho : ULong
  lcpEchoRetry : ULong

namespace DmlPppIfFull

/-- The entry with the fields replaced. -/
abbrev withReadInfo (v : ReadInfo) (e : DmlPppIfFull) : DmlPppIfFull :=
  { e with
    info :=
      { e.info with
        encryptionProtocol := v.encryptionProtocol
        compressionProtocol := v.compressionProtocol
        currentMRUSize := v.currentMRUSize
        lcpEcho := v.lcpEcho
        lcpEchoRetry := v.lcpEchoRetry } }

/-- `LCPEcho` and `LCPEchoRetry`. -/
def echo (e : DmlPppIfFull) : ULong × ULong :=
  (e.info.lcpEcho, e.info.lcpEchoRetry)

/-- A read has filled in `LCPEcho` and `LCPEchoRetry`. -/
def Filled (e : DmlPppIfFull) : Prop :=
  e.echo = (30, 3)

instance (e : DmlPppIfFull) : Decidable e.Filled :=
  inferInstanceAs (Decidable (e.echo = (30, 3)))

/-- No read has filled in `LCPEcho` and `LCPEchoRetry`. -/
def Unfilled (e : DmlPppIfFull) : Prop :=
  e.echo = (0, 0)

end DmlPppIfFull

open DmlPppIfFull

/-- The entries differ in the fields that reads fill in only, the first is filled if `F` holds, and
the second if the first is. -/
structure EntryAlike (F : Prop) (e e' : DmlPppIfFull) : Prop where
  same : ∃ v, e' = e.withReadInfo v
  echo : e.Unfilled ∨ e.Filled
  echo' : e'.echo = e.echo ∨ e'.Filled
  filled : F → e.Filled

/-- The states differ in the fields that reads fill in only, and in the first the entries in `F` are
filled. -/
structure Alike (F : ℕ → Prop) (s s' : Sys) : Prop where
  entry : ∀ i, EntryAlike (F i) (s.table i) (s'.table i)
  locks : s'.locks = s.locks
  queue : s'.queue = s.queue
  psm : s'.psm = s.psm
  acts : s'.acts = s.acts

/-- The write does not touch the fields that reads fill in, and does not look at them. -/
structure Apart (f : DmlPppIfFull → DmlPppIfFull) : Prop where
  withReadInfo : ∀ v e, f (e.withReadInfo v) = (f e).withReadInfo v
  echo : ∀ e, (f e).echo = e.echo

/-- The write takes entries alike to entries alike. -/
def KeepsAlike (f : DmlPppIfFull → DmlPppIfFull) : Prop :=
  ∀ F e e', EntryAlike F e e' → EntryAlike F (f e) (f e')

theorem Apart.keepsAlike {f : DmlPppIfFull → DmlPppIfFull} (hf : Apart f) :
  KeepsAlike f
  := by
  intro F e e' h
  obtain ⟨v, hv⟩ := h.same
  constructor
  · use v
    rw [hv, hf.withReadInfo]
  · rw [Unfilled, Filled, hf.echo]
    apply h.echo
  · rw [Filled, hf.echo, hf.echo]
    apply h.echo'
  · rw [Filled, hf.echo]
    apply h.filled

/-- The operation neither reads nor writes an entry. -/
def Op.IsPlain : Op → Prop
  | .load _ => False
  | .store _ _ => False
  | _ => True

theorem Op.IsQuery.isPlain {o : Op} (ho : o.IsQuery) :
  o.IsPlain
  := by
  cases o <;> trivial

/-- The two programs go in lockstep from states alike. -/
abbrev InStep {α β : Type} (t : Thread) (F : ℕ → Prop) (B : Op → Prop) (V : α → β → Prop)
    (p : Code α) (p' : Code β) : Prop :=
  Lockstep (machine t) (Alike F) B V p p'

section

variable {t : Thread} {F : ℕ → Prop} {B : Op → Prop} {α β : Type}

/-! ### Operations -/

theorem keeps_of_isPlain {o : Op} (ho : o.IsPlain) :
  (machine t).Keeps (Alike F) o Eq
  := by
  rintro x ⟨table, locks, queue, psm, acts⟩ ⟨table', _, _, _, _⟩ ⟨hentry, rfl, rfl, rfl, rfl⟩
  have hok : ∀ (r : o.Res) locks queue psm acts,
      Together (fun (r r' : o.Res × Sys) => r.1 = r'.1 ∧ Alike F r.2 r'.2)
        (.ok (r, ⟨table, locks, queue, psm, acts⟩) : Except Stop _)
        (.ok (r, ⟨table', locks, queue, psm, acts⟩)) :=
    fun r _ _ _ _ => .ok ⟨rfl, hentry, rfl, rfl, rfl, rfl⟩
  cases o with
  | load | store => apply ho.elim
  | lock i =>
      dsimp only [step]
      split_ifs
      · apply Together.error
      · apply hok
      · apply Together.error
  | unlock i =>
      dsimp only [step]
      split
      · split_ifs
        · apply hok
        · apply Together.error
      · apply Together.error
  | undefined u => apply Together.error
  | mqSend ev =>
      dsimp only [step]
      split_ifs
      · apply hok
      · apply Together.error
      · apply hok
  | mqReceive =>
      dsimp only [step]
      split
      · apply hok
      · apply hok
  | psmSet name value =>
      cases x
      · apply hok
      · apply hok
  | _ => apply hok

theorem keeps_load (i : ℕ) :
  (machine t).Keeps (Alike F) (.load i) (EntryAlike (F i))
  := by
  intro x s s' hs
  show Together _ (step t (.load i) x s) (step t (.load i) x s')
  rw [step, step]
  split_ifs
  · apply Together.error
  · apply Together.ok ⟨hs.entry i, hs⟩

theorem keeps_store (i : ℕ) {f : DmlPppIfFull → DmlPppIfFull} (hf : KeepsAlike f) :
  (machine t).Keeps (Alike F) (.store i f) Eq
  := by
  intro x s s' hs
  show Together _ (step t (.store i f) x s) (step t (.store i f) x s')
  rw [step, step]
  split_ifs
  · apply Together.error
  · apply Together.ok
    use rfl
    constructor
    · intro j
      rw [Sys.setEntry_table, Sys.setEntry_table]
      by_cases hj : j = i
      · obtain rfl := hj
        rw [Function.update_self, Function.update_self]
        apply hf _ _ _ (hs.entry j)
      · rw [Function.update_of_ne hj, Function.update_of_ne hj]
        apply hs.entry j
    · apply hs.locks
    · apply hs.queue
    · apply hs.psm
    · apply hs.acts

theorem inStep_plain {p : Code α} (hp : Only Op.IsPlain p) :
  InStep t F B Eq p p
  := Lockstep.of_only (fun _ => keeps_of_isPlain) hp

theorem inStep_queries {p : Code α} (hp : Only Op.IsQuery p) :
  InStep t F B Eq p p
  := inStep_plain (hp.mono (fun _ => Op.IsQuery.isPlain))

theorem inStep_load (i : ℕ) :
  InStep t F B (EntryAlike (F i)) (load i) (load i)
  := Lockstep.perform (keeps_load i)

theorem inStep_keepsAlike {i : ℕ} {f : DmlPppIfFull → DmlPppIfFull} (hf : KeepsAlike f) :
  InStep t F B Eq (store i f) (store i f)
  := Lockstep.perform (keeps_store i hf)

theorem inStep_store {i : ℕ} {f : DmlPppIfFull → DmlPppIfFull} (hf : Apart f) :
  InStep t F B Eq (store i f) (store i f)
  := inStep_keepsAlike hf.keepsAlike

/-- A write that is followed by a program. -/
theorem inStep_store_bind {γ : Type} {i : ℕ} {f : DmlPppIfFull → DmlPppIfFull} {p : Code α}
    {p' : Code γ} {V : α → γ → Prop} (hf : Apart f) (hp : InStep t F B V p p') :
  InStep t F B V (store i f >>= fun _ => p) (store i f >>= fun _ => p')
  := by
  apply (inStep_store hf).bind
  intro _ _ _
  apply hp

theorem inStep_undefined (V : α → β → Prop) (u : Undefined) :
  InStep t F B V (undefined u) (undefined u)
  := by
  apply Lockstep.call (fun _ _ => False)
  · intro x s s' _
    apply Together.error
  · intro r
    apply r.elim

theorem inStep_bind {γ : Type} {p p' : Code α} {f : α → Code β} {f' : α → Code γ}
    {V : β → γ → Prop} (hp : InStep t F B Eq p p') (hf : ∀ a, InStep t F B V (f a) (f' a)) :
  InStep t F B V (p >>= f) (p' >>= f')
  := by
  apply hp.bind
  rintro a _ rfl
  apply hf

theorem inStep_map {γ δ : Type} {p : Code α} {p' : Code β} {V : α → β → Prop} {g : α → γ}
    {g' : β → δ} {W : γ → δ → Prop} (hp : InStep t F B V p p') (hW : ∀ a b, V a b → W (g a) (g' b)) :
  InStep t F B W (g <$> p) (g' <$> p')
  := by
  apply hp.bind
  intro a b h
  apply Lockstep.ret (hW a b h)

/-- A read of an entry, and what is done with it. -/
theorem inStep_load_bind {i : ℕ} {f : DmlPppIfFull → Code α} {f' : DmlPppIfFull → Code β}
    {V : α → β → Prop}
    (hf : ∀ v e, EntryAlike (F i) e (e.withReadInfo v) → InStep t F B V (f e) (f' (e.withReadInfo v))) :
  InStep t F B V (load i >>= f) (load i >>= f')
  := by
  apply (inStep_load i).bind
  intro e e' h
  obtain ⟨v, rfl⟩ := h.same
  apply hf v e h

theorem inStep_ite {c : Prop} [Decidable c] {p q : Code α} {p' q' : Code β} {V : α → β → Prop}
    (hp : InStep t F B V p p') (hq : InStep t F B V q q') :
  InStep t F B V (if c then p else q) (if c then p' else q')
  := by
  split_ifs
  · apply hp
  · apply hq

/-! ### The queue and the database -/

theorem plain_sendDataToQ (ev : PppEventQData) :
  Only Op.IsPlain (sendDataToQ ev)
  := by
  apply only_bind (reads_op trivial)
  rintro (_ | _)
  · apply only_pure
  · apply only_bind (reads_op trivial)
    rintro (_ | _) <;> apply only_pure

theorem plain_setParamValuesToDB (name value : CStr) :
  Only Op.IsPlain (setParamValuesToDB name value)
  := reads_op trivial

theorem plain_setParamFromPSM (b : Build) (c : DmlPppIfCfg) :
  Only Op.IsPlain (setParamFromPSM b c)
  := by
  apply only_bind (reads_op trivial)
  intro _
  apply only_bind (reads_op trivial)
  intro _
  apply only_ite
  · intro _
    apply only_bind (reads_op trivial)
    intro _
    apply only_bind (reads_op trivial)
    intro _
    apply only_pure
  · intro _
    apply only_pure

theorem plain_stopPppProcess (pid : ℤ) :
  Only Op.IsPlain (stopPppProcess pid)
  := by
  apply only_bind (reads_op trivial)
  intro _
  apply only_pure

theorem plain_stopPppoe :
  Only Op.IsPlain stopPppoe
  := by
  apply only_bind (reads_op trivial)
  intro _
  apply only_pure

theorem plain_systemIfFits (text : CStr) :
  Only Op.IsPlain (systemIfFits text)
  := by
  apply only_ite
  · intro _
    apply reads_op trivial
  · intro _
    apply only_pure

theorem plain_sendPadt (vlan : CStr) (e : DmlPppIfFull) :
  Only Op.IsPlain (sendPadt vlan e)
  := by
  apply only_bind (reads_op trivial)
  rintro (_ | text)
  · apply only_pure
  · apply only_ite
    · intro _
      apply plain_systemIfFits
    · intro _
      apply reads_undefined trivial

theorem plain_generateDuidFile (wanName : CStr) :
  Only Op.IsPlain (generateDuidFile wanName)
  := reads_op trivial

theorem plain_removeDuidFile (wanName : CStr) :
  Only Op.IsPlain (removeDuidFile wanName)
  := reads_op trivial

theorem plain_lock (i : ℕ) :
  Only Op.IsPlain (lock i)
  := reads_op trivial

theorem plain_unlock (i : ℕ) :
  Only Op.IsPlain (unlock i)
  := reads_op trivial

theorem reads_halGetPppUserName :
  Only Op.IsQuery halGetPppUserName
  := reads_op trivial

theorem reads_halGetPppPassword :
  Only Op.IsQuery halGetPppPassword
  := reads_op trivial

variable {b : Build}

/-- A program that asks for the mutex of an instance. -/
theorem inStep_locked {n : ℕ} {f : Option ℕ → Code α} {f' : Option ℕ → Code β} {V : α → β → Prop}
    (hnone : InStep t F B V (f none) (f' none))
    (hsome : InStep t F B V (f (some (n - 1))) (f' (some (n - 1)))) :
  InStep t F B V (getIfaceDataLocked n >>= f) (getIfaceDataLocked n >>= f')
  := by
  have hlocked : InStep t F B (fun r r' => r = r' ∧ (r = none ∨ r = some (n - 1)))
      (getIfaceDataLocked n) (getIfaceDataLocked n) := by
    apply inStep_ite
    · apply Lockstep.pure ⟨rfl, .inl rfl⟩
    · apply inStep_bind (inStep_queries reads_dmlGetTotalNoOfPPPInterfaces)
      intro total
      apply inStep_ite
      · apply Lockstep.pure ⟨rfl, .inl rfl⟩
      · apply inStep_bind (inStep_plain (plain_lock _))
        intro _
        apply Lockstep.pure ⟨rfl, .inr rfl⟩
  apply hlocked.bind
  rintro r _ ⟨rfl, rfl | rfl⟩
  · apply hnone
  · apply hsome

theorem inStep_release {i : ℕ} {p : Code α} {p' : Code β} {V : α → β → Prop}
    (hp : InStep t F B V p p') :
  InStep t F B V (getIfaceDataRelease i >>= fun _ => p) (getIfaceDataRelease i >>= fun _ => p')
  := inStep_bind (inStep_plain (reads_op trivial)) (fun _ => hp)

theorem inStep_system (command : CStr) :
  InStep t F B Eq (system command) (system command)
  := inStep_plain (reads_op trivial)

/-! ### Requests -/

theorem inStep_sendPppdStartEventToQ (n : ℕ) :
  InStep t F B Eq (sendPppdStartEventToQ n) (sendPppdStartEventToQ n)
  := by
  apply inStep_locked
  · apply Lockstep.pure rfl
  · apply inStep_load_bind
    intro v e _
    apply inStep_bind (inStep_plain (plain_sendDataToQ _))
    rintro (_ | _)
    · refine inStep_store_bind ⟨fun _ _ => rfl, fun _ => rfl⟩ ?_
      apply inStep_release (Lockstep.pure rfl)
    · apply inStep_release (Lockstep.pure rfl)

theorem inStep_stopClient (i : ℕ) :
  InStep t F B Eq (stopClient b i) (stopClient b i)
  := by
  apply inStep_ite
  · apply inStep_load_bind
    intro v e _
    apply inStep_bind (inStep_plain (plain_stopPppProcess _))
    intro _
    exact inStep_store ⟨fun _ _ => rfl, fun _ => rfl⟩
  · apply inStep_bind (inStep_plain plain_stopPppoe)
    intro _
    apply Lockstep.pure rfl

theorem inStep_stopPppClient (n : ℕ) :
  InStep t F B Eq (stopPppClient b n) (stopPppClient b n)
  := by
  apply inStep_locked
  · apply Lockstep.pure rfl
  · refine inStep_store_bind ⟨fun _ _ => rfl, fun _ => rfl⟩ ?_
    apply inStep_bind (inStep_stopClient _)
    intro _
    refine inStep_store_bind ⟨fun _ _ => rfl, fun _ => rfl⟩ ?_
    apply inStep_release
    apply inStep_bind (inStep_plain (plain_sendDataToQ _))
    intro _
    apply inStep_bind (inStep_plain (plain_sendDataToQ _))
    intro _
    apply inStep_bind (inStep_plain (plain_sendDataToQ _))
    intro _
    apply Lockstep.pure rfl

theorem inStep_enableIf (n : ℕ) (v : Bool) :
  InStep t F B Eq (enableIf b n v) (enableIf b n v)
  := by
  apply inStep_ite
  · apply inStep_bind (inStep_sendPppdStartEventToQ n)
    rintro (_ | _) <;> apply Lockstep.pure rfl
  · apply inStep_bind (inStep_stopPppClient n)
    rintro (_ | _) <;> apply Lockstep.pure rfl

theorem inStep_pppDmlIfReset (n : ℕ) :
  InStep t F B Eq (pppDmlIfReset b n) (pppDmlIfReset b n)
  := by
  apply inStep_bind (inStep_stopPppClient n)
  rintro (_ | _)
  · apply inStep_bind (inStep_sendPppdStartEventToQ n)
    rintro (_ | _) <;> apply Lockstep.pure rfl
  · apply Lockstep.pure rfl

/-! ### Starting a client -/

/-- The command configures a client. -/
def configuresClient (command : CStr) : Bool :=
  "pppoe_config.sh ".toList.isPrefixOf command

/-- The operation runs a command that configures a client. -/
def Op.IsConfig : Op → Prop
  | .system command => configuresClient command = true
  | _ => False

theorem configuresClient_iff {command : CStr} :
  configuresClient command = true ↔ "pppoe_config.sh ".toList <+: command
  := List.isPrefixOf_iff_prefix

/-- A text with `LCPEcho` and `LCPEchoRetry` of an entry between `p` and `q`. -/
def echoText (p q : CStr) (e : DmlPppIfFull) : CStr :=
  p ++ (dec e.info.lcpEcho.toLong ++ (" ".toList ++ (dec e.info.lcpEchoRetry.toLong ++ q)))

theorem echoText_congr {p q : CStr} {e e' : DmlPppIfFull} (h : e'.echo = e.echo) :
  echoText p q e' = echoText p q e
  := by
  obtain ⟨hecho, hretry⟩ := Prod.mk.inj h
  rw [echoText, echoText, hecho, hretry]

/-- The text is longer where a read has filled in the fields. -/
theorem length_echoText_le {p q : CStr} {e e' : DmlPppIfFull} (h : e.Unfilled) (h' : e'.Filled) :
  (echoText p q e).length ≤ (echoText p q e').length
  := by
  obtain ⟨hecho, hretry⟩ := Prod.mk.inj h
  obtain ⟨hecho', hretry'⟩ := Prod.mk.inj h'
  rw [echoText, echoText, hecho, hretry, hecho', hretry']
  simp only [List.length_append]
  have h0 : (dec (0 : ULong).toLong).length = 1 := by
    decide
  have h30 : (dec (30 : ULong).toLong).length = 2 := by
    decide
  have h3 : (dec (3 : ULong).toLong).length = 1 := by
    decide
  omega

/-- The command that configures a client, from two entries alike. -/
theorem inStep_echoText {i : ℕ} {e e' : DmlPppIfFull} {p q : CStr} (h : EntryAlike (F i) e e')
    (hB : ¬ F i → ∀ o, o.IsConfig → B o) (hp : configuresClient p = true) :
  InStep t F B Eq (systemIfFits (echoText p q e)) (systemIfFits (echoText p q e'))
  := by
  have hconf : ∀ e, "pppoe_config.sh ".toList <+: echoText p q e := by
    intro e
    apply (configuresClient_iff.mp hp).trans (List.prefix_append _ _)
  have hsame : e'.echo = e.echo →
      InStep t F B Eq (systemIfFits (echoText p q e)) (systemIfFits (echoText p q e')) := by
    intro hecho
    rw [echoText_congr hecho]
    apply inStep_plain (plain_systemIfFits _)
  rcases h.echo' with hecho | hfilled'
  · apply hsame hecho
  · rcases h.echo with hunfilled | hfilled
    · rw [systemIfFits, systemIfFits]
      by_cases hfits : (echoText p q e).length ≤ 1024
      · rw [if_pos ⟨(hconf e).ne_nil (by decide), hfits⟩]
        apply Lockstep.stop
        apply hB
        · intro hF
          have hfilled := h.filled hF
          rw [Filled, hunfilled] at hfilled
          cases hfilled
        · apply configuresClient_iff.mpr
          apply List.prefix_take_iff.mpr ⟨hconf e, by decide⟩
      · rw [if_neg (fun h => hfits h.2), if_neg]
        · apply Lockstep.pure rfl
        · rintro ⟨-, hfits'⟩
          apply hfits (Nat.le_trans (length_echoText_le hunfilled hfilled') hfits')
    · apply hsame (hfilled'.trans hfilled.symm)

theorem pppoaConfigCommand_eq (e : DmlPppIfFull) :
  pppoaConfigCommand e =
    echoText ("pppoe_config.sh ".toList ++ (e.cfg.username ++ (" ".toList ++ (e.cfg.password ++
      (" ".toList ++ (e.info.interfaceServiceName ++ (" ".toList ++ (e.info.name ++
        " PPPoA ".toList)))))))) [] e
  := by
  simp only [echoText, List.append_assoc]
  rfl

theorem pppoeConfigCommand_echo (vlan : CStr) (e : DmlPppIfFull) :
  pppoeConfigCommand vlan e =
    echoText ("pppoe_config.sh '".toList ++ (e.cfg.username ++ ("' '".toList ++ (e.cfg.password ++
      ("' ".toList ++ (vlan ++ (" ".toList ++ (e.info.name ++ " PPPoE ".toList))))))))
        (" ".toList ++ (dec e.cfg.maxMRUSize.toNat ++ " ".toList)) e
  := by
  simp only [echoText, List.append_assoc]
  rfl

/-- Configuring the client of an entry without `USE_PPP_DAEMON`. -/
theorem inStep_configureClient {i : ℕ} {e : DmlPppIfFull} {v : ReadInfo}
    (h : EntryAlike (F i) e (e.withReadInfo v)) (hB : ¬ F i → ∀ o, o.IsConfig → B o) :
  InStep t F B Eq (configureClient b e) (configureClient b (e.withReadInfo v))
  := by
  rw [configureClient, configureClient]
  dsimp only [withReadInfo]
  cases hlink : e.cfg.linkType with
  | unset | other => apply Lockstep.pure rfl
  | pppoa =>
      apply inStep_ite
      · apply Lockstep.pure rfl
      · apply inStep_bind
        · rw [pppoaConfigCommand_eq, pppoaConfigCommand_eq]
          apply inStep_echoText h hB
          rfl
        · intro _
          apply Lockstep.pure rfl
  | pppoe =>
      apply inStep_ite
      · apply Lockstep.pure rfl
      · apply inStep_bind (inStep_queries (reads_dmlPppMgrGetParamValues _ _ _ _ _))
        rintro (_ | vlan)
        · apply Lockstep.pure rfl
        · apply inStep_bind
          · rw [pppoeConfigCommand_echo, pppoeConfigCommand_echo]
            apply inStep_echoText h hB
            rfl
          · intro _
            apply inStep_bind (inStep_plain (plain_sendPadt _ _))
            intro _
            apply Lockstep.pure rfl

theorem inStep_getCredentialsFromHal (i : ℕ) :
  InStep t F B Eq (getCredentialsFromHal i) (getCredentialsFromHal i)
  := by
  apply inStep_bind (inStep_queries reads_halGetPppUserName)
  rintro (_ | u)
  · apply inStep_bind (inStep_queries reads_halGetPppPassword)
    rintro (_ | p)
    · apply Lockstep.pure rfl
    · exact inStep_store ⟨fun _ _ => rfl, fun _ => rfl⟩
  · refine inStep_store_bind ⟨fun _ _ => rfl, fun _ => rfl⟩ ?_
    apply inStep_bind (inStep_queries reads_halGetPppPassword)
    rintro (_ | p)
    · apply Lockstep.pure rfl
    · exact inStep_store ⟨fun _ _ => rfl, fun _ => rfl⟩

/-- The client is configured and started alike. -/
theorem inStep_configured {i : ℕ} (w x : ℤ) (hB : ¬ F i → ∀ o, o.IsConfig → B o)
    {v : ReadInfo} {e : DmlPppIfFull} (h : EntryAlike (F i) e (e.withReadInfo v)) :
  InStep t F B Eq
    (configureClient b e >>= fun r => match r with
      | none => do
        getIfaceDataRelease i
        pure AnscStatus.failure
      | some command => do
        system command
        let pid ← getPppPid none
        store i (·.setPppPid pid)
        store i (·.setWanInstance w x)
        getIfaceDataRelease i
        pure AnscStatus.success)
    (configureClient b (e.withReadInfo v) >>= fun r => match r with
      | none => do
        getIfaceDataRelease i
        pure AnscStatus.failure
      | some command => do
        system command
        let pid ← getPppPid none
        store i (·.setPppPid pid)
        store i (·.setWanInstance w x)
        getIfaceDataRelease i
        pure AnscStatus.success)
  := by
  apply inStep_bind (inStep_configureClient h hB)
  rintro (_ | command)
  · apply inStep_release (Lockstep.pure rfl)
  · apply inStep_bind (inStep_system command)
    intro _
    apply inStep_bind (inStep_queries (reads_getPppPid none))
    intro pid
    refine inStep_store_bind ⟨fun _ _ => rfl, fun _ => rfl⟩ ?_
    refine inStep_store_bind ⟨fun _ _ => rfl, fun _ => rfl⟩ ?_
    apply inStep_release (Lockstep.pure rfl)

theorem inStep_launchPppClient {i : ℕ} (w x : ℤ) (hB : ¬ F i → ∀ o, o.IsConfig → B o) :
  InStep t F B Eq (launchPppClient b i w x) (launchPppClient b i w x)
  := by
  refine inStep_store_bind ⟨fun _ _ => rfl, fun _ => rfl⟩ ?_
  apply inStep_ite
  · apply inStep_load_bind
    intro v e h
    apply inStep_ite (inStep_configured w x hB h)
    apply inStep_release (Lockstep.pure rfl)
  · apply inStep_bind (inStep_getCredentialsFromHal i)
    intro _
    apply inStep_load_bind
    intro v e h
    apply inStep_ite (inStep_configured w x hB h)
    apply inStep_release (Lockstep.pure rfl)

theorem inStep_startPppClient {n : ℕ} (hB : ¬ F (n - 1) → ∀ o, o.IsConfig → B o) :
  InStep t F B Eq (startPppClient b n) (startPppClient b n)
  := by
  apply inStep_bind (inStep_queries (reads_getWanIfaceInstance _ _ _))
  rintro ⟨_, w, x⟩
  apply inStep_ite
  · apply Lockstep.pure rfl
  · apply inStep_locked
    · apply inStep_undefined
    · apply inStep_load_bind
      intro v e _
      apply inStep_bind (inStep_queries (reads_checkPidExist _))
      rintro (_ | _)
      · apply inStep_release (Lockstep.pure rfl)
      · apply inStep_launchPppClient w x hB

/-! ### State messages -/

theorem inStep_findSessionId (i : ℕ) :
  InStep t F B Eq (findSessionId i) (findSessionId i)
  := by
  apply inStep_load_bind
  intro v e _
  dsimp only [withReadInfo]
  apply inStep_queries
  cases e.cfg.linkType with
  | pppoe =>
      apply only_bind (reads_op trivial)
      rintro (_ | text) <;> apply only_pure
  | pppoa =>
      apply only_bind reads_getPppIpAddr
      intro addr
      apply only_ite
      · intro _
        apply only_pure
      · intro _
        apply only_bind (reads_op trivial)
        rintro (_ | text) <;> apply only_pure
  | unset | other => apply only_pure

theorem inStep_getSessionId (i : ℕ) :
  InStep t F B Eq (getSessionId i) (getSessionId i)
  := by
  apply inStep_bind (inStep_findSessionId i)
  rintro (_ | id)
  · apply Lockstep.pure rfl
  · exact inStep_store ⟨fun _ _ => rfl, fun _ => rfl⟩

theorem inStep_changeStatus (i : ℕ) (status : DmlIfStatus) (conn : DmlPppConnStatus) :
  InStep t F B Eq (changeStatus i status conn) (changeStatus i status conn)
  := by
  refine inStep_store_bind ⟨fun _ _ => rfl, fun _ => rfl⟩ ?_
  apply inStep_bind (inStep_queries reads_getUptimeinSeconds)
  intro uptime
  exact inStep_store ⟨fun _ _ => rfl, fun _ => rfl⟩

theorem inStep_storeUnless {c : Prop} [Decidable c] {i : ℕ} {f : DmlPppIfFull → DmlPppIfFull}
    (hf : Apart f) :
  InStep t F B Eq (storeUnless c i f) (storeUnless c i f)
  := by
  apply inStep_ite
  · apply Lockstep.pure rfl
  · apply inStep_store hf

theorem inStep_completeLcpAuth (i : ℕ) (msg : PppLcpMsg) :
  InStep t F B Eq (completeLcpAuth i msg) (completeLcpAuth i msg)
  := by
  refine inStep_store_bind ⟨fun _ _ => rfl, fun _ => rfl⟩ ?_
  apply inStep_bind
  · exact inStep_storeUnless ⟨fun _ _ => rfl, fun _ => rfl⟩
  · intro _
    exact inStep_storeUnless ⟨fun _ _ => rfl, fun _ => rfl⟩

theorem inStep_switchPppState (i : ℕ) (msg : IpcPppEventMsg) :
  InStep t F B Eq (switchPppState i msg) (switchPppState i msg)
  := by
  rw [switchPppState]
  cases msg.pppState with
  | interfaceConnecting =>
      apply inStep_bind (inStep_changeStatus i _ _)
      intro _
      refine inStep_store_bind ⟨fun _ _ => rfl, fun _ => rfl⟩ ?_
      apply Lockstep.pure rfl
  | interfaceUp =>
      refine inStep_store_bind ⟨fun _ _ => rfl, fun _ => rfl⟩ ?_
      refine inStep_store_bind ⟨fun _ _ => rfl, fun _ => rfl⟩ ?_
      apply inStep_bind (inStep_queries reads_getUptimeinSeconds)
      intro uptime
      refine inStep_store_bind ⟨fun _ _ => rfl, fun _ => rfl⟩ ?_
      apply inStep_bind (inStep_getSessionId i)
      intro _
      apply inStep_load_bind
      intro v e _
      apply inStep_bind (inStep_plain (plain_setParamValuesToDB _ _))
      intro _
      apply Lockstep.pure rfl
  | interfaceDisconnected | interfaceDown =>
      refine inStep_store_bind ⟨fun _ _ => rfl, fun _ => rfl⟩ ?_
      apply inStep_bind (inStep_changeStatus i _ _)
      intro _
      refine inStep_store_bind ⟨fun _ _ => rfl, fun _ => rfl⟩ ?_
      apply Lockstep.pure rfl
  | lcpAuthCompleted =>
      apply inStep_bind (inStep_completeLcpAuth i _)
      intro _
      apply Lockstep.pure rfl
  | interfaceAuthFailed =>
      refine inStep_store_bind ⟨fun _ _ => rfl, fun _ => rfl⟩ ?_
      apply inStep_bind (inStep_plain plain_stopPppoe)
      intro _
      apply Lockstep.pure rfl
  | _ =>
      apply inStep_bind (inStep_changeStatus i _ _)
      intro _
      apply Lockstep.pure rfl

theorem inStep_postLinkStatus (i : ℕ) (wanPppLinkStatus : CStr) :
  InStep t F B Eq (postLinkStatus b i wanPppLinkStatus) (postLinkStatus b i wanPppLinkStatus)
  := by
  apply inStep_load_bind
  intro v e _
  apply inStep_bind (inStep_plain (plain_sendDataToQ _))
  rintro (_ | _)
  · apply inStep_bind (inStep_plain (plain_sendDataToQ _))
    rintro (_ | _) <;> apply inStep_release (Lockstep.pure rfl)
  · apply inStep_release (Lockstep.pure rfl)

theorem inStep_processStateChangedMsg (n : ℤ) (msg : IpcPppEventMsg) :
  InStep t F B Eq (processStateChangedMsg b n msg) (processStateChangedMsg b n msg)
  := by
  apply inStep_ite
  · apply Lockstep.pure rfl
  · apply inStep_locked
    · apply Lockstep.pure rfl
    · apply inStep_bind (inStep_switchPppState _ msg)
      rintro (_ | wanPppLinkStatus)
      · apply inStep_release (Lockstep.pure rfl)
      · apply inStep_postLinkStatus

theorem inStep_rejectIpcpParams (i : ℕ) :
  InStep t F B Eq (rejectIpcpParams b i) (rejectIpcpParams b i)
  := by
  apply inStep_load_bind
  intro v e _
  apply inStep_bind (inStep_plain (plain_sendDataToQ _))
  intro _
  apply inStep_release (Lockstep.pure rfl)

theorem inStep_acceptIpcpParams (i : ℕ) :
  InStep t F B Eq (acceptIpcpParams b i) (acceptIpcpParams b i)
  := by
  apply inStep_load_bind
  intro v e _
  apply inStep_bind (inStep_plain (plain_sendDataToQ _))
  rintro (_ | _) <;> apply inStep_release (Lockstep.pure rfl)

theorem inStep_storeIpcpParams (i : ℕ) (msg : PppIpcpMsg) :
  InStep t F B Eq (storeIpcpParams b i msg) (storeIpcpParams b i msg)
  := by
  refine inStep_store_bind ⟨fun _ _ => rfl, fun _ => rfl⟩ ?_
  refine inStep_store_bind ⟨fun _ _ => rfl, fun _ => rfl⟩ ?_
  refine inStep_store_bind ⟨fun _ _ => rfl, fun _ => rfl⟩ ?_
  generalize dmlSetIp4Param msg.ip (fun _ => 0) = ip
  obtain ⟨ip, ret⟩ := ip
  refine inStep_store_bind ⟨fun _ _ => rfl, fun _ => rfl⟩ ?_
  cases ret with
  | failure => apply inStep_rejectIpcpParams
  | success =>
      generalize dmlSetIp4Param msg.gateway (fun _ => 0) = gateway
      obtain ⟨gateway, ret⟩ := gateway
      refine inStep_store_bind ⟨fun _ _ => rfl, fun _ => rfl⟩ ?_
      cases ret with
      | failure => apply inStep_rejectIpcpParams
      | success =>
          cases dnsServersOf (strtok ',' msg.nameserver) with
          | none => apply inStep_rejectIpcpParams
          | some dnsServers =>
              refine inStep_store_bind ⟨fun _ _ => rfl, fun _ => rfl⟩ ?_
              apply inStep_acceptIpcpParams

theorem inStep_processIpcpParams (n : ℤ) (msg : IpcPppEventMsg) :
  InStep t F B Eq (processIpcpParams b n msg) (processIpcpParams b n msg)
  := by
  apply inStep_ite
  · apply Lockstep.pure rfl
  · apply inStep_ite
    · apply inStep_bind (inStep_plain (plain_sendDataToQ _))
      intro _
      apply Lockstep.pure rfl
    · apply inStep_ite
      · apply inStep_bind (inStep_plain (plain_sendDataToQ _))
        intro _
        apply Lockstep.pure rfl
      · apply inStep_locked
        · apply Lockstep.pure rfl
        · apply inStep_storeIpcpParams

theorem inStep_processIpv6cpParams (n : ℤ) (msg : IpcPppEventMsg) :
  InStep t F B Eq (processIpv6cpParams b n msg) (processIpv6cpParams b n msg)
  := by
  apply inStep_ite
  · apply Lockstep.pure rfl
  · apply inStep_locked
    · apply Lockstep.pure rfl
    · apply inStep_load_bind
      intro v e _
      apply inStep_ite
      · apply inStep_bind
        · apply inStep_bind
          · exact inStep_storeUnless ⟨fun _ _ => rfl, fun _ => rfl⟩
          · intro _
            exact inStep_storeUnless ⟨fun _ _ => rfl, fun _ => rfl⟩
        · intro _
          apply inStep_bind (inStep_plain (plain_generateDuidFile _))
          intro _
          apply inStep_bind (inStep_plain (plain_sendDataToQ _))
          rintro (_ | _) <;> apply inStep_release (Lockstep.pure rfl)
      · apply inStep_bind (inStep_plain (plain_removeDuidFile _))
        intro _
        apply inStep_bind (inStep_plain (plain_sendDataToQ _))
        intro _
        apply inStep_release (Lockstep.pure rfl)

theorem inStep_getIfaceDataWithPidLoop (pid : ℤ) (n k : ℕ) :
  InStep t F B Eq (getIfaceDataWithPidLoop pid n k) (getIfaceDataWithPidLoop pid n k)
  := by
  induction k generalizing n with
  | zero => apply Lockstep.pure rfl
  | succ k ih =>
      apply inStep_locked
      · apply ih
      · apply inStep_load_bind
        intro v e _
        apply inStep_ite
        · apply inStep_release (Lockstep.pure rfl)
        · apply inStep_release (ih _)

theorem inStep_processPppState (m : IpcMsgPayload) :
  InStep t F B Eq (processPppState b m) (processPppState b m)
  := by
  apply inStep_ite
  · apply Lockstep.pure rfl
  · apply inStep_bind
    · apply inStep_bind (inStep_queries reads_dmlGetTotalNoOfPPPInterfaces)
      intro total
      apply inStep_getIfaceDataWithPidLoop
    · intro n
      apply inStep_ite
      · apply Lockstep.pure rfl
      · rw [dispatchPppState]
        cases m.pppEventMsg.pppState with
        | ipcpCompleted | ipcpFailed => apply inStep_processIpcpParams
        | ipv6cpCompleted | ipv6cpFailed => apply inStep_processIpv6cpParams
        | unknown code => apply Lockstep.pure rfl
        | _ => apply inStep_processStateChangedMsg

/-! ### Queue events -/

theorem plain_dmlWanmanagerSetParamValues (component bus name value : CStr) :
  Only Op.IsPlain (dmlWanmanagerSetParamValues component bus name value)
  := by
  apply only_bind (reads_op trivial)
  rintro ⟨success, faultParam⟩
  apply only_ite <;> intro _ <;> apply only_pure

theorem inStep_wanInstanceOf (n : ℕ) :
  InStep t F B Eq (wanInstanceOf n) (wanInstanceOf n)
  := by
  apply inStep_locked
  · apply Lockstep.pure rfl
  · apply inStep_load_bind
    intro v e _
    apply inStep_release (Lockstep.pure rfl)

theorem inStep_processPppEvent {ev : PppEventQData}
    (hB : ∀ n ∈ ev.starts, ¬ F (n - 1) → ∀ o, o.IsConfig → B o) :
  InStep t F B Eq (processPppEvent b ev) (processPppEvent b ev)
  := by
  rw [processPppEvent]
  split_ifs with hpos
  · apply Lockstep.pure rfl
  · cases haction : ev.action with
    | busSet =>
        rcases ev.keyPath with _ | keyPath
        · apply Lockstep.pure rfl
        · rcases ev.comPath with _ | comPath
          · apply Lockstep.pure rfl
          · rcases ev.busPath with _ | busPath
            · apply Lockstep.pure rfl
            · apply inStep_bind (inStep_wanInstanceOf _)
              rintro ⟨w, v⟩
              apply inStep_plain (plain_dmlWanmanagerSetParamValues _ _ _ _)
    | execPppClient =>
        apply inStep_bind
        · apply inStep_startPppClient
          apply hB
          rw [PppEventQData.starts, if_pos ⟨Int.not_le.mp hpos, haction⟩]
          rfl
        · intro _
          apply Lockstep.pure rfl

/-! ### The data model -/

/-- A program between taking the mutex of an entry and giving it back. -/
theorem inStep_bracket {i : ℕ} {p : Code α} {p' : Code β} {V : α → β → Prop}
    (hp : InStep t F B V p p') :
  InStep t F B V (do lock i; let r ← p; unlock i; pure r) (do lock i; let r ← p'; unlock i; pure r)
  := by
  apply inStep_bind (inStep_plain (plain_lock i))
  intro _
  apply hp.bind
  intro r r' h
  apply inStep_release (Lockstep.pure h)

/-- A read fills in the same in entries alike. -/
theorem keepsAlike_fillIfInfo :
  KeepsAlike fillIfInfo
  := by
  intro F e e' h
  obtain ⟨v, rfl⟩ := h.same
  constructor
  · exact ⟨⟨.none, .none, v.currentMRUSize, 30, 3⟩, rfl⟩
  · apply Or.inr rfl
  · apply Or.inr rfl
  · intro _
    rfl

theorem keepsAlike_copyMRUSize :
  KeepsAlike copyMRUSize
  := by
  intro F e e' h
  obtain ⟨v, rfl⟩ := h.same
  constructor
  · exact ⟨{ v with currentMRUSize := e.cfg.maxMRUSize }, rfl⟩
  · apply h.echo
  · apply h.echo'
  · apply h.filled

theorem inStep_pppDmlGetIfInfo (i : ℕ) :
  InStep t F B Eq (pppDmlGetIfInfo i) (pppDmlGetIfInfo i)
  := by
  apply inStep_bind (inStep_keepsAlike keepsAlike_fillIfInfo)
  intro _
  apply inStep_getSessionId

/-- The value a getter gives is not looked at. -/
abbrev AnyValue : α → β → Prop :=
  fun _ _ => True

theorem inStep_readUlongParam (i : ℕ) (paramName : CStr) :
  InStep t F B AnyValue (readUlongParam b i paramName) (readUlongParam b i paramName)
  := by
  apply inStep_load_bind
  intro v e _
  apply inStep_ite
  · apply inStep_bind (inStep_pppDmlGetIfInfo i)
    intro _
    apply inStep_load_bind
    intro v e _
    apply inStep_bind (inStep_queries reads_getUptimeinSeconds)
    intro uptime
    apply Lockstep.pure trivial
  · apply inStep_ite
    · apply inStep_bind (inStep_pppDmlGetIfInfo i)
      intro _
      apply inStep_bind (inStep_keepsAlike keepsAlike_copyMRUSize)
      intro _
      apply inStep_load_bind
      intro v e _
      apply Lockstep.pure trivial
    · rw [isSome_filledUlongParam paramName (e.withReadInfo v) e]
      apply inStep_ite
      · apply inStep_bind (inStep_pppDmlGetIfInfo i)
        intro _
        apply inStep_load_bind
        intro v e _
        apply Lockstep.pure trivial
      · apply Lockstep.pure trivial

theorem inStep_readStringParam (i : ℕ) (paramName : CStr) :
  InStep t F B AnyValue (readStringParam i paramName) (readStringParam i paramName)
  := by
  apply inStep_load_bind
  intro v e _
  apply inStep_ite
  · apply Lockstep.pure trivial
  · apply inStep_ite
    · apply inStep_bind (inStep_pppDmlGetIfInfo i)
      intro _
      apply inStep_load_bind
      intro v e _
      apply Lockstep.pure trivial
    · apply inStep_ite
      · apply Lockstep.pure trivial
      · apply inStep_ite
        · apply Lockstep.pure trivial
        · apply inStep_ite <;> apply Lockstep.pure trivial

theorem inStep_sprintfNoArgs (format : CStr) :
  InStep t F B Eq (sprintfNoArgs format) (sprintfNoArgs format)
  := by
  apply inStep_ite
  · apply Lockstep.pure rfl
  · apply inStep_undefined

theorem inStep_readIpv6cpStringParam (i : ℕ) (paramName : CStr) :
  InStep t F B AnyValue (readIpv6cpStringParam i paramName) (readIpv6cpStringParam i paramName)
  := by
  apply inStep_bind (inStep_pppDmlGetIfInfo i)
  intro _
  apply inStep_load_bind
  intro v e _
  apply inStep_ite
  · apply inStep_bind (inStep_sprintfNoArgs _)
    intro _
    apply Lockstep.pure trivial
  · apply inStep_ite
    · apply inStep_bind (inStep_sprintfNoArgs _)
      intro _
      apply Lockstep.pure trivial
    · apply Lockstep.pure trivial

theorem inStep_pppDmlGetIfStats (i : ℕ) (stats : DmlIfStats) :
  InStep t F B Eq (pppDmlGetIfStats i stats) (pppDmlGetIfStats i stats)
  := by
  apply inStep_load_bind
  intro v e _
  apply inStep_ite
  · apply inStep_queries
    apply only_bind (reads_op trivial)
    rintro (_ | text) <;> apply only_pure
  · apply inStep_undefined

/-- A program whose value is dropped. -/
theorem inStep_drop {p : Code α} {p' : Code β} {V : α → β → Prop} (hp : InStep t F B V p p') :
  InStep t F B Eq ((fun _ => ()) <$> p) ((fun _ => ()) <$> p')
  := inStep_map hp (fun _ _ _ => rfl)

/-- A getter that looks at the entry only. -/
theorem inStep_look {i : ℕ} (f : DmlPppIfFull → β) :
  InStep t F B AnyValue (do lock i; let e ← load i; unlock i; pure (f e))
    (do lock i; let e ← load i; unlock i; pure (f e))
  := by
  apply inStep_bind (inStep_plain (plain_lock i))
  intro _
  apply inStep_load_bind
  intro v e _
  apply inStep_release (Lockstep.pure trivial)

theorem inStep_pppoeGetParamUlongValue (i : ℕ) (paramName : CStr) :
  InStep t F B AnyValue (pppoeGetParamUlongValue i paramName) (pppoeGetParamUlongValue i paramName)
  := by
  apply inStep_bind (inStep_plain (plain_lock i))
  intro _
  apply inStep_ite
  · apply inStep_bind (inStep_pppDmlGetIfInfo i)
    intro _
    apply inStep_load_bind
    intro v e _
    apply inStep_release (Lockstep.pure trivial)
  · apply inStep_release (Lockstep.pure trivial)

theorem inStep_ipcpGetParamStringValue (i : ℕ) (paramName : CStr) :
  InStep t F B AnyValue (ipcpGetParamStringValue i paramName) (ipcpGetParamStringValue i paramName)
  := by
  apply inStep_bind (inStep_plain (plain_lock i))
  intro _
  apply inStep_bind (inStep_pppDmlGetIfInfo i)
  intro _
  apply inStep_load_bind
  intro v e _
  apply inStep_release (Lockstep.pure trivial)

theorem inStep_statsGetParamUlongValue (i : ℕ) (paramName : CStr) :
  InStep t F B AnyValue (statsGetParamUlongValue i paramName) (statsGetParamUlongValue i paramName)
  := by
  apply inStep_bind (inStep_pppDmlGetIfStats i _)
  intro _
  apply inStep_bind (inStep_plain (plain_lock i))
  intro _
  apply inStep_release (Lockstep.pure trivial)

theorem inStep_getter (g : Getter) :
  InStep t F B Eq (g.code b) (g.code b)
  := by
  cases g with
  | interfaceBool i paramName | pppoeString i paramName | ipcpBool i paramName =>
      apply inStep_drop (inStep_look _)
  | interfaceUlong i paramName =>
      apply inStep_drop (inStep_bracket (inStep_readUlongParam i paramName))
  | interfaceString i paramName =>
      apply inStep_drop (inStep_bracket (inStep_readStringParam i paramName))
  | ipv6cpString i paramName =>
      apply inStep_drop (inStep_bracket (inStep_readIpv6cpStringParam i paramName))
  | pppoeUlong i paramName => apply inStep_drop (inStep_pppoeGetParamUlongValue i paramName)
  | ipcpString i paramName => apply inStep_drop (inStep_ipcpGetParamStringValue i paramName)
  | statsUlong i paramName => apply inStep_drop (inStep_statsGetParamUlongValue i paramName)

/-! ### Setters -/

/-- A setter that writes one field. -/
theorem inStep_write {i : ℕ} {f : DmlPppIfFull → DmlPppIfFull} (hf : Apart f) :
  InStep t F B Eq (store i f >>= fun _ => (pure true : Code Bool))
    (store i f >>= fun _ => pure true)
  := inStep_store_bind hf (Lockstep.pure rfl)

theorem inStep_writeBoolParam (i : ℕ) (paramName : CStr) (bValue : Bool) :
  InStep t F B Eq (writeBoolParam b i paramName bValue) (writeBoolParam b i paramName bValue)
  := by
  apply inStep_ite
  · apply inStep_load_bind
    intro v e _
    apply inStep_enableIf
  · apply inStep_ite
    · exact inStep_write ⟨fun _ _ => rfl, fun _ => rfl⟩
    · apply inStep_ite
      · exact inStep_write ⟨fun _ _ => rfl, fun _ => rfl⟩
      · apply inStep_ite
        · apply inStep_load_bind
          intro v e _
          apply inStep_ite
          · apply inStep_pppDmlIfReset
          · apply Lockstep.pure rfl
        · apply Lockstep.pure rfl

theorem inStep_writeUlongParam (i : ℕ) (paramName : CStr) (uValue : ULong) :
  InStep t F B Eq (writeUlongParam i paramName uValue) (writeUlongParam i paramName uValue)
  := by
  apply inStep_ite
  · refine inStep_store_bind ⟨fun _ _ => rfl, fun _ => rfl⟩ ?_
    apply inStep_bind (inStep_system _)
    intro _
    apply Lockstep.pure rfl
  · refine inStep_ite (inStep_write ⟨fun _ _ => rfl, fun _ => rfl⟩) ?_
    refine inStep_ite (inStep_write ⟨fun _ _ => rfl, fun _ => rfl⟩) ?_
    refine inStep_ite (inStep_write ⟨fun _ _ => rfl, fun _ => rfl⟩) ?_
    refine inStep_ite (inStep_write ⟨fun _ _ => rfl, fun _ => rfl⟩) ?_
    refine inStep_ite (inStep_write ⟨fun _ _ => rfl, fun _ => rfl⟩) ?_
    apply Lockstep.pure rfl

/-- A setter that copies a string to a field. -/
theorem inStep_copy {i size : ℕ} {set : CStr → DmlPppIfFull → DmlPppIfFull}
    {pString : CStr} (hset : ∀ v, Apart (set v)) :
  InStep t F B Eq (anscCopyString i size set pString >>= fun _ => (pure true : Code Bool))
    (anscCopyString i size set pString >>= fun _ => pure true)
  := by
  apply inStep_bind
  · apply inStep_ite
    · apply inStep_store (hset pString)
    · apply inStep_undefined
  · intro _
    apply Lockstep.pure rfl

theorem inStep_writeStringParam (i : ℕ) (paramName pString : CStr) :
  InStep t F B Eq (writeStringParam i paramName pString) (writeStringParam i paramName pString)
  := by
  apply inStep_ite
  · exact inStep_copy fun _ => ⟨fun _ _ => rfl, fun _ => rfl⟩
  · apply inStep_ite
    · exact inStep_copy fun _ => ⟨fun _ _ => rfl, fun _ => rfl⟩
    · apply inStep_ite
      · apply inStep_ite
        · apply Lockstep.pure rfl
        · apply inStep_ite
          · exact inStep_copy fun _ => ⟨fun _ _ => rfl, fun _ => rfl⟩
          · apply Lockstep.pure rfl
      · apply inStep_ite
        · apply inStep_ite
          · apply Lockstep.pure rfl
          · exact inStep_copy fun _ => ⟨fun _ _ => rfl, fun _ => rfl⟩
        · apply Lockstep.pure rfl

theorem inStep_writePppoeStringParam (i : ℕ) (paramName pString : CStr) :
  InStep t F B Eq (writePppoeStringParam i paramName pString)
    (writePppoeStringParam i paramName pString)
  := by
  apply inStep_ite
  · exact inStep_copy fun _ => ⟨fun _ _ => rfl, fun _ => rfl⟩
  · apply inStep_ite
    · exact inStep_copy fun _ => ⟨fun _ _ => rfl, fun _ => rfl⟩
    · apply Lockstep.pure rfl

theorem inStep_writeIpcpStringParam (i : ℕ) (paramName pString : CStr) :
  InStep t F B Eq (writeIpcpStringParam i paramName pString)
    (writeIpcpStringParam i paramName pString)
  := by
  apply inStep_ite
  · exact inStep_copy fun _ => ⟨fun _ _ => rfl, fun _ => rfl⟩
  · apply Lockstep.pure rfl

theorem inStep_ipcpSetParamBoolValue (i : ℕ) (paramName : CStr) (bValue : Bool) :
  InStep t F B Eq (ipcpSetParamBoolValue i paramName bValue)
    (ipcpSetParamBoolValue i paramName bValue)
  := by
  apply inStep_bind (inStep_plain (plain_lock i))
  intro _
  apply inStep_ite
  · refine inStep_store_bind ⟨fun _ _ => rfl, fun _ => rfl⟩ ?_
    apply inStep_release (Lockstep.pure rfl)
  · apply inStep_release (Lockstep.pure rfl)

theorem inStep_commitEntry (i : ℕ) :
  InStep t F B Eq (commitEntry b i) (commitEntry b i)
  := by
  apply inStep_bind (inStep_plain (plain_lock i))
  intro _
  apply inStep_load_bind
  intro v e _
  apply inStep_bind (inStep_plain (plain_setParamFromPSM b _))
  intro _
  apply inStep_plain (plain_unlock i)

theorem inStep_rollbackEntry (i : ℕ) :
  InStep t F B Eq (rollbackEntry i) (rollbackEntry i)
  := by
  apply inStep_bind (inStep_plain (plain_lock i))
  intro _
  apply inStep_bind (Lockstep.pure rfl)
  intro _
  apply inStep_plain (plain_unlock i)

theorem inStep_setter (w : Setter) :
  InStep t F B Eq (w.code b) (w.code b)
  := by
  cases w with
  | interfaceBool i paramName bValue =>
      apply inStep_bracket (inStep_writeBoolParam i paramName bValue)
  | interfaceUlong i paramName uValue =>
      apply inStep_bracket (inStep_writeUlongParam i paramName uValue)
  | interfaceString i paramName pString =>
      apply inStep_bracket (inStep_writeStringParam i paramName pString)
  | pppoeString i paramName pString =>
      apply inStep_bracket (inStep_writePppoeStringParam i paramName pString)
  | ipcpBool i paramName bValue => apply inStep_ipcpSetParamBoolValue
  | ipcpString i paramName pString =>
      apply inStep_bracket (inStep_writeIpcpStringParam i paramName pString)
  | interfaceCommit i | pppoeCommit i | ipcpCommit i =>
      apply inStep_map (inStep_commitEntry i)
      intro _ _ _
      rfl
  | interfaceRollback i | pppoeRollback i | ipcpRollback i =>
      apply inStep_map (inStep_rollbackEntry i)
      intro _ _ _
      rfl

/-! ### The entry points -/

theorem inStep_interfaceGetEntry (nIndex : ℕ) :
  InStep t F B Eq (interfaceGetEntry nIndex) (interfaceGetEntry nIndex)
  := by
  apply inStep_bind (inStep_plain (plain_lock nIndex))
  intro _
  refine inStep_store_bind ⟨fun _ _ => rfl, fun _ => rfl⟩ ?_
  apply inStep_release (Lockstep.pure rfl)

theorem inStep_validateLoop (i : ℕ) (name : CStr) (ulIndex k : ℕ) :
  InStep t F B Eq (validateLoop i name ulIndex k) (validateLoop i name ulIndex k)
  := by
  induction k generalizing ulIndex with
  | zero => apply Lockstep.pure rfl
  | succ k ih =>
      apply inStep_ite
      · apply ih
      · apply inStep_load_bind
        intro v e _
        apply inStep_ite
        · apply Lockstep.pure rfl
        · apply ih

theorem inStep_interfaceValidate (i : ℕ) :
  InStep t F B Eq (interfaceValidate i) (interfaceValidate i)
  := by
  apply inStep_bind (inStep_queries reads_dmlGetTotalNoOfPPPInterfaces)
  intro ulEntryCount
  apply inStep_load_bind
  intro v e _
  apply inStep_validateLoop

theorem inStep_takenCode {r : Option PppEventQData}
    (hB : ∀ n ∈ r.bind PppEventQData.starts, ¬ F (n - 1) → ∀ o, o.IsConfig → B o) :
  InStep t F B Eq (takenCode b r) (takenCode b r)
  := by
  cases r with
  | none => apply Lockstep.pure rfl
  | some ev => apply inStep_drop (inStep_processPppEvent hB)

/-- The two outcomes of a run are the same error, or end in states alike. -/
abbrev EndAlike (F : ℕ → Prop) : Except Stop (Unit × Sys × ℕ) → Except Stop (Unit × Sys × ℕ) → Prop :=
  Together (fun r r' => r.1 = r'.1 ∧ Alike F r.2.1 r'.2.1 ∧ r.2.2 = r'.2.2)

/-- An entry point, from states alike and with the same answers, ends in states alike, if it runs no
command that configures the client of an entry that is not filled. -/
theorem endAlike_code {p : EntryPoint} {ω : Answers} {k : ℕ} {s s' : Sys} (hs : Alike F s s')
    (hB : ∀ n ∈ p.starts s, ¬ F (n - 1) → ∀ o, o.IsConfig → B o)
    (hconf : ¬ (machine t).Performs ω (fun o _ => B o) (p.code b) k s) :
  EndAlike F ((machine t).exec ω (p.code b) k s) ((machine t).exec ω (p.code b) k s')
  := by
  cases p with
  | getter g => apply (inStep_getter g).exec hs hconf
  | setter w => apply (inStep_drop (inStep_setter w)).exec hs hconf
  | constant => apply (Lockstep.pure rfl).exec hs hconf
  | getEntryCount =>
      apply (inStep_drop (inStep_queries reads_dmlGetTotalNoOfPPPInterfaces)).exec hs hconf
  | getEntry nIndex => apply (inStep_drop (inStep_interfaceGetEntry nIndex)).exec hs hconf
  | validate i => apply (inStep_drop (inStep_interfaceValidate i)).exec hs hconf
  | message m => apply (inStep_drop (inStep_processPppState m)).exec hs hconf
  | takeEvent =>
      rw [EntryPoint.code, handleQueue_eq] at hconf ⊢
      obtain ⟨table, _, _, _, _⟩ := s
      obtain ⟨table', locks, queue, psm, acts⟩ := s'
      obtain ⟨hentry, rfl, rfl, rfl, rfl⟩ := hs
      cases queue with
      | nil => apply Together.ok ⟨rfl, ⟨hentry, rfl, rfl, rfl, rfl⟩, rfl⟩
      | cons ev evs =>
          apply (inStep_takenCode (r := some ev) hB).exec
          · exact ⟨hentry, rfl, rfl, rfl, rfl⟩
          · exact fun h => hconf (.inr h)
  | event ev => apply (inStep_drop (inStep_processPppEvent hB)).exec hs hconf
  | start n => apply (inStep_drop (inStep_startPppClient (hB n rfl))).exec hs hconf
  | stop n => apply (inStep_drop (inStep_stopPppClient n)).exec hs hconf
  | enable n v => apply (inStep_drop (inStep_enableIf n v)).exec hs hconf
  | reset n => apply (inStep_drop (inStep_pppDmlIfReset n)).exec hs hconf

end

end PppManager
