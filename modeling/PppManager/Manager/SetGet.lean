import PppManager.Manager.Getters
import PppManager.Manager.Rollback

/-!
# Sets and gets

A set that succeeds is shown by the getter of its parameter, and by no other: the other getters show
what they showed, apart from `CurrentMRUSize`, which is `MaxMRUSize`, and from `SessionID`, which is
read for the link type.  A set that fails is shown by none (`setGet_of_admits`).
-/

namespace PppManager

open Effect CText

/-! ### The getter of a field -/

/-- The getter that shows a field of the entry `i`. -/
def CfgField.getter (i : ℕ) : CfgField → Getter
  | .ifAlias => .interfaceString i "Alias".toList
  | .bIPCPEnabled => .interfaceBool i "IPCPEnable".toList
  | .bIPV6CPEnabled => .interfaceBool i "IPv6CPEnable".toList
  | .linkType => .interfaceUlong i "X_RDK_LinkType".toList
  | .lowerLayers => .interfaceString i "LowerLayers".toList
  | .autoDisconnectTime => .interfaceUlong i "AutoDisconnectTime".toList
  | .idleDisconnectTime => .interfaceUlong i "IdleDisconnectTime".toList
  | .warnDisconnectDelay => .interfaceUlong i "WarnDisconnectDelay".toList
  | .username => .interfaceString i "Username".toList
  | .password => .interfaceString i "Password".toList
  | .maxMRUSize => .interfaceUlong i "MaxMRUSize".toList
  | .connectionTrigger => .interfaceUlong i "ConnectionTrigger".toList
  | .acName => .pppoeString i "ACName".toList
  | .serviceName => .pppoeString i "ServiceName".toList
  | .passthroughEnable => .ipcpBool i "PassthroughEnable".toList
  | .passthroughDHCPPool => .ipcpString i "PassthroughDHCPPool".toList

/-- What the getter of a field shows for a value of it; that of the password shows none. -/
def CfgField.show : (f : CfgField) → f.Value → ParamValue
  | .ifAlias, v => .string v
  | .bIPCPEnabled, v => .bool v
  | .bIPV6CPEnabled, v => .bool v
  | .linkType, v => .ulong v.toULong
  | .lowerLayers, v => .string v
  | .autoDisconnectTime, v => .ulong v
  | .idleDisconnectTime, v => .ulong v
  | .warnDisconnectDelay, v => .ulong v
  | .username, v => .string v
  | .password, _ => .string []
  | .maxMRUSize, v => .ulong (v.zeroExtend 64)
  | .connectionTrigger, v => .ulong v.toULong
  | .acName, v => .string v
  | .serviceName, v => .string v
  | .passthroughEnable, v => .bool v
  | .passthroughDHCPPool, v => .string v

/-- What a getter shows depends on the field of the configuration. -/
def Getter.Reads (f : CfgField) (g : Getter) : Prop :=
  g = f.getter g.handle ∨
    g = .interfaceUlong g.handle "CurrentMRUSize".toList ∧ f = .maxMRUSize ∨
    g = .pppoeUlong g.handle "SessionID".toList ∧ f = .linkType

section

variable {b : Build} {x : SteadyAnswers} {e e' : DmlPppIfFull}

/-- The getter of a field shows it. -/
theorem ofEntry_getter (i : ℕ) (f : CfgField) :
  (f.getter i).ofEntry b x e = .ok (some (f.show (e.cfg.fields f)))
  := by
  cases f <;> rfl

/-- The entries agree, as far as a getter reads them. -/
structure ReadsAlike (g : Getter) (e' e : DmlPppIfFull) : Prop where
  info : e'.info = e.info
  bEnabled : e'.cfg.bEnabled = e.cfg.bEnabled
  fields : ∀ f, g.Reads f → e'.cfg.fields f = e.cfg.fields f

variable {g : Getter} {i : ℕ} {paramName : CStr}

theorem ReadsAlike.field (h : ReadsAlike g e' e) (f : CfgField) (hg : g = f.getter g.handle) :
  e'.cfg.fields f = e.cfg.fields f
  := h.fields f (.inl hg)

theorem interfaceBoolParam_congr (h : ReadsAlike (.interfaceBool i paramName) e' e) :
  interfaceBoolParam paramName e' = interfaceBoolParam paramName e
  := by
  rw [interfaceBoolParam, interfaceBoolParam]
  split_ifs with henable hipcp hipv6cp
  · apply congrArg some h.bEnabled
  · subst hipcp
    apply congrArg some (h.field .bIPCPEnabled rfl)
  · subst hipv6cp
    apply congrArg some (h.field .bIPV6CPEnabled rfl)
  · rfl
  · rfl

theorem interfaceUlongParam_congr (h : ReadsAlike (.interfaceUlong i paramName) e' e) :
  interfaceUlongParam b x paramName e' = interfaceUlongParam b x paramName e
  := by
  rw [interfaceUlongParam, interfaceUlongParam, isSome_filledUlongParam paramName e' e, h.info]
  split_ifs with hchange hmru hfilled
  · rfl
  · subst hmru
    have hsize : e'.cfg.maxMRUSize = e.cfg.maxMRUSize :=
      h.fields .maxMRUSize (.inr (.inl ⟨rfl, rfl⟩))
    rw [hsize]
  · apply congrArg Except.ok
    have hfill : e'.fillIfInfo.info = e.fillIfInfo.info := by
      rw [DmlPppIfFull.fillIfInfo, DmlPppIfFull.fillIfInfo, h.info]
    rw [filledUlongParam, filledUlongParam, hfill]
    by_cases htype : paramName = "X_RDK_LinkType".toList
    · subst htype
      apply congrArg (fun v => some v.toULong) (h.field .linkType rfl)
    · rw [if_neg htype, if_neg htype]
  · apply congrArg Except.ok
    rw [plainUlongParam, plainUlongParam, h.info]
    split_ifs with hsru hsrd hauto hidle hwarn hsize htrigger
    · rfl
    · rfl
    · subst hauto
      apply congrArg some (h.field .autoDisconnectTime rfl)
    · subst hidle
      apply congrArg some (h.field .idleDisconnectTime rfl)
    · subst hwarn
      apply congrArg some (h.field .warnDisconnectDelay rfl)
    · subst hsize
      apply congrArg (fun v : BitVec 16 => some (v.zeroExtend 64)) (h.field .maxMRUSize rfl)
    · subst htrigger
      apply congrArg (fun v => some v.toULong) (h.field .connectionTrigger rfl)
    · rfl

theorem interfaceStringParam_congr (h : ReadsAlike (.interfaceString i paramName) e' e) :
  interfaceStringParam paramName e' = interfaceStringParam paramName e
  := by
  rw [interfaceStringParam, interfaceStringParam, h.info]
  split_ifs with halias hname hlower huser hpassword
  · subst halias
    apply congrArg some (h.field .ifAlias rfl)
  · rfl
  · subst hlower
    apply congrArg some (h.field .lowerLayers rfl)
  · subst huser
    apply congrArg some (h.field .username rfl)
  · rfl
  · rfl

theorem pppoeUlongParam_congr (h : ReadsAlike (.pppoeUlong i paramName) e' e) :
  pppoeUlongParam x paramName e' = pppoeUlongParam x paramName e
  := by
  rw [pppoeUlongParam, pppoeUlongParam, h.info]
  split_ifs with hid
  · subst hid
    have htype : e'.cfg.linkType = e.cfg.linkType := h.fields .linkType (.inr (.inr ⟨rfl, rfl⟩))
    rw [htype]
  · rfl

theorem pppoeStringParam_congr (h : ReadsAlike (.pppoeString i paramName) e' e) :
  pppoeStringParam paramName e' = pppoeStringParam paramName e
  := by
  rw [pppoeStringParam, pppoeStringParam]
  split_ifs with hac hservice
  · subst hac
    apply congrArg some (h.field .acName rfl)
  · subst hservice
    apply congrArg some (h.field .serviceName rfl)
  · rfl

theorem ipcpBoolParam_congr (h : ReadsAlike (.ipcpBool i paramName) e' e) :
  ipcpBoolParam paramName e' = ipcpBoolParam paramName e
  := by
  rw [ipcpBoolParam, ipcpBoolParam]
  split_ifs with henable
  · subst henable
    apply congrArg some (h.field .passthroughEnable rfl)
  · rfl

theorem ipcpStringParam_congr (h : ReadsAlike (.ipcpString i paramName) e' e) :
  ipcpStringParam paramName e' = ipcpStringParam paramName e
  := by
  rw [ipcpStringParam, ipcpStringParam, h.info]
  split_ifs with hlocal hremote hdns hzero hpool
  · rfl
  · rfl
  · rfl
  · rfl
  · subst hpool
    apply congrArg some (h.field .passthroughDHCPPool rfl)
  · rfl

/-- A getter shows the same of entries that agree as far as it reads them. -/
theorem ofEntry_congr (h : ReadsAlike g e' e) :
  g.ofEntry b x e' = g.ofEntry b x e
  := by
  cases g with
  | interfaceBool j paramName => rw [Getter.ofEntry, Getter.ofEntry, interfaceBoolParam_congr h]
  | interfaceUlong j paramName => rw [Getter.ofEntry, Getter.ofEntry, interfaceUlongParam_congr h]
  | interfaceString j paramName => rw [Getter.ofEntry, Getter.ofEntry, interfaceStringParam_congr h]
  | pppoeUlong j paramName => rw [Getter.ofEntry, Getter.ofEntry, pppoeUlongParam_congr h]
  | pppoeString j paramName => rw [Getter.ofEntry, Getter.ofEntry, pppoeStringParam_congr h]
  | ipcpBool j paramName => rw [Getter.ofEntry, Getter.ofEntry, ipcpBoolParam_congr h]
  | ipcpString j paramName => rw [Getter.ofEntry, Getter.ofEntry, ipcpStringParam_congr h]
  | ipv6cpString j paramName =>
      rw [Getter.ofEntry, Getter.ofEntry, printedIdentifier, printedIdentifier, ipv6cpIdentifier,
        ipv6cpIdentifier, h.info]
  | statsUlong j paramName => rw [Getter.ofEntry, Getter.ofEntry, statsParam, statsParam, h.info]

end

/-! ### Sets -/

namespace Setter

/-- The getter of the parameter that is set, and the value. -/
def assignment : Setter → Option (Getter × ParamValue)
  | .interfaceBool i paramName bValue => some (.interfaceBool i paramName, .bool bValue)
  | .interfaceUlong i paramName uValue => some (.interfaceUlong i paramName, .ulong uValue)
  | .interfaceString i paramName pString => some (.interfaceString i paramName, .string pString)
  | .pppoeString i paramName pString => some (.pppoeString i paramName, .string pString)
  | .ipcpBool i paramName bValue => some (.ipcpBool i paramName, .bool bValue)
  | .ipcpString i paramName pString => some (.ipcpString i paramName, .string pString)
  | _ => none

/-- The name is not `Enable`, `Reset` or `Password`, and the value is one that `RdkPppManager.xml`
admits for the parameter, with room for it in its field. -/
def Admits : Setter → Prop
  | .interfaceBool _ paramName _ => paramName ≠ "Enable".toList ∧ paramName ≠ "Reset".toList
  | .interfaceUlong _ paramName uValue =>
      (paramName ∈ ["AutoDisconnectTime".toList, "IdleDisconnectTime".toList,
        "WarnDisconnectDelay".toList] → uValue.toNat < 2 ^ 32) ∧
      (paramName = "MaxMRUSize".toList → 1280 ≤ uValue.toNat ∧ uValue.toNat ≤ 1500) ∧
      (paramName = "ConnectionTrigger".toList → 1 ≤ uValue.toNat ∧ uValue.toNat ≤ 3) ∧
      (paramName = "X_RDK_LinkType".toList → 1 ≤ uValue.toNat ∧ uValue.toNat ≤ 2)
  | .interfaceString _ paramName pString =>
      paramName ≠ "Password".toList ∧
      (paramName = "Alias".toList → pString.length < 512) ∧
      (paramName = "LowerLayers".toList → pString.length < 256) ∧
      (paramName = "Username".toList → pString.length < 65)
  | .pppoeString _ paramName pString =>
      paramName ∈ ["ACName".toList, "ServiceName".toList] → pString.length < 257
  | .ipcpBool _ _ _ => True
  | .ipcpString _ paramName pString =>
      paramName = "PassthroughDHCPPool".toList → pString.length < 512
  | _ => False

end Setter

/-- What a set leaves: a field written, or the table as it was. -/
inductive SetEnds (i : ℕ) (write : Option CfgWrite) (s : Sys) : Bool → Sys → Prop
  | wrote {w : CfgWrite} {s' : Sys} (hwrite : write = some w)
      (table : s'.table = Function.update s.table i ((s.table i).setField w))
      (locks : s'.locks = s.locks) : SetEnds i write s true s'
  | refused {s' : Sys} (table : s'.table = s.table) (locks : s'.locks = s.locks) :
      SetEnds i write s false s'

/-- A program ends as a set of the entry `i` that makes a write does. -/
def MakesSet (ω : Answers) (i : ℕ) (write : Option CfgWrite) (p : Code Bool) (k : ℕ) (s : Sys) : Prop :=
  ∃ r s' k', (machine .dataModel).exec ω p k s = .ok (r, s', k') ∧ SetEnds i write s r s'

section

variable {ω : Answers} {i k : ℕ} {s : Sys} {write : Option CfgWrite}

theorem makesSet_refused :
  MakesSet ω i write (pure false) k s
  := ⟨false, s, k, rfl, .refused rfl rfl⟩

/-- A store that writes a field. -/
theorem makesSet_store (hi : i < pppTableLength) {w : CfgWrite} (hwrite : write = some w) :
  MakesSet ω i write (do store i (·.setField w); pure true) k s
  := by
  refine ⟨true, s.setEntry i ((s.table i).setField w), k + 1, ?_, .wrote hwrite rfl rfl⟩
  rw [exec_store_bind hi]
  rfl

/-- A store that writes a field, and a command. -/
theorem makesSet_store_system (hi : i < pppTableLength) {w : CfgWrite} (hwrite : write = some w)
    {command : CStr} :
  MakesSet ω i write (do store i (·.setField w); system command; pure true) k s
  := by
  refine ⟨true, (s.setEntry i ((s.table i).setField w)).emit (.system command), k + 2, ?_,
    .wrote hwrite rfl rfl⟩
  rw [exec_store_bind hi, Machine.exec_bind, exec_system]
  rfl

theorem makesSet_copy (hi : i < pppTableLength) {size : ℕ} {set : CStr → DmlPppIfFull → DmlPppIfFull}
    {pString : CStr} {w : CfgWrite} (hwrite : write = some w) (hset : set pString = (·.setField w))
    (hlength : pString.length < size) :
  MakesSet ω i write (do anscCopyString i size set pString; pure true) k s
  := by
  rw [anscCopyString, if_pos hlength, hset]
  apply makesSet_store hi hwrite

/-- A set is made while the mutex is held. -/
theorem makesSet_locked (hi : i < pppTableLength) (hfree : s.locks i = []) {p : Code Bool}
    (hp : ∀ k s, MakesSet ω i write p k s) :
  MakesSet ω i write (lock i >>= fun _ => p >>= fun r => unlock i >>= fun _ => pure r) k s
  := by
  have hown : ∀ t' ∈ s.locks i, t' = Thread.dataModel := owned_of_free hfree
  obtain ⟨r, s', k', hexec, hends⟩ := hp (k + 1) (s.setLock i [.dataModel])
  have hlock : s'.locks = Function.update s.locks i [.dataModel] := by
    cases hends with
    | wrote _ _ locks => rw [locks, Sys.setLock_locks]
    | refused _ locks => rw [locks, Sys.setLock_locks]
  have hback : (s'.setLock i []).locks = s.locks := by
    rw [Sys.setLock_locks, hlock, Function.update_idem, ← hfree, Function.update_eq_self]
  use r, s'.setLock i [], k' + 1
  constructor
  · rw [Machine.exec_bind, exec_lock hi hown, hfree]
    dsimp only [Except.bind]
    rw [Machine.exec_bind, hexec]
    dsimp only [Except.bind]
    rw [Machine.exec_bind, exec_unlock]
    · rfl
    · rw [hlock, Function.update_self]
  · cases hends with
    | wrote hwrite table _ => exact .wrote hwrite table hback
    | refused table _ => exact .refused table hback

theorem makesSet_writeUlongParam (hi : i < pppTableLength) {paramName : CStr} {uValue : ULong} :
  MakesSet ω i (ulongWrite paramName uValue) (writeUlongParam i paramName uValue) k s
  := by
  rw [writeUlongParam, ulongWrite]
  split_ifs
  · apply makesSet_store_system hi rfl
  · apply makesSet_store hi rfl
  · apply makesSet_store hi rfl
  · apply makesSet_store hi rfl
  · apply makesSet_store hi rfl
  · apply makesSet_store hi rfl
  · apply makesSet_refused

theorem makesSet_writeStringParam (hi : i < pppTableLength) {paramName pString : CStr}
    (hadmits : (Setter.interfaceString i paramName pString).Admits) :
  MakesSet ω i (stringWrite paramName pString) (writeStringParam i paramName pString) k s
  := by
  obtain ⟨hpassword, halias, hlower, huser⟩ := hadmits
  rw [writeStringParam, stringWrite]
  split_ifs with h₁ h₂ h₃ hempty hvalid
  · apply makesSet_copy hi rfl rfl (halias h₁)
  · apply makesSet_copy hi rfl rfl (hlower h₂)
  · apply makesSet_refused
  · apply makesSet_copy hi rfl rfl (huser h₃)
  · apply makesSet_refused
  · apply makesSet_refused

theorem makesSet_writePppoeStringParam (hi : i < pppTableLength) {paramName pString : CStr}
    (hadmits : (Setter.pppoeString i paramName pString).Admits) :
  MakesSet ω i (pppoeStringWrite paramName pString) (writePppoeStringParam i paramName pString) k s
  := by
  rw [writePppoeStringParam, pppoeStringWrite]
  split_ifs with hac hservice
  · apply makesSet_copy hi rfl rfl
    apply hadmits
    rw [hac]
    apply List.mem_cons_self
  · apply makesSet_copy hi rfl rfl
    apply hadmits
    rw [hservice]
    apply List.mem_cons_of_mem _ List.mem_cons_self
  · apply makesSet_refused

theorem makesSet_writeIpcpStringParam (hi : i < pppTableLength) {paramName pString : CStr}
    (hadmits : (Setter.ipcpString i paramName pString).Admits) :
  MakesSet ω i (ipcpStringWrite paramName pString) (writeIpcpStringParam i paramName pString) k s
  := by
  rw [writeIpcpStringParam, ipcpStringWrite]
  split_ifs with hpool
  · apply makesSet_copy hi rfl rfl (hadmits hpool)
  · apply makesSet_refused

theorem makesSet_writeBoolParam {b : Build} (hi : i < pppTableLength) {paramName : CStr}
    {bValue : Bool} (hname : paramName = "IPCPEnable".toList ∨ paramName = "IPv6CPEnable".toList) :
  MakesSet ω i (boolWrite paramName bValue) (writeBoolParam b i paramName bValue) k s
  := by
  have henable : paramName ≠ "Enable".toList := by
    rcases hname with rfl | rfl <;> decide
  rw [writeBoolParam, boolWrite, if_neg henable]
  split_ifs with hipcp hipv6cp hreset
  · apply makesSet_store hi rfl
  · apply makesSet_store hi rfl
  · apply absurd hname (not_or.mpr ⟨hipcp, hipv6cp⟩)
  · apply absurd hname (not_or.mpr ⟨hipcp, hipv6cp⟩)

/-- A set of a parameter with a value that is admitted ends, and makes its write or none. -/
theorem makesSet_of_admits {b : Build} {w : Setter} (hi : w.handle < pppTableLength)
    (hfree : s.locks w.handle = []) (hadmits : w.Admits)
    (hname : ∀ i paramName bValue, w = .interfaceBool i paramName bValue →
      paramName = "IPCPEnable".toList ∨ paramName = "IPv6CPEnable".toList) :
  MakesSet ω w.handle w.write (w.code b) k s
  := by
  cases w with
  | interfaceBool j paramName bValue =>
      apply makesSet_locked hi hfree
      intro k s
      apply makesSet_writeBoolParam hi (hname _ _ _ rfl)
  | interfaceUlong j paramName uValue =>
      apply makesSet_locked hi hfree
      intro k s
      apply makesSet_writeUlongParam hi
  | interfaceString j paramName pString =>
      apply makesSet_locked hi hfree
      intro k s
      apply makesSet_writeStringParam hi hadmits
  | pppoeString j paramName pString =>
      apply makesSet_locked hi hfree
      intro k s
      apply makesSet_writePppoeStringParam hi hadmits
  | ipcpBool j paramName bValue =>
      rw [Setter.code, ipcpSetParamBoolValue, Setter.write, ipcpBoolWrite]
      split_ifs
      · apply makesSet_locked hi hfree fun k s =>
          makesSet_store (w := ⟨.passthroughEnable, bValue⟩) hi rfl
      · apply makesSet_locked hi hfree fun k s => makesSet_refused
  | ipcpString j paramName pString =>
      apply makesSet_locked hi hfree
      intro k s
      apply makesSet_writeIpcpStringParam hi hadmits
  | _ => apply hadmits.elim

end

/-! ### What a set shows -/

/-- The parameters that a set changes although they are not the one that is set: `CurrentMRUSize`, and
`SessionID` where the link type is set to another one. -/
def Setter.Aside (w : Setter) (e : DmlPppIfFull) (g : Getter) : Prop :=
  g = .interfaceUlong w.handle "CurrentMRUSize".toList ∨
    g = .pppoeUlong w.handle "SessionID".toList ∧
      ∃ linkType, w.write = some ⟨.linkType, linkType⟩ ∧ linkType ≠ e.cfg.linkType

/-- A set ends, and if it succeeds, the getter of its parameter shows the value, and the other getters
but those set aside show what they showed; if it fails, all show what they showed. -/
def SetGet (b : Build) (x : SteadyAnswers) (ω : Answers) (k : ℕ) (s : Sys) (aside : Getter → Prop)
    (w : Setter) (p : Getter × ParamValue) : Prop :=
  ∃ r s' k', (machine .dataModel).exec ω (w.code b) k s = .ok (r, s', k') ∧
    (r = true → p.1.shown b x s' = .ok (some p.2) ∧
      ∀ g, g.handle < pppTableLength → g ≠ p.1 → ¬ aside g → g.shown b x s' = g.shown b x s) ∧
    (r = false → ∀ g : Getter, g.handle < pppTableLength → g.shown b x s' = g.shown b x s)

section

variable {b : Build} {x : SteadyAnswers} {e : DmlPppIfFull} {w : Setter} {c : CfgWrite}
  {p : Getter × ParamValue}

theorem fields_setField :
  (e.setField c).cfg.fields = Function.update e.cfg.fields c.field c.value
  := (matches_setField c.field c.value e).1

theorem bEnabled_setField :
  (e.setField c).cfg.bEnabled = e.cfg.bEnabled
  := by
  obtain ⟨f, v⟩ := c
  cases f <;> rfl

theorem toULong_ofWord_linkType (v : BitVec 32) :
  (PppDmlLinkType.ofWord v).toULong = v.zeroExtend 64
  := by
  rw [PppDmlLinkType.ofWord]
  split_ifs with h₀ h₁ h₂
  · rw [h₀]
    rfl
  · rw [h₁]
    rfl
  · rw [h₂]
    rfl
  · rfl

theorem toULong_ofWord_connTrigger (v : BitVec 32) :
  (PppDmlConnTrigger.ofWord v).toULong = v.zeroExtend 64
  := by
  rw [PppDmlConnTrigger.ofWord]
  split_ifs with h₀ h₁ h₂ h₃
  · rw [h₀]
    rfl
  · rw [h₁]
    rfl
  · rw [h₂]
    rfl
  · rw [h₃]
    rfl
  · rfl

/-- A number that fits in the width it is cut to. -/
theorem zeroExtend_setWidth {u : ULong} {width : ℕ} (hu : u.toNat < 2 ^ width) :
  (u.setWidth width).zeroExtend 64 = u
  := by
  apply BitVec.eq_of_toNat_eq
  rw [BitVec.zeroExtend_eq_setWidth, BitVec.toNat_setWidth, BitVec.toNat_setWidth,
    Nat.mod_eq_of_lt hu, Nat.mod_eq_of_lt u.isLt]

/-- The write of a set is to the field that its getter shows, with the value that is set. -/
theorem assigned (hadmits : w.Admits) (hassign : w.assignment = some p) (hwrite : w.write = some c) :
  p.1 = c.field.getter w.handle ∧ p.2 = c.field.show c.value
  := by
  cases w with
  | interfaceBool i paramName bValue =>
      obtain rfl := Option.some.inj hassign
      rw [Setter.write, boolWrite] at hwrite
      split_ifs at hwrite with hipcp hipv6cp
      · obtain rfl := Option.some.inj hwrite
        rw [hipcp]
        exact ⟨rfl, rfl⟩
      · obtain rfl := Option.some.inj hwrite
        rw [hipv6cp]
        exact ⟨rfl, rfl⟩
  | interfaceUlong i paramName uValue =>
      obtain ⟨-, hsize, htrigger, htype⟩ := hadmits
      obtain rfl := Option.some.inj hassign
      rw [Setter.write, ulongWrite] at hwrite
      split_ifs at hwrite with h₁ h₂ h₃ h₄ h₅ h₆
      · obtain rfl := Option.some.inj hwrite
        rw [h₁]
        exact ⟨rfl, rfl⟩
      · obtain rfl := Option.some.inj hwrite
        rw [h₂]
        exact ⟨rfl, rfl⟩
      · obtain rfl := Option.some.inj hwrite
        rw [h₃]
        exact ⟨rfl, rfl⟩
      · obtain rfl := Option.some.inj hwrite
        have hfits : uValue.toNat < 2 ^ 16 := (hsize h₄).2.trans_lt (by decide)
        rw [CfgField.show, zeroExtend_setWidth hfits, h₄]
        exact ⟨rfl, rfl⟩
      · obtain rfl := Option.some.inj hwrite
        have hfits : uValue.toNat < 2 ^ 32 := (htrigger h₅).2.trans_lt (by decide)
        rw [CfgField.show, PppDmlConnTrigger.ofULong, toULong_ofWord_connTrigger,
          zeroExtend_setWidth hfits, h₅]
        exact ⟨rfl, rfl⟩
      · obtain rfl := Option.some.inj hwrite
        have hfits : uValue.toNat < 2 ^ 32 := (htype h₆).2.trans_lt (by decide)
        rw [CfgField.show, PppDmlLinkType.ofULong, toULong_ofWord_linkType,
          zeroExtend_setWidth hfits, h₆]
        exact ⟨rfl, rfl⟩
  | interfaceString i paramName pString =>
      obtain ⟨hpassword, -, -, -⟩ := hadmits
      obtain rfl := Option.some.inj hassign
      rw [Setter.write, stringWrite] at hwrite
      split_ifs at hwrite with h₁ h₂ h₃
      · obtain rfl := Option.some.inj hwrite
        rw [h₁]
        exact ⟨rfl, rfl⟩
      · obtain rfl := Option.some.inj hwrite
        rw [h₂]
        exact ⟨rfl, rfl⟩
      · obtain rfl := Option.some.inj hwrite
        rw [h₃]
        exact ⟨rfl, rfl⟩
  | pppoeString i paramName pString =>
      obtain rfl := Option.some.inj hassign
      rw [Setter.write, pppoeStringWrite] at hwrite
      split_ifs at hwrite with hac hservice
      · obtain rfl := Option.some.inj hwrite
        rw [hac]
        exact ⟨rfl, rfl⟩
      · obtain rfl := Option.some.inj hwrite
        rw [hservice]
        exact ⟨rfl, rfl⟩
  | ipcpBool i paramName bValue =>
      obtain rfl := Option.some.inj hassign
      rw [Setter.write, ipcpBoolWrite] at hwrite
      split_ifs at hwrite with henable
      obtain rfl := Option.some.inj hwrite
      rw [henable]
      exact ⟨rfl, rfl⟩
  | ipcpString i paramName pString =>
      obtain rfl := Option.some.inj hassign
      rw [Setter.write, ipcpStringWrite] at hwrite
      split_ifs at hwrite with hpool
      obtain rfl := Option.some.inj hwrite
      rw [hpool]
      exact ⟨rfl, rfl⟩
  | _ => apply hadmits.elim

/-- A getter other than that of the field written, and not set aside, reads what it read. -/
theorem readsAlike_setField (hgetter : p.1 = c.field.getter w.handle) (hwrite : w.write = some c)
    {g : Getter} (hhandle : g.handle = w.handle) (hne : g ≠ p.1) (haside : ¬ w.Aside e g) :
  ReadsAlike g (e.setField c) e
  where
    info := rfl
    bEnabled := bEnabled_setField
    fields := by
      intro f hreads
      rw [fields_setField]
      by_cases hf : f = c.field
      · subst hf
        rw [Function.update_self]
        rw [Setter.Aside, not_or, not_and] at haside
        rcases hreads with hg | ⟨hg, -⟩ | ⟨hg, htype⟩
        · rw [hhandle, ← hgetter] at hg
          apply absurd hg hne
        · rw [hhandle] at hg
          apply absurd hg haside.1
        · rw [hhandle] at hg
          obtain ⟨f, v⟩ := c
          obtain rfl : f = .linkType := htype
          by_contra hv
          apply haside.2 hg ⟨v, hwrite, hv⟩
      · apply Function.update_of_ne hf

/-- Every set of a parameter with a value that is admitted, of a name the getter of its object has in
the case of `Interface_SetParamBoolValue`, is shown by the getter of its parameter if it succeeds and
by no other that is not set aside; if it fails it is shown by none. -/
theorem setGet_of_admits (x : SteadyAnswers) (ω : Answers) (k : ℕ) {s : Sys}
    (hfree : ∀ i, s.locks i = []) (hi : w.handle < pppTableLength) (hadmits : w.Admits)
    (hname : ∀ i paramName bValue, w = .interfaceBool i paramName bValue →
      paramName = "IPCPEnable".toList ∨ paramName = "IPv6CPEnable".toList)
    (hassign : w.assignment = some p) :
  SetGet b x ω k s (w.Aside (s.table w.handle)) w p
  := by
  obtain ⟨r, s', k', hexec, hends⟩ := makesSet_of_admits (b := b) (ω := ω) (k := k) hi (hfree _)
    hadmits hname
  refine ⟨r, s', k', hexec, ?_⟩
  cases hends with
  | @wrote c _ hwrite htable hlocks =>
      have hfree' : ∀ i, s'.locks i = [] := by
        rw [hlocks]
        apply hfree
      obtain ⟨hgetter, hvalue⟩ := assigned hadmits hassign hwrite
      have hhandle : (c.field.getter w.handle).handle = w.handle := by
        cases c.field <;> rfl
      constructor
      · intro _
        constructor
        · rw [hgetter, shown_eq, hhandle, htable, Function.update_self, ofEntry_getter,
            fields_setField, Function.update_self, hvalue]
          · rw [hhandle]
            apply hi
          · apply hfree'
        · intro g hg hne haside
          rw [shown_eq g hg (hfree' _), shown_eq g hg (hfree _), htable]
          by_cases hgi : g.handle = w.handle
          · rw [hgi, Function.update_self]
            apply ofEntry_congr (readsAlike_setField hgetter hwrite hgi hne haside)
          · rw [Function.update_of_ne hgi]
      · nofun
  | refused htable hlocks =>
      constructor
      · nofun
      · intro _ g hg
        have hfree' : s'.locks g.handle = [] := by
          rw [hlocks]
          apply hfree
        rw [shown_eq g hg hfree', shown_eq g hg (hfree _), htable]

end

/-! ### A link type that is set, and a name that is not known -/

/-- An outside with one session in `/proc/net/pppoe`. -/
def oneSession : Outside :=
  { workingOutside 1 none [] with
    file := fun _ => some ("Id       Address              Device\n".toList ++
      "00003412 00:00:5E:00:53:01     eth0\n".toList) }

/-- A state with an interface whose link type is PPPoA. -/
def pppoaState : Sys :=
  { freshState 1 with
    table := fun i => (pppoeEntry i).setField ⟨.linkType, .pppoa⟩ }

/-- The value a getter shows, if it shows one. -/
def shownValue (s : Sys) (g : Getter) : Option ParamValue :=
  (g.shown (plainBuild false) (oneSession.answers 0) s).toOption.join

/-- What a set answers, and the value a getter shows after it. -/
def valueAfter (w : Setter) (g : Getter) (s : Sys) : Option (Bool × Option ParamValue) :=
  ((machine .dataModel).exec oneSession.answers (w.code (plainBuild false)) 0 s).toOption.map fun r =>
    (r.1, shownValue r.2.1 g)

theorem setGet_of_admits_idle :
  SetGet (plainBuild false) (oneSession.answers 0) oneSession.answers 0 (freshState 1)
    ((Setter.interfaceUlong 0 "IdleDisconnectTime".toList 5).Aside ((freshState 1).table 0))
    (.interfaceUlong 0 "IdleDisconnectTime".toList 5)
    (.interfaceUlong 0 "IdleDisconnectTime".toList, .ulong 5)
  := by
  apply setGet_of_admits
  · intro i
    rfl
  · decide
  · rw [Setter.Admits]
    decide
  · nofun
  · rfl

/-- `SessionID` changes when the link type of an interface is set to PPPoE, and
`Interface_SetParamBoolValue` says that it set a parameter it does not have. -/
theorem not_setGet_linkType :
  ¬ SetGet (plainBuild false) (oneSession.answers 0) oneSession.answers 0 pppoaState
      (fun g => g = .interfaceUlong 0 "CurrentMRUSize".toList)
      (.interfaceUlong 0 "X_RDK_LinkType".toList 2)
      (.interfaceUlong 0 "X_RDK_LinkType".toList, .ulong 2) ∧
    ¬ SetGet (plainBuild false) (oneSession.answers 0) oneSession.answers 0 pppoaState
      (fun g => g = .interfaceUlong 0 "CurrentMRUSize".toList)
      (.interfaceBool 0 "Nothing".toList true) (.interfaceBool 0 "Nothing".toList, .bool true)
  := by
  constructor
  · rintro ⟨r, s', k', hexec, htrue, -⟩
    have hafter : valueAfter (.interfaceUlong 0 "X_RDK_LinkType".toList 2)
        (.pppoeUlong 0 "SessionID".toList) pppoaState = some (true, some (.ulong 0x1234)) := by
      decide +kernel
    have hbefore : shownValue pppoaState (.pppoeUlong 0 "SessionID".toList) = some (.ulong 0) := by
      decide +kernel
    rw [valueAfter, hexec] at hafter
    obtain ⟨rfl, hid⟩ := Prod.mk.inj (Option.some.inj hafter)
    have hsame := (htrue rfl).2 (.pppoeUlong 0 "SessionID".toList) (by decide) nofun nofun
    rw [shownValue] at hbefore
    rw [shownValue, hsame, hbefore] at hid
    cases hid
  · rintro ⟨r, s', k', hexec, htrue, -⟩
    have hafter : valueAfter (.interfaceBool 0 "Nothing".toList true)
        (.interfaceBool 0 "Nothing".toList) pppoaState = some (true, none) := by
      decide +kernel
    rw [valueAfter, hexec] at hafter
    obtain ⟨rfl, hnone⟩ := Prod.mk.inj (Option.some.inj hafter)
    rw [shownValue, (htrue rfl).1] at hnone
    cases hnone

end PppManager
