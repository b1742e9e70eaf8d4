import PppManager.Effect.Fields
import PppManager.Manager.EntryPoints

/-!
# How the data model changes an entry

A getter leaves an entry as it is, or with the information `PPPDmlGetIfInfo` fills in, and a setter
writes one field of its configuration (`DataChange`).  What a function leaves is found on
`entryMachine`, whose state is the entry alone: the functions that the getters and setters consist of
change it in one of these ways, whatever they are told (`ChangesData`).
-/

namespace PppManager

open Effect Effect.Program CText

/-! ### The fields of a configuration -/

/-- The fields of `DML_PPP_IF_CFG` that setters write. -/
inductive CfgField where
  | ifAlias
  | bIPCPEnabled
  | bIPV6CPEnabled
  | linkType
  | lowerLayers
  | autoDisconnectTime
  | idleDisconnectTime
  | warnDisconnectDelay
  | username
  | password
  | maxMRUSize
  | connectionTrigger
  | acName
  | serviceName
  | passthroughEnable
  | passthroughDHCPPool
  deriving DecidableEq

/-- The values of a field. -/
@[reducible] def CfgField.Value : CfgField → Type
  | .bIPCPEnabled => Bool
  | .bIPV6CPEnabled => Bool
  | .linkType => PppDmlLinkType
  | .autoDisconnectTime => ULong
  | .idleDisconnectTime => ULong
  | .warnDisconnectDelay => ULong
  | .maxMRUSize => BitVec 16
  | .connectionTrigger => PppDmlConnTrigger
  | .passthroughEnable => Bool
  | _ => CStr

namespace DmlPppIfCfg

/-- The fields that setters write. -/
def fields (cfg : DmlPppIfCfg) : (f : CfgField) → f.Value
  | .ifAlias => cfg.ifAlias
  | .bIPCPEnabled => cfg.bIPCPEnabled
  | .bIPV6CPEnabled => cfg.bIPV6CPEnabled
  | .linkType => cfg.linkType
  | .lowerLayers => cfg.lowerLayers
  | .autoDisconnectTime => cfg.autoDisconnectTime
  | .idleDisconnectTime => cfg.idleDisconnectTime
  | .warnDisconnectDelay => cfg.warnDisconnectDelay
  | .username => cfg.username
  | .password => cfg.password
  | .maxMRUSize => cfg.maxMRUSize
  | .connectionTrigger => cfg.connectionTrigger
  | .acName => cfg.acName
  | .serviceName => cfg.serviceName
  | .passthroughEnable => cfg.passthroughEnable
  | .passthroughDHCPPool => cfg.passthroughDHCPPool

/-- The configuration with one of these fields written. -/
def setField (cfg : DmlPppIfCfg) : (f : CfgField) → f.Value → DmlPppIfCfg
  | .ifAlias, v => { cfg with ifAlias := v }
  | .bIPCPEnabled, v => { cfg with bIPCPEnabled := v }
  | .bIPV6CPEnabled, v => { cfg with bIPV6CPEnabled := v }
  | .linkType, v => { cfg with linkType := v }
  | .lowerLayers, v => { cfg with lowerLayers := v }
  | .autoDisconnectTime, v => { cfg with autoDisconnectTime := v }
  | .idleDisconnectTime, v => { cfg with idleDisconnectTime := v }
  | .warnDisconnectDelay, v => { cfg with warnDisconnectDelay := v }
  | .username, v => { cfg with username := v }
  | .password, v => { cfg with password := v }
  | .maxMRUSize, v => { cfg with maxMRUSize := v }
  | .connectionTrigger, v => { cfg with connectionTrigger := v }
  | .acName, v => { cfg with acName := v }
  | .serviceName, v => { cfg with serviceName := v }
  | .passthroughEnable, v => { cfg with passthroughEnable := v }
  | .passthroughDHCPPool, v => { cfg with passthroughDHCPPool := v }

end DmlPppIfCfg

/-! ### What a set writes -/

/-- A write to a field of a configuration. -/
abbrev CfgWrite := Write CfgField.Value

/-- What `Interface_SetParamBoolValue` writes. -/
def boolWrite (paramName : CStr) (bValue : Bool) : Option CfgWrite :=
  if paramName = "IPCPEnable".toList then some ⟨.bIPCPEnabled, bValue⟩
  else if paramName = "IPv6CPEnable".toList then some ⟨.bIPV6CPEnabled, bValue⟩
  else none

/-- What `Interface_SetParamUlongValue` writes. -/
def ulongWrite (paramName : CStr) (uValue : ULong) : Option CfgWrite :=
  if paramName = "AutoDisconnectTime".toList then some ⟨.autoDisconnectTime, uValue⟩
  else if paramName = "IdleDisconnectTime".toList then some ⟨.idleDisconnectTime, uValue⟩
  else if paramName = "WarnDisconnectDelay".toList then some ⟨.warnDisconnectDelay, uValue⟩
  else if paramName = "MaxMRUSize".toList then some ⟨.maxMRUSize, uValue.setWidth 16⟩
  else if paramName = "ConnectionTrigger".toList then
    some ⟨.connectionTrigger, PppDmlConnTrigger.ofULong uValue⟩
  else if paramName = "X_RDK_LinkType".toList then some ⟨.linkType, PppDmlLinkType.ofULong uValue⟩
  else none

/-- What `Interface_SetParamStringValue` writes. -/
def stringWrite (paramName pString : CStr) : Option CfgWrite :=
  if paramName = "Alias".toList then some ⟨.ifAlias, pString⟩
  else if paramName = "LowerLayers".toList then some ⟨.lowerLayers, pString⟩
  else if paramName = "Username".toList then some ⟨.username, pString⟩
  else if paramName = "Password".toList then some ⟨.password, pString⟩
  else none

/-- What `PPPoE_SetParamStringValue` writes. -/
def pppoeStringWrite (paramName pString : CStr) : Option CfgWrite :=
  if paramName = "ACName".toList then some ⟨.acName, pString⟩
  else if paramName = "ServiceName".toList then some ⟨.serviceName, pString⟩
  else none

/-- What `IPCP_SetParamBoolValue` writes. -/
def ipcpBoolWrite (paramName : CStr) (bValue : Bool) : Option CfgWrite :=
  if paramName = "PassthroughEnable".toList then some ⟨.passthroughEnable, bValue⟩ else none

/-- What `IPCP_SetParamStringValue` writes. -/
def ipcpStringWrite (paramName pString : CStr) : Option CfgWrite :=
  if paramName = "PassthroughDHCPPool".toList then some ⟨.passthroughDHCPPool, pString⟩ else none

/-- What a set that succeeds writes. -/
def Setter.write : Setter → Option CfgWrite
  | .interfaceBool _ paramName bValue => boolWrite paramName bValue
  | .interfaceUlong _ paramName uValue => ulongWrite paramName uValue
  | .interfaceString _ paramName pString => stringWrite paramName pString
  | .pppoeString _ paramName pString => pppoeStringWrite paramName pString
  | .ipcpBool _ paramName bValue => ipcpBoolWrite paramName bValue
  | .ipcpString _ paramName pString => ipcpStringWrite paramName pString
  | _ => none

/-- The setters make the write: its text, if it is one, fits in the array of its field, and a name or
a password of a user is one they accept. -/
def CfgWrite.IsMade : CfgWrite → Prop
  | ⟨.ifAlias, v⟩ => List.length v < 512
  | ⟨.lowerLayers, v⟩ => List.length v < 256
  | ⟨.username, v⟩ => List.length v < 65 ∧ v ≠ [] ∧ validateUsername v = true
  | ⟨.password, v⟩ => List.length v < 65 ∧ v ≠ []
  | ⟨.acName, v⟩ => List.length v < 257
  | ⟨.serviceName, v⟩ => List.length v < 257
  | ⟨.passthroughDHCPPool, v⟩ => List.length v < 512
  | _ => True

/-! ### The changes -/

/-- The entry `e` after `PPPDmlGetIfInfo`, where `get_session_id` finds `id`. -/
def DmlPppIfFull.filled (id : Option ULong) (e : DmlPppIfFull) : DmlPppIfFull :=
  match id with
  | none => e.fillIfInfo
  | some id => e.fillIfInfo.setSessionID id

/-- The entry with a field of its configuration written. -/
def DmlPppIfFull.setField (e : DmlPppIfFull) (w : CfgWrite) : DmlPppIfFull :=
  { e with cfg := e.cfg.setField w.field w.value }

/-- The ways a getter or a setter leaves an entry, other than the setters of `Enable` and `Reset`. -/
inductive DataChange (e : DmlPppIfFull) : DmlPppIfFull → Prop
  | kept : DataChange e e
  | filled (id : Option ULong) : DataChange e (e.filled id)
  | filledMRUSize (id : Option ULong) : DataChange e (e.filled id).copyMRUSize
  | written (w : Setter) (x : CfgWrite) (hw : w.write = some x) (hx : x.IsMade) :
      DataChange e (e.setField x)

/-- The fields of an entry that the rest of the manager goes by. -/
def DmlPppIfFull.vital (e : DmlPppIfFull) :
    (ℕ × Bool) × (ℤ × ℤ) × (DmlIfStatus × DmlPppConnStatus × DmlPppConnError) × ℤ × ULong ×
      DmlPppAuth :=
  ((e.cfg.instanceNumber, e.cfg.bEnabled), e.wanPair,
    (e.info.status, e.info.connectionStatus, e.info.lastConnectionError), e.info.pppPid,
    e.info.lastChange, e.info.authenticationProtocol)

/-- The data model keeps what the rest of the manager goes by. -/
theorem DataChange.vital {e e' : DmlPppIfFull} (h : DataChange e e') :
  e'.vital = e.vital
  := by
  cases h with
  | kept => rfl
  | filled id | filledMRUSize id => cases id <;> rfl
  | written w x =>
      obtain ⟨f, v⟩ := x
      cases f <;> rfl

/-- The data model leaves a terminator in every array. -/
theorem DataChange.arraysFit {e e' : DmlPppIfFull} (h : DataChange e e') (he : e.ArraysFit) :
  e'.ArraysFit
  := by
  cases h with
  | kept => apply he
  | filled id | filledMRUSize id => cases id <;> apply he
  | written w x hw hx =>
      obtain ⟨f, v⟩ := x
      cases f with
      | ifAlias => apply he.set 0 hx rfl
      | lowerLayers => apply he.set 1 hx rfl
      | username => apply he.set 2 hx.1 rfl
      | password => apply he.set 3 hx.1 rfl
      | acName => apply he.set 4 hx rfl
      | serviceName => apply he.set 5 hx rfl
      | passthroughDHCPPool => apply he.set 6 hx rfl
      | _ => apply he

/-! ### Work on an entry -/

/-- The meaning of the operations for work on one entry: what an operation gives is anything, unless
it reads the entry. -/
def entryStep : (o : Op) → o.Res → DmlPppIfFull → Except Unit (o.Res × DmlPppIfFull)
  | .load _, _, e => .ok (e, e)
  | .store _ f, _, e => .ok ((), f e)
  | _, r, e => .ok (r, e)

/-- The machine of the work on one entry. -/
@[reducible] def entryMachine : Machine sig DmlPppIfFull Unit where
  Ans := Op.Res
  step := entryStep

/-- The contract of the work on one entry, which asks for nothing. -/
def onEntry : Contract entryMachine where
  Allows := fun _ _ => True
  Safe := fun _ _ => True
  Admits := fun _ => True

/-- Work that ends with a change of the data model, whatever the entry and whatever it is told. -/
def ChangesData {α : Type} (p : Code α) : Prop :=
  ∀ e, onEntry.wp p (fun _ e' => DataChange e e') e

/-- The operation writes to no entry. -/
def Op.StoresNothing : Op → Prop
  | .store _ _ => False
  | _ => True

section

variable {i : ℕ} {e : DmlPppIfFull} {b : Build} {paramName : CStr} {α β : Type}

theorem onEntry_load {Q : DmlPppIfFull → DmlPppIfFull → Prop} (hQ : Q e e) :
  onEntry.wp (load i) Q e
  := ⟨trivial, fun _ _ => hQ⟩

theorem onEntry_store {f : DmlPppIfFull → DmlPppIfFull} {Q : Unit → DmlPppIfFull → Prop}
    (hQ : Q () (f e)) :
  onEntry.wp (store i f) Q e
  := ⟨trivial, fun _ _ => hQ⟩

theorem Op.StoresNothing.entryStep {o : Op} (ho : o.StoresNothing) (r : o.Res) :
  ∃ r', PppManager.entryStep o r e = .ok (r', e)
  := by
  cases o with
  | store => apply ho.elim
  | _ => exact ⟨_, rfl⟩

/-- A program that writes to no entry. -/
theorem onEntry_reads {p : Code α} (hp : Only Op.StoresNothing p) {Q : α → DmlPppIfFull → Prop}
    (hQ : ∀ a, Q a e) :
  onEntry.wp p Q e
  := by
  have h : onEntry.wp p (fun _ e' => e' = e) e := by
    apply Contract.wp_of_only (P := Op.StoresNothing) (I := fun e' => e' = e) _ _ hp rfl
    · intro _ _ _ _
      trivial
    · rintro o r e' ho - rfl
      obtain ⟨r', hstep⟩ := ho.entryStep (e := e') r
      rw [show entryMachine.step o r e' = .ok (r', e') from hstep]
  apply Contract.wp_mono _ h
  rintro a e' rfl
  apply hQ

theorem ChangesData.map {p : Code α} (hp : ChangesData p) (f : α → β) :
  ChangesData (f <$> p)
  := by
  intro e
  rw [Contract.wp_map]
  apply hp e

/-- Work that writes to no entry. -/
theorem changesData_reads {p : Code α} (hp : Only Op.StoresNothing p) :
  ChangesData p
  := fun _ => onEntry_reads hp (fun _ => .kept)

theorem changesData_pure (a : α) :
  ChangesData (pure a)
  := fun _ => .kept

/-! ### Getters -/

theorem storesNothing_findSessionId :
  Only Op.StoresNothing (findSessionId i)
  := by
  apply only_findSessionId (P := Op.StoresNothing) _ trivial
  intro o ho
  cases o <;> trivial

theorem onEntry_pppDmlGetIfInfo {Q : Unit → DmlPppIfFull → Prop} (hQ : ∀ id, Q () (e.filled id)) :
  onEntry.wp (pppDmlGetIfInfo i) Q e
  := by
  rw [pppDmlGetIfInfo, Contract.wp_bind]
  apply onEntry_store
  rw [getSessionId, Contract.wp_bind]
  apply onEntry_reads storesNothing_findSessionId
  rintro (_ | id)
  · apply hQ none
  · apply onEntry_store
    apply hQ (some id)

/-- A getter that looks at the entry only. -/
theorem changesData_look (f : DmlPppIfFull → α) :
  ChangesData (do let e ← load i; pure (f e))
  := by
  intro e
  rw [Contract.wp_bind]
  apply onEntry_load
  apply DataChange.kept

/-- `PPPDmlGetIfInfo` before a read of the entry. -/
theorem changesData_filled (f : DmlPppIfFull → α) :
  ChangesData (do pppDmlGetIfInfo i; let e ← load i; pure (f e))
  := by
  intro e
  rw [Contract.wp_bind]
  apply onEntry_pppDmlGetIfInfo
  intro id
  rw [Contract.wp_bind]
  apply onEntry_load
  apply DataChange.filled id

theorem changesData_readUlongParam :
  ChangesData (readUlongParam b i paramName)
  := by
  intro e
  rw [readUlongParam, Contract.wp_bind]
  apply onEntry_load
  split_ifs
  · rw [Contract.wp_bind]
    apply onEntry_pppDmlGetIfInfo
    intro id
    rw [Contract.wp_bind]
    apply onEntry_load
    rw [Contract.wp_bind]
    apply onEntry_reads
    · apply only_getUptimeinSeconds (P := Op.StoresNothing) trivial trivial
    · intro uptime
      apply DataChange.filled id
  · rw [Contract.wp_bind]
    apply onEntry_pppDmlGetIfInfo
    intro id
    rw [Contract.wp_bind]
    apply onEntry_store
    rw [Contract.wp_bind]
    apply onEntry_load
    apply DataChange.filledMRUSize id
  · apply changesData_filled
  · apply DataChange.kept

theorem changesData_readStringParam :
  ChangesData (readStringParam i paramName)
  := by
  intro e
  rw [readStringParam, Contract.wp_bind]
  apply onEntry_load
  split_ifs
  · apply DataChange.kept
  · apply changesData_filled
  · apply DataChange.kept
  · apply DataChange.kept
  · apply DataChange.kept
  · apply DataChange.kept

theorem changesData_readIpv6cpStringParam :
  ChangesData (readIpv6cpStringParam i paramName)
  := by
  have hformat : ∀ format, Only Op.StoresNothing (sprintfNoArgs format) := by
    intro format
    apply only_ite
    · intro _
      apply only_pure
    · intro _
      apply reads_undefined trivial
  intro e
  rw [readIpv6cpStringParam, Contract.wp_bind]
  apply onEntry_pppDmlGetIfInfo
  intro id
  rw [Contract.wp_bind]
  apply onEntry_load
  split_ifs
  · rw [Contract.wp_bind]
    apply onEntry_reads (hformat _)
    intro pValue
    apply DataChange.filled id
  · rw [Contract.wp_bind]
    apply onEntry_reads (hformat _)
    intro pValue
    apply DataChange.filled id
  · apply DataChange.filled id

/-! ### Setters -/

/-- A write of a field in a setter. -/
theorem onEntry_write {f : DmlPppIfFull → DmlPppIfFull} {v : Bool} (h : DataChange e (f e)) :
  onEntry.wp (do store i f; pure v) (fun _ e' => DataChange e e') e
  := by
  rw [Contract.wp_bind]
  apply onEntry_store
  apply h

/-- A copy to an array of the entry in a setter. -/
theorem onEntry_copy {size : ℕ} {set : CStr → DmlPppIfFull → DmlPppIfFull} {pString : CStr}
    {v : Bool} (h : pString.length < size → DataChange e (set pString e)) :
  onEntry.wp (do anscCopyString i size set pString; pure v) (fun _ e' => DataChange e e') e
  := by
  rw [Contract.wp_bind, anscCopyString]
  split_ifs with hfits
  · apply onEntry_store
    apply h hfits
  · apply onEntry_reads
    · apply reads_undefined (P := Op.StoresNothing) trivial
    · intro _
      apply DataChange.kept

theorem changesData_writeUlongParam {uValue : ULong} :
  ChangesData (writeUlongParam i paramName uValue)
  := by
  intro e
  have hwritten : ∀ x, ulongWrite paramName uValue = some x → x.IsMade →
      DataChange e (e.setField x) :=
    .written (.interfaceUlong i paramName uValue)
  rw [ulongWrite] at hwritten
  rw [writeUlongParam]
  split_ifs at hwritten ⊢
  · rw [Contract.wp_bind]
    apply onEntry_store
    rw [Contract.wp_bind]
    apply onEntry_reads (reads_op (P := Op.StoresNothing) (o := .system _) trivial)
    intro _
    apply hwritten _ rfl trivial
  · apply onEntry_write
    apply hwritten _ rfl trivial
  · apply onEntry_write
    apply hwritten _ rfl trivial
  · apply onEntry_write
    apply hwritten _ rfl trivial
  · apply onEntry_write
    apply hwritten _ rfl trivial
  · apply onEntry_write
    apply hwritten _ rfl trivial
  · apply DataChange.kept

theorem changesData_writeStringParam {pString : CStr} :
  ChangesData (writeStringParam i paramName pString)
  := by
  intro e
  have hwritten : ∀ x, stringWrite paramName pString = some x → x.IsMade →
      DataChange e (e.setField x) :=
    .written (.interfaceString i paramName pString)
  rw [stringWrite] at hwritten
  rw [writeStringParam]
  split_ifs at hwritten ⊢ with halias hlayers husername hempty hvalid hpassword hempty
  · apply onEntry_copy
    apply hwritten _ rfl
  · apply onEntry_copy
    apply hwritten _ rfl
  · apply DataChange.kept
  · apply onEntry_copy
    intro hfits
    apply hwritten _ rfl ⟨hfits, hempty, hvalid⟩
  · apply DataChange.kept
  · apply DataChange.kept
  · apply onEntry_copy
    intro hfits
    apply hwritten _ rfl ⟨hfits, hempty⟩
  · apply DataChange.kept

theorem changesData_writePppoeStringParam {pString : CStr} :
  ChangesData (writePppoeStringParam i paramName pString)
  := by
  intro e
  have hwritten : ∀ x, pppoeStringWrite paramName pString = some x → x.IsMade →
      DataChange e (e.setField x) :=
    .written (.pppoeString i paramName pString)
  rw [pppoeStringWrite] at hwritten
  rw [writePppoeStringParam]
  split_ifs at hwritten ⊢
  · apply onEntry_copy
    apply hwritten _ rfl
  · apply onEntry_copy
    apply hwritten _ rfl
  · apply DataChange.kept

theorem changesData_writeIpcpStringParam {pString : CStr} :
  ChangesData (writeIpcpStringParam i paramName pString)
  := by
  intro e
  have hwritten : ∀ x, ipcpStringWrite paramName pString = some x → x.IsMade →
      DataChange e (e.setField x) :=
    .written (.ipcpString i paramName pString)
  rw [ipcpStringWrite] at hwritten
  rw [writeIpcpStringParam]
  split_ifs at hwritten ⊢
  · apply onEntry_copy
    apply hwritten _ rfl
  · apply DataChange.kept

/-- The setters of `IPCPEnable` and `IPv6CPEnable`. -/
theorem changesData_writeBoolParam {bValue : Bool} (henable : paramName ≠ "Enable".toList)
    (hreset : paramName ≠ "Reset".toList) :
  ChangesData (writeBoolParam b i paramName bValue)
  := by
  intro e
  have hwritten : ∀ x, boolWrite paramName bValue = some x → x.IsMade →
      DataChange e (e.setField x) :=
    .written (.interfaceBool i paramName bValue)
  rw [boolWrite] at hwritten
  rw [writeBoolParam, if_neg henable, if_neg hreset]
  split_ifs at hwritten ⊢
  · apply onEntry_write
    apply hwritten _ rfl trivial
  · apply onEntry_write
    apply hwritten _ rfl trivial
  · apply DataChange.kept

/-- What `IPCP_SetParamBoolValue` does while it holds the mutex. -/
theorem changesData_writeIpcpBoolParam {bValue : Bool} :
  ChangesData (if paramName = "PassthroughEnable".toList then do
      store i (fun e => { e with cfg := { e.cfg with passthroughEnable := bValue } })
      pure true
    else pure false)
  := by
  intro e
  have hwritten : ∀ x, ipcpBoolWrite paramName bValue = some x → x.IsMade →
      DataChange e (e.setField x) :=
    .written (.ipcpBool i paramName bValue)
  rw [ipcpBoolWrite] at hwritten
  split_ifs at hwritten ⊢
  · apply onEntry_write
    apply hwritten _ rfl trivial
  · apply DataChange.kept

end

end PppManager
