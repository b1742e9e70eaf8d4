import PppManager.Manager.PppApis

/-!
# The PSM database

The functions of `pppmgr_dml_ppp_apis.c` that write the configuration of an interface to the
database and load an entry from it, and `BackEndManagerInitialize` of `pppmgr_data.c`, which loads
the table.
-/

namespace PppManager

open CText

/-! ### The records of an interface -/

/-- `PSM_PPP_IF_ALIAS`. -/
def psmPppIfAlias : CStr := "dmsb.pppmanager.if.%d.Alias".toList

/-- `PSM_PPP_IF_SERVICE_NAME`. -/
def psmPppIfServiceName : CStr := "dmsb.pppmanager.if.%d.ServiceName".toList

/-- `PSM_PPP_IF_NAME`. -/
def psmPppIfName : CStr := "dmsb.pppmanager.if.%d.Name".toList

/-- `PSM_PPP_AUTH_PROTOCOL`. -/
def psmPppAuthProtocol : CStr := "dmsb.pppmanager.if.%d.AuthenticationProtocol".toList

/-- `PSM_PPP_LAST_COONECTION_ERROR`. -/
def psmPppLastCoonectionError : CStr := "dmsb.pppmanager.if.%d.lastconnectionerror".toList

/-- `PSM_PPP_IDLETIME`. -/
def psmPppIdletime : CStr := "dmsb.pppmanager.if.%d.idletime".toList

/-- `PSM_PPP_MAXMRUSIZE`. -/
def psmPppMaxmrusize : CStr := "dmsb.pppmanager.if.%d.maxmrusize".toList

/-- `PSM_PPP_LINK_TYPE`. -/
def psmPppLinkType : CStr := "dmsb.pppmanager.if.%d.linktype".toList

/-- `PSM_PPP_LOWERLAYERS`. -/
def psmPppLowerlayers : CStr := "dmsb.pppmanager.if.%d.LowerLayer".toList

/-- `PSM_PPP_SESSIONID`. -/
def psmPppSessionid : CStr := "dmsb.pppmanager.if.%d.sessionid".toList

/-- `PSM_PPP_USERNAME`. -/
def psmPppUsername : CStr := "dmsb.pppmanager.if.%ld.username".toList

/-- `PSM_PPP_PASSWORD`. -/
def psmPppPassword : CStr := "dmsb.pppmanager.if.%ld.password".toList

/-- The name of the record `name` of an instance. -/
def recordName (name : CStr) (instanceNum : ℕ) : CStr :=
  snprintf 256 name [.int instanceNum]

/-! ### Writing -/

/-- `PppMgr_RdkBus_SetParamValuesToDB`. -/
def setParamValuesToDB (pParamName pParamVal : CStr) : Code Bool :=
  psmSet pParamName pParamVal

/-- `PppManager_SetParamFromPSM`. -/
def setParamFromPSM (b : Build) (pEntry : DmlPppIfCfg) : Code Unit := do
  let instancenum := pEntry.instanceNumber
  let _ ← setParamValuesToDB (recordName psmPppIdletime instancenum)
    (snprintf 256 "%ld".toList [.int pEntry.idleDisconnectTime.toLong])
  let _ ← setParamValuesToDB (recordName psmPppMaxmrusize instancenum)
    (snprintf 256 "%d".toList [.int pEntry.maxMRUSize.toNat])
  if b.pppUsernamePasswordFromPsm then
    let _ ← setParamValuesToDB (recordName psmPppUsername instancenum)
      (snprintf 256 "%s".toList [.str pEntry.username])
    let _ ← setParamValuesToDB (recordName psmPppPassword instancenum)
      (snprintf 256 "%s".toList [.str pEntry.password])
  else
    pure ()

/-- `PppDmlSetIfCfg`. -/
def pppDmlSetIfCfg (b : Build) (pCfg : DmlPppIfCfg) : Code Unit :=
  setParamFromPSM b pCfg

/-- `PppDmlGetIfCfg`. -/
def pppDmlGetIfCfg : Code Unit :=
  pure ()

/-! ### Loading -/

/-- Reads the record `name` of the instance `ulIndex` and writes the entry `i` as its value says. -/
def loadRecord (i ulIndex : ℕ) (name : CStr) (f : CStr → DmlPppIfFull → DmlPppIfFull) :
    Code Unit := do
  match ← psmGet (recordName name ulIndex) with
  | none => pure ()
  | some paramValue => store i (f paramValue)

/-- Reads the record `name` of the instance `ulIndex` and writes its first word, as `sscanf` with
`%s` does, to an array of `size` bytes of the entry `i`. -/
def loadWord (i ulIndex : ℕ) (name : CStr) (size : ℕ)
    (set : CStr → DmlPppIfFull → DmlPppIfFull) : Code Unit := do
  match ← psmGet (recordName name ulIndex) with
  | none => pure ()
  | some paramValue =>
    match sscanfS paramValue with
    | none => pure ()
    | some w => if w.length < size then store i (set w) else undefined .bufferOverflow

/-- Reads the record `name` of the instance `ulIndex` through the buffer `buff` of ten bytes, and
writes the number in it to the entry `i`: the content of the buffer after it. -/
def loadNumber (i ulIndex : ℕ) (name : CStr) (buff : Option CStr)
    (set : ℤ → DmlPppIfFull → DmlPppIfFull) : Code (Option CStr) := do
  match ← psmGet (recordName name ulIndex) with
  | none => pure buff
  | some paramValue =>
    match sscanfS paramValue, buff with
    | some w, _ =>
      if w.length < 10 then
        store i (set (atoi w))
        pure (some w)
      else
        undefined .bufferOverflow
    | none, some buff =>
      store i (set (atoi buff))
      pure (some buff)
    | none, none => undefined .uninitializedRead

namespace DmlPppIfFull

/-- The entry with `Alias` written. -/
def setAlias (v : CStr) (e : DmlPppIfFull) : DmlPppIfFull :=
  { e with cfg := { e.cfg with ifAlias := v } }

/-- The entry with `InterfaceServiceName` written. -/
def setInterfaceServiceName (v : CStr) (e : DmlPppIfFull) : DmlPppIfFull :=
  { e with info := { e.info with interfaceServiceName := v } }

/-- The entry with `Name` written. -/
def setName (v : CStr) (e : DmlPppIfFull) : DmlPppIfFull :=
  { e with info := { e.info with name := v } }

/-- The entry with `AuthenticationProtocol` written as the record says. -/
def loadAuthProtocol (v : CStr) (e : DmlPppIfFull) : DmlPppIfFull :=
  if v = "CHAP".toList then { e with info := { e.info with authenticationProtocol := .chap } }
  else e

/-- The entry with `LastConnectionError` written as the record says. -/
def loadLastConnectionError (v : CStr) (e : DmlPppIfFull) : DmlPppIfFull :=
  if v = "DML_PPP_CONN_ERROR_NONE".toList then
    { e with info := { e.info with lastConnectionError := .none } }
  else e

/-- The entry with `IdleDisconnectTime` written. -/
def setIdleDisconnectTime (v : ℤ) (e : DmlPppIfFull) : DmlPppIfFull :=
  { e with cfg := { e.cfg with idleDisconnectTime := ULong.ofLong v } }

/-- The entry with `MaxMRUSize` written. -/
def setMaxMRUSize (v : ℤ) (e : DmlPppIfFull) : DmlPppIfFull :=
  { e with cfg := { e.cfg with maxMRUSize := BitVec.ofInt 16 v } }

/-- The entry with `LinkType` written as the record says. -/
def loadLinkType (v : CStr) (e : DmlPppIfFull) : DmlPppIfFull :=
  if v = "PPPoA".toList then { e with cfg := { e.cfg with linkType := .pppoa } }
  else if v = "PPPoE".toList then { e with cfg := { e.cfg with linkType := .pppoe } }
  else e

/-- The entry with `LowerLayers` written. -/
def setLowerLayers (v : CStr) (e : DmlPppIfFull) : DmlPppIfFull :=
  { e with cfg := { e.cfg with lowerLayers := v } }

/-- The entry with `SessionID` written. -/
def setSessionID (v : ULong) (e : DmlPppIfFull) : DmlPppIfFull :=
  { e with info := { e.info with sessionID := v } }

/-- The entry with `SessionID` written as the record says. -/
def loadSessionID (v : CStr) (e : DmlPppIfFull) : DmlPppIfFull :=
  match sscanfLd v with
  | none => e
  | some id => e.setSessionID (ULong.ofLong id)

/-- The entry with `InstanceNumber` written. -/
def setInstanceNumber (n : ℕ) (e : DmlPppIfFull) : DmlPppIfFull :=
  { e with cfg := { e.cfg with instanceNumber := n } }

@[elab_as_elim]
theorem loadAuthProtocol_cases {K : DmlPppIfFull → Prop} (v : CStr) (e : DmlPppIfFull) (he : K e)
    (hset : ∀ a, K { e with info := { e.info with authenticationProtocol := a } }) :
  K (e.loadAuthProtocol v)
  := by
  rw [loadAuthProtocol]
  split_ifs
  · apply hset
  · apply he

@[elab_as_elim]
theorem loadLastConnectionError_cases {K : DmlPppIfFull → Prop} (v : CStr) (e : DmlPppIfFull)
    (he : K e) (hset : ∀ a, K { e with info := { e.info with lastConnectionError := a } }) :
  K (e.loadLastConnectionError v)
  := by
  rw [loadLastConnectionError]
  split_ifs
  · apply hset
  · apply he

@[elab_as_elim]
theorem loadLinkType_cases {K : DmlPppIfFull → Prop} (v : CStr) (e : DmlPppIfFull) (he : K e)
    (hset : ∀ a, K { e with cfg := { e.cfg with linkType := a } }) :
  K (e.loadLinkType v)
  := by
  rw [loadLinkType]
  split_ifs
  · apply hset
  · apply hset
  · apply he

@[elab_as_elim]
theorem loadSessionID_cases {K : DmlPppIfFull → Prop} (v : CStr) (e : DmlPppIfFull) (he : K e)
    (hset : ∀ id, K (e.setSessionID id)) :
  K (e.loadSessionID v)
  := by
  rw [loadSessionID]
  cases sscanfLd v with
  | none => apply he
  | some id => apply hset

end DmlPppIfFull

/-- The part of `PppDmlGetIntfValuesFromPSM` that loads the lower layers. -/
def loadLowerLayers (b : Build) (ulIndex i : ℕ) : Code Unit := do
  if b.dynamicConfigurePppLowerlayer then
    pure ()
  else
    loadRecord i ulIndex psmPppLowerlayers (fun v => DmlPppIfFull.setLowerLayers (strncpy 255 v))

/-- The part of `PppDmlGetIntfValuesFromPSM` that loads the credentials. -/
def loadCredentials (b : Build) (ulIndex i : ℕ) : Code Unit := do
  if b.pppUsernamePasswordFromPsm then
    loadRecord i ulIndex psmPppUsername (fun v => DmlPppIfFull.setUsername (strncpy 64 v))
    loadRecord i ulIndex psmPppPassword (fun v => DmlPppIfFull.setPassword (strncpy 64 v))
  else
    pure ()

/-- The part of `PppDmlGetIntfValuesFromPSM` before it loads the session id. -/
def loadParameters (b : Build) (ulIndex i : ℕ) : Code Unit := do
  loadWord i ulIndex psmPppIfAlias 512 DmlPppIfFull.setAlias
  loadWord i ulIndex psmPppIfServiceName 512 DmlPppIfFull.setInterfaceServiceName
  loadWord i ulIndex psmPppIfName 64 DmlPppIfFull.setName
  loadRecord i ulIndex psmPppAuthProtocol DmlPppIfFull.loadAuthProtocol
  loadRecord i ulIndex psmPppLastCoonectionError DmlPppIfFull.loadLastConnectionError
  let buff ← loadNumber i ulIndex psmPppIdletime none DmlPppIfFull.setIdleDisconnectTime
  let _ ← loadNumber i ulIndex psmPppMaxmrusize buff DmlPppIfFull.setMaxMRUSize
  loadRecord i ulIndex psmPppLinkType DmlPppIfFull.loadLinkType
  loadLowerLayers b ulIndex i
  loadCredentials b ulIndex i

/-- `PppDmlGetIntfValuesFromPSM` on the entry `i`. -/
def pppDmlGetIntfValuesFromPSM (b : Build) (ulIndex i : ℕ) : Code Unit := do
  loadParameters b ulIndex i
  loadRecord i ulIndex psmPppSessionid DmlPppIfFull.loadSessionID

/-- `PppDmlGetIfEntry`. -/
def pppDmlGetIfEntry (b : Build) (ulIndex : ℕ) : Code Unit :=
  pppDmlGetIntfValuesFromPSM b (ulIndex + 1) ulIndex

/-- The loop of `BackEndManagerInitialize` from the index `ulIndex` on, with `k` entries left. -/
def initializeLoop (b : Build) : ℕ → ℕ → ℕ → Code Unit
  | _, 0, _ => pure ()
  | ulIndex, k + 1, ulNextInsNum => do
      pppDmlGetIfEntry b ulIndex
      let pEntry ← load ulIndex
      if pEntry.cfg.instanceNumber = 0 then
        store ulIndex (·.setInstanceNumber ulNextInsNum)
        initializeLoop b (ulIndex + 1) k (ulNextInsNum + 1)
      else
        initializeLoop b (ulIndex + 1) k (pEntry.cfg.instanceNumber + 1)

/-- `BackEndManagerInitialize`. -/
def backEndManagerInitialize (b : Build) : Code Unit := do
  let ulEntryCount ← dmlGetTotalNoOfPPPInterfaces
  initializeLoop b 0 ulEntryCount.toNat 1

end PppManager
