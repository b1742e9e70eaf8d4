import PppManager.Manager.Ipc

/-!
# The data model

The functions of `pppmgr_dml.c` that read, write, commit and roll back the parameters of an
interface.  A handle is the index of its entry.  A getter gives the value it writes for the caller
where it succeeds, and a setter whether it succeeds.
-/

namespace PppManager

open CText

/-! ### The numbers of enumerations -/

/-- The number of a `PPP_DML_LINK_TYPE`. -/
def PppDmlLinkType.toULong : PppDmlLinkType → ULong
  | .unset => 0
  | .pppoa => 1
  | .pppoe => 2
  | .other v => v.zeroExtend 64

/-- The `PPP_DML_LINK_TYPE` with a number of 32 bits. -/
def PppDmlLinkType.ofWord (v : BitVec 32) : PppDmlLinkType :=
  if v = 0 then .unset else if v = 1 then .pppoa else if v = 2 then .pppoe else .other v

/-- The `PPP_DML_LINK_TYPE` that a number is cast to, which keeps its lower 32 bits. -/
def PppDmlLinkType.ofULong (v : ULong) : PppDmlLinkType :=
  ofWord (v.setWidth 32)

/-- The number of a `PPP_DML_CONN_TRIGGER`. -/
def PppDmlConnTrigger.toULong : PppDmlConnTrigger → ULong
  | .unset => 0
  | .onDemand => 1
  | .alwaysOn => 2
  | .manual => 3
  | .other v => v.zeroExtend 64

/-- The `PPP_DML_CONN_TRIGGER` with a number of 32 bits. -/
def PppDmlConnTrigger.ofWord (v : BitVec 32) : PppDmlConnTrigger :=
  if v = 0 then .unset else if v = 1 then .onDemand else if v = 2 then .alwaysOn
  else if v = 3 then .manual else .other v

/-- The `PPP_DML_CONN_TRIGGER` that a number is cast to. -/
def PppDmlConnTrigger.ofULong (v : ULong) : PppDmlConnTrigger :=
  ofWord (v.setWidth 32)

/-- The number of a `DML_IF_STATUS`. -/
def DmlIfStatus.toULong : DmlIfStatus → ULong
  | .unset => 0
  | .up => 1
  | .down => 2
  | .unknown => 3
  | .dormant => 4
  | .notPresent => 5
  | .lowerLayerDown => 6
  | .error => 7

/-- The number of a `DML_PPP_CONN_STATUS`. -/
def DmlPppConnStatus.toULong : DmlPppConnStatus → ULong
  | .unset => 0
  | .unconfigured => 1
  | .connecting => 2
  | .authenticating => 3
  | .connected => 4
  | .pendingDisconnect => 5
  | .disconnecting => 6
  | .disconnected => 7
  | .authenticationFailed => 8

/-- The number of a `DML_PPP_CONN_ERROR`. -/
def DmlPppConnError.toULong : DmlPppConnError → ULong
  | .unset => 0
  | .none => 1
  | .ispTimeOut => 2
  | .commandAborted => 3
  | .notEnabledForInternet => 4
  | .badPhoneNumber => 5
  | .userDisconnect => 6
  | .ispDisconnect => 7
  | .idleDisconnect => 8
  | .forcedDisconnect => 9
  | .serverOutOfResources => 10
  | .restrictedLogonHours => 11
  | .accountDisabled => 12
  | .accountExpired => 13
  | .passwordExpired => 14
  | .authenticationFailure => 15
  | .noDialtone => 16
  | .noCarrier => 17
  | .noAnswer => 18
  | .lineBusy => 19
  | .unsupportedBitsPerSecond => 20
  | .tooManyLineErrors => 21
  | .ipConfiguration => 22
  | .unknown => 23

/-- The number of a `DML_PPP_ENCRYPTION`. -/
def DmlPppEncryption.toULong : DmlPppEncryption → ULong
  | .unset => 0
  | .none => 1
  | .mppe => 2

/-- The number of a `DML_PPP_COMPRESSION`. -/
def DmlPppCompression.toULong : DmlPppCompression → ULong
  | .unset => 0
  | .none => 1
  | .vanJacobson => 2
  | .lzs => 3

/-- The number of a `DML_PPP_AUTH`. -/
def DmlPppAuth.toULong : DmlPppAuth → ULong
  | .unset => 0
  | .pap => 1
  | .chap => 2
  | .msChap => 3

/-! ### Interface -/

/-- The entry with the information `PPPDmlGetIfInfo` fills in. -/
def DmlPppIfFull.fillIfInfo (e : DmlPppIfFull) : DmlPppIfFull :=
  { e with
    info :=
      { e.info with
        encryptionProtocol := .none
        compressionProtocol := .none
        lcpEchoRetry := 3
        lcpEcho := 30 } }

/-- `PPPDmlGetIfInfo` on the entry `i`. -/
def pppDmlGetIfInfo (i : ℕ) : Code Unit := do
  store i DmlPppIfFull.fillIfInfo
  getSessionId i

/-- `Interface_GetEntryCount`. -/
def interfaceGetEntryCount : Code ULong :=
  dmlGetTotalNoOfPPPInterfaces

/-- `Interface_GetEntry`. -/
def interfaceGetEntry (nIndex : ℕ) : Code ℕ := do
  lock nIndex
  store nIndex (·.setInstanceNumber (nIndex + 1))
  unlock nIndex
  pure nIndex

/-- `Interface_GetParamBoolValue`. -/
def interfaceGetParamBoolValue (i : ℕ) (paramName : CStr) : Code (Option Bool) := do
  lock i
  let pEntry ← load i
  let value :=
    if paramName = "Enable".toList then some pEntry.cfg.bEnabled
    else if paramName = "IPCPEnable".toList then some pEntry.cfg.bIPCPEnabled
    else if paramName = "IPv6CPEnable".toList then some pEntry.cfg.bIPV6CPEnabled
    else if paramName = "Reset".toList then some false
    else none
  unlock i
  pure value

/-- The parameters of `Interface_GetParamUlongValue` that are read without filling in information
first. -/
def plainUlongParam (paramName : CStr) (e : DmlPppIfFull) : Option ULong :=
  if paramName = "X_T_ONLINE_DE_SRU".toList then some e.info.sru
  else if paramName = "X_T_ONLINE_DE_SRD".toList then some e.info.srd
  else if paramName = "AutoDisconnectTime".toList then some e.cfg.autoDisconnectTime
  else if paramName = "IdleDisconnectTime".toList then some e.cfg.idleDisconnectTime
  else if paramName = "WarnDisconnectDelay".toList then some e.cfg.warnDisconnectDelay
  else if paramName = "MaxMRUSize".toList then some (e.cfg.maxMRUSize.zeroExtend 64)
  else if paramName = "ConnectionTrigger".toList then some e.cfg.connectionTrigger.toULong
  else none

/-- The parameters of `Interface_GetParamUlongValue` that are read from the entry after
`PPPDmlGetIfInfo`. -/
def filledUlongParam (paramName : CStr) (e : DmlPppIfFull) : Option ULong :=
  if paramName = "Status".toList then some e.info.status.toULong
  else if paramName = "ConnectionStatus".toList then some e.info.connectionStatus.toULong
  else if paramName = "LastConnectionError".toList then some e.info.lastConnectionError.toULong
  else if paramName = "EncryptionProtocol".toList then some e.info.encryptionProtocol.toULong
  else if paramName = "CompressionProtocol".toList then some e.info.compressionProtocol.toULong
  else if paramName = "AuthenticationProtocol".toList then
    some e.info.authenticationProtocol.toULong
  else if paramName = "LCPEcho".toList then some e.info.lcpEcho
  else if paramName = "LCPEchoRetry".toList then some e.info.lcpEchoRetry
  else if paramName = "X_RDK_LinkType".toList then some e.cfg.linkType.toULong
  else none

/-- Which parameters are read after `PPPDmlGetIfInfo` does not depend on the entry. -/
theorem isSome_filledUlongParam (paramName : CStr) (e e' : DmlPppIfFull) :
  (filledUlongParam paramName e).isSome = (filledUlongParam paramName e').isSome
  := by
  -- each branch reads one field, and is `some` whatever the field holds
  simp only [filledUlongParam, apply_ite Option.isSome, Option.isSome_some]

/-- The entry with `CurrentMRUSize` copied from `MaxMRUSize`. -/
def DmlPppIfFull.copyMRUSize (e : DmlPppIfFull) : DmlPppIfFull :=
  { e with info := { e.info with currentMRUSize := e.cfg.maxMRUSize } }

/-- What `Interface_GetParamUlongValue` does while it holds the mutex of the entry `i`. -/
def readUlongParam (b : Build) (i : ℕ) (paramName : CStr) : Code (Option ULong) := do
  let pEntry ← load i
  if paramName = "LastChange".toList then
    pppDmlGetIfInfo i
    let pEntry ← load i
    let uptime ← getUptimeinSeconds
    pure (some (b.anscGetTimeIntervalInSeconds pEntry.info.lastChange uptime))
  else if paramName = "CurrentMRUSize".toList then
    pppDmlGetIfInfo i
    store i DmlPppIfFull.copyMRUSize
    let pEntry ← load i
    pure (some (pEntry.info.currentMRUSize.zeroExtend 64))
  else if (filledUlongParam paramName pEntry).isSome then
    pppDmlGetIfInfo i
    let pEntry ← load i
    pure (filledUlongParam paramName pEntry)
  else
    pure (plainUlongParam paramName pEntry)

/-- `Interface_GetParamUlongValue`. -/
def interfaceGetParamUlongValue (b : Build) (i : ℕ) (paramName : CStr) :
    Code (Option ULong) := do
  lock i
  let value ← readUlongParam b i paramName
  unlock i
  pure value

/-- What `Interface_GetParamStringValue` does while it holds the mutex of the entry `i`. -/
def readStringParam (i : ℕ) (paramName : CStr) : Code (Option CStr) := do
  let pEntry ← load i
  if paramName = "Alias".toList then pure (some pEntry.cfg.ifAlias)
  else if paramName = "Name".toList then
    pppDmlGetIfInfo i
    let pEntry ← load i
    pure (some pEntry.info.name)
  else if paramName = "LowerLayers".toList then pure (some pEntry.cfg.lowerLayers)
  else if paramName = "Username".toList then pure (some pEntry.cfg.username)
  else if paramName = "Password".toList then pure (some [])
  else pure none

/-- `Interface_GetParamStringValue`. -/
def interfaceGetParamStringValue (i : ℕ) (paramName : CStr) : Code (Option CStr) := do
  lock i
  let value ← readStringParam i paramName
  unlock i
  pure value

/-- What `Interface_SetParamBoolValue` does while it holds the mutex of the entry `i`. -/
def writeBoolParam (b : Build) (i : ℕ) (paramName : CStr) (bValue : Bool) : Code Bool := do
  if paramName = "Enable".toList then
    let pEntry ← load i
    enableIf b pEntry.cfg.instanceNumber bValue
  else if paramName = "IPCPEnable".toList then
    store i (fun e => { e with cfg := { e.cfg with bIPCPEnabled := bValue } })
    pure true
  else if paramName = "IPv6CPEnable".toList then
    store i (fun e => { e with cfg := { e.cfg with bIPV6CPEnabled := bValue } })
    pure true
  else if paramName = "Reset".toList then
    let pEntry ← load i
    if pEntry.cfg.bEnabled && bValue then pppDmlIfReset b pEntry.cfg.instanceNumber
    else pure false
  else
    pure true

/-- `Interface_SetParamBoolValue`. -/
def interfaceSetParamBoolValue (b : Build) (i : ℕ) (paramName : CStr) (bValue : Bool) :
    Code Bool := do
  lock i
  let retStatus ← writeBoolParam b i paramName bValue
  unlock i
  pure retStatus

/-- What `Interface_SetParamUlongValue` does while it holds the mutex of the entry `i`. -/
def writeUlongParam (i : ℕ) (paramName : CStr) (uValue : ULong) : Code Bool := do
  if paramName = "AutoDisconnectTime".toList then
    store i (fun e => { e with cfg := { e.cfg with autoDisconnectTime := uValue } })
    system (snprintf 128 "sleep %ld && pppoe-stop &".toList [.int uValue.toLong])
    pure true
  else if paramName = "IdleDisconnectTime".toList then
    store i (fun e => { e with cfg := { e.cfg with idleDisconnectTime := uValue } })
    pure true
  else if paramName = "WarnDisconnectDelay".toList then
    store i (fun e => { e with cfg := { e.cfg with warnDisconnectDelay := uValue } })
    pure true
  else if paramName = "MaxMRUSize".toList then
    store i (fun e => { e with cfg := { e.cfg with maxMRUSize := uValue.setWidth 16 } })
    pure true
  else if paramName = "ConnectionTrigger".toList then
    store i (fun e =>
      { e with cfg := { e.cfg with connectionTrigger := PppDmlConnTrigger.ofULong uValue } })
    pure true
  else if paramName = "X_RDK_LinkType".toList then
    store i (fun e => { e with cfg := { e.cfg with linkType := PppDmlLinkType.ofULong uValue } })
    pure true
  else
    pure false

/-- `Interface_SetParamUlongValue`. -/
def interfaceSetParamUlongValue (i : ℕ) (paramName : CStr) (uValue : ULong) : Code Bool := do
  lock i
  let retStatus ← writeUlongParam i paramName uValue
  unlock i
  pure retStatus

/-- A character of the bracket expression `[a-zA-Z0-9_#-.@]`. -/
def usernameChar (c : Char) : Bool :=
  (decide ('a' ≤ c) && decide (c ≤ 'z')) || (decide ('A' ≤ c) && decide (c ≤ 'Z')) ||
    (decide ('0' ≤ c) && decide (c ≤ '9')) || c = '_' ||
    (decide ('#' ≤ c) && decide (c ≤ '.')) || c = '@'

/-- `validateUsername`: the whole text matches `^[a-zA-Z0-9_#-.@]*$`. -/
def validateUsername (pString : CStr) : Bool :=
  pString.all usernameChar

/-- `AnscCopyString` to an array of `size` bytes of the entry `i`. -/
def anscCopyString (i size : ℕ) (set : CStr → DmlPppIfFull → DmlPppIfFull) (pString : CStr) :
    Code Unit :=
  if pString.length < size then store i (set pString) else undefined .bufferOverflow

/-- What `Interface_SetParamStringValue` does while it holds the mutex of the entry `i`. -/
def writeStringParam (i : ℕ) (paramName pString : CStr) : Code Bool := do
  if paramName = "Alias".toList then
    anscCopyString i 512 DmlPppIfFull.setAlias pString
    pure true
  else if paramName = "LowerLayers".toList then
    anscCopyString i 256 DmlPppIfFull.setLowerLayers pString
    pure true
  else if paramName = "Username".toList then
    if pString = [] then pure false
    else if validateUsername pString then
      anscCopyString i 65 DmlPppIfFull.setUsername pString
      pure true
    else
      pure false
  else if paramName = "Password".toList then
    if pString = [] then pure false
    else
      anscCopyString i 65 DmlPppIfFull.setPassword pString
      pure true
  else
    pure false

/-- `Interface_SetParamStringValue`. -/
def interfaceSetParamStringValue (i : ℕ) (paramName pString : CStr) : Code Bool := do
  lock i
  let retStatus ← writeStringParam i paramName pString
  unlock i
  pure retStatus

/-- The loop of `Interface_Validate` from the index `ulIndex` on, with `k` entries left. -/
def validateLoop (i : ℕ) (name : CStr) : ℕ → ℕ → Code Bool
  | _, 0 => pure true
  | ulIndex, k + 1 => do
      if ulIndex = i then
        validateLoop i name (ulIndex + 1) k
      else
        let other ← load ulIndex
        if other.info.name = name then pure false else validateLoop i name (ulIndex + 1) k

/-- `Interface_Validate`. -/
def interfaceValidate (i : ℕ) : Code Bool := do
  let ulEntryCount ← dmlGetTotalNoOfPPPInterfaces
  let pEntry ← load i
  validateLoop i pEntry.info.name 0 ulEntryCount.toNat

/-- The commit functions of the objects of an interface. -/
def commitEntry (b : Build) (i : ℕ) : Code Unit := do
  lock i
  let pEntry ← load i
  pppDmlSetIfCfg b pEntry.cfg
  unlock i

/-- `Interface_Commit`. -/
def interfaceCommit (b : Build) (i : ℕ) : Code Unit := commitEntry b i

/-- `PPPoE_Commit`. -/
def pppoeCommit (b : Build) (i : ℕ) : Code Unit := commitEntry b i

/-- `IPCP_Commit`. -/
def ipcpCommit (b : Build) (i : ℕ) : Code Unit := commitEntry b i

/-- The rollback functions of the objects of an interface. -/
def rollbackEntry (i : ℕ) : Code Unit := do
  lock i
  pppDmlGetIfCfg
  unlock i

/-- `Interface_Rollback`. -/
def interfaceRollback (i : ℕ) : Code Unit := rollbackEntry i

/-- `PPPoE_Rollback`. -/
def pppoeRollback (i : ℕ) : Code Unit := rollbackEntry i

/-- `IPCP_Rollback`. -/
def ipcpRollback (i : ℕ) : Code Unit := rollbackEntry i

/-! ### PPPoE -/

/-- `PPPoE_GetParamUlongValue`. -/
def pppoeGetParamUlongValue (i : ℕ) (paramName : CStr) : Code (Option ULong) := do
  lock i
  if paramName = "SessionID".toList then
    pppDmlGetIfInfo i
    let pEntry ← load i
    unlock i
    pure (some pEntry.info.sessionID)
  else
    unlock i
    pure none

/-- `PPPoE_GetParamStringValue`: what it writes for the caller; it returns 0 for every name. -/
def pppoeGetParamStringValue (i : ℕ) (paramName : CStr) : Code (Option CStr) := do
  lock i
  let pEntry ← load i
  let value :=
    if paramName = "ACName".toList then some pEntry.cfg.acName
    else if paramName = "ServiceName".toList then some pEntry.cfg.serviceName
    else none
  unlock i
  pure value

/-- What `PPPoE_SetParamStringValue` does while it holds the mutex of the entry `i`. -/
def writePppoeStringParam (i : ℕ) (paramName pString : CStr) : Code Bool := do
  if paramName = "ACName".toList then
    anscCopyString i 257 DmlPppIfFull.setACName pString
    pure true
  else if paramName = "ServiceName".toList then
    anscCopyString i 257 (fun v e => { e with cfg := { e.cfg with serviceName := v } }) pString
    pure true
  else
    pure false

/-- `PPPoE_SetParamStringValue`. -/
def pppoeSetParamStringValue (i : ℕ) (paramName pString : CStr) : Code Bool := do
  lock i
  let retStatus ← writePppoeStringParam i paramName pString
  unlock i
  pure retStatus

/-! ### IPCP and IPv6CP -/

/-- `IPCP_GetParamBoolValue`. -/
def ipcpGetParamBoolValue (i : ℕ) (paramName : CStr) : Code (Option Bool) := do
  lock i
  let pEntry ← load i
  let value :=
    if paramName = "PassthroughEnable".toList then some pEntry.cfg.passthroughEnable else none
  unlock i
  pure value

/-- The arguments that print an address. -/
def addressArgs (a : AnscIpv4Address) : List Arg :=
  [.int (a 0).toNat, .int (a 1).toNat, .int (a 2).toNat, .int (a 3).toNat]

/-- The parameters of `IPCP_GetParamStringValue`. -/
def ipcpStringParam (paramName : CStr) (e : DmlPppIfFull) : Option CStr :=
  if paramName = "LocalIPAddress".toList then
    some (printf "%u.%u.%u.%u".toList (addressArgs e.info.localIPAddress))
  else if paramName = "RemoteIPAddress".toList then
    some (printf "%u.%u.%u.%u".toList (addressArgs e.info.remoteIPAddress))
  else if paramName = "DNSServers".toList then
    if ∀ j, e.info.dnsServers 1 j = 0 then
      some (printf "%u.%u.%u.%u".toList (addressArgs (e.info.dnsServers 0)))
    else
      some (printf "%u.%u.%u.%u,%u.%u.%u.%u".toList
        (addressArgs (e.info.dnsServers 0) ++ addressArgs (e.info.dnsServers 1)))
  else if paramName = "PassthroughDHCPPool".toList then some e.cfg.passthroughDHCPPool
  else none

/-- `IPCP_GetParamStringValue`. -/
def ipcpGetParamStringValue (i : ℕ) (paramName : CStr) : Code (Option CStr) := do
  lock i
  pppDmlGetIfInfo i
  let pEntry ← load i
  unlock i
  pure (ipcpStringParam paramName pEntry)

/-- `IPCP_SetParamBoolValue`. -/
def ipcpSetParamBoolValue (i : ℕ) (paramName : CStr) (bValue : Bool) : Code Bool := do
  lock i
  if paramName = "PassthroughEnable".toList then
    store i (fun e => { e with cfg := { e.cfg with passthroughEnable := bValue } })
    unlock i
    pure true
  else
    unlock i
    pure false

/-- What `IPCP_SetParamStringValue` does while it holds the mutex of the entry `i`. -/
def writeIpcpStringParam (i : ℕ) (paramName pString : CStr) : Code Bool := do
  if paramName = "PassthroughDHCPPool".toList then
    anscCopyString i 512
      (fun v e => { e with cfg := { e.cfg with passthroughDHCPPool := v } }) pString
    pure true
  else
    pure false

/-- `IPCP_SetParamStringValue`. -/
def ipcpSetParamStringValue (i : ℕ) (paramName pString : CStr) : Code Bool := do
  lock i
  let retStatus ← writeIpcpStringParam i paramName pString
  unlock i
  pure retStatus

/-- `sprintf` with a format that comes from outside and no arguments. -/
def sprintfNoArgs (format : CStr) : Code CStr :=
  if printfDefined format [] then pure (printf format []) else undefined .badFormat

/-- What `IPv6CP_GetParamStringValue` does while it holds the mutex of the entry `i`. -/
def readIpv6cpStringParam (i : ℕ) (paramName : CStr) : Code (Option CStr) := do
  pppDmlGetIfInfo i
  let pEntry ← load i
  if paramName = "LocalInterfaceIdentifier".toList then
    let pValue ← sprintfNoArgs pEntry.info.ip6LocalIfID
    pure (some pValue)
  else if paramName = "RemoteInterfaceIdentifier".toList then
    let pValue ← sprintfNoArgs pEntry.info.ip6RemoteIfID
    pure (some pValue)
  else
    pure none

/-- `IPv6CP_GetParamStringValue`. -/
def ipv6cpGetParamStringValue (i : ℕ) (paramName : CStr) : Code (Option CStr) := do
  lock i
  let value ← readIpv6cpStringParam i paramName
  unlock i
  pure value

/-! ### Stats -/

/-- The counters of `DML_IF_STATS` a line of `/proc/net/dev` fills in. -/
structure DmlIfStats where
  bytesSent : ULong
  bytesReceived : ULong
  packetsSent : ULong
  packetsReceived : ULong
  errorsSent : ULong
  errorsReceived : ULong
  discardPacketsSent : ULong
  discardPacketsReceived : ULong

/-- Counters that are all zero. -/
def DmlIfStats.zero : DmlIfStats := ⟨0, 0, 0, 0, 0, 0, 0, 0⟩

/-- The numbers `sscanf` reads with a sequence of `%ld` and `%*d`, as far as they are there. -/
def scanNumbers : ℕ → CStr → List ULong
  | 0, _ => []
  | k + 1, s =>
      match scanInt s with
      | none => []
      | some (i, rest) => ULong.ofLong (clampLong i) :: scanNumbers k rest

/-- The counters of a line, after its colon, and whether all eight that are stored are there. -/
def statsOfLine (p : CStr) : DmlIfStats × Bool :=
  let ns := scanNumbers 12 p
  let at' := fun k => (ns[k]?).getD 0
  ({ bytesReceived := at' 0, packetsReceived := at' 1, errorsReceived := at' 2,
     discardPacketsReceived := at' 3, bytesSent := at' 8, packetsSent := at' 9,
     errorsSent := at' 10, discardPacketsSent := at' 11 }, ns.length = 12)

/-- The loop of `CosaUtilGetIfStats` over the lines after the two header lines: what the function
returns, and `pStats` after it. -/
def getIfStatsLoop (ifname : CStr) : List CStr → DmlIfStats → ℤ × DmlIfStats
  | [], pStats => (0, pStats)
  | buf :: lines, pStats =>
      match strstr ":".toList buf with
      | none => getIfStatsLoop ifname lines pStats
      | some p =>
          if (strstr ifname buf).isSome then
            match statsOfLine (p.drop 1) with
            | (stats, true) => (1, stats)
            | (stats, false) => getIfStatsLoop ifname lines stats
          else
            getIfStatsLoop ifname lines pStats

/-- `CosaUtilGetIfStats`: what it returns, and `pStats` after it. -/
def cosaUtilGetIfStats (ifname : CStr) (pStats : DmlIfStats) : Code (ℤ × DmlIfStats) := do
  match ← readFile "/proc/net/dev".toList with
  | none => pure (0, pStats)
  | some text => pure (getIfStatsLoop ifname ((fgets 1024 text).drop 2) pStats)

/-- `PppDmlGetIfStats`. -/
def pppDmlGetIfStats (i : ℕ) (pStats : DmlIfStats) : Code DmlIfStats := do
  let pEntry ← load i
  if pEntry.info.name.length < 10 then
    let (_, pStats) ← cosaUtilGetIfStats pEntry.info.name pStats
    pure pStats
  else
    undefined .bufferOverflow

/-- The parameters of `Stats_GetParamUlongValue`. -/
def statsUlongParam (paramName : CStr) (stats : DmlIfStats) : Option ULong :=
  if paramName = "BytesSent".toList then some stats.bytesSent
  else if paramName = "BytesReceived".toList then some stats.bytesReceived
  else if paramName = "PacketsSent".toList then some stats.packetsSent
  else if paramName = "PacketsReceived".toList then some stats.packetsReceived
  else if paramName = "ErrorsSent".toList then some stats.errorsSent
  else if paramName = "ErrorsReceived".toList then some stats.errorsReceived
  else if paramName = "UnicastPacketsSent".toList then some 0
  else if paramName = "UnicastPacketsReceived".toList then some 0
  else if paramName = "DiscardPacketsSent".toList then some stats.discardPacketsSent
  else if paramName = "DiscardPacketsReceived".toList then some stats.discardPacketsReceived
  else if paramName = "MulticastPacketsSent".toList then some 0
  else if paramName = "MulticastPacketsReceived".toList then some 0
  else if paramName = "BroadcastPacketsSent".toList then some 0
  else if paramName = "BroadcastPacketsReceived".toList then some 0
  else if paramName = "UnknownProtoPacketsReceived".toList then some 0
  else none

/-- `Stats_GetParamUlongValue`. -/
def statsGetParamUlongValue (i : ℕ) (paramName : CStr) : Code (Option ULong) := do
  let stats ← pppDmlGetIfStats i DmlIfStats.zero
  lock i
  unlock i
  pure (statsUlongParam paramName stats)

end PppManager
