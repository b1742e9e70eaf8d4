import PppManager.Manager.Queue
import PppManager.Manager.Utils

/-!
# Starting and stopping clients

The functions of `pppmgr_dml_ppp_apis.c` that start, stop and reset the client of an interface, and
what they read from the bus.
-/

namespace PppManager

open CText

/-! ### Writes to an entry -/

namespace DmlPppIfFull

/-- The entry with `bEnabled` written. -/
def setBEnabled (v : Bool) (e : DmlPppIfFull) : DmlPppIfFull :=
  { e with cfg := { e.cfg with bEnabled := v } }

/-- The entry with `pppPid` written. -/
def setPppPid (pid : ℤ) (e : DmlPppIfFull) : DmlPppIfFull :=
  { e with info := { e.info with pppPid := pid } }

/-- The entry with `Username` written. -/
def setUsername (v : CStr) (e : DmlPppIfFull) : DmlPppIfFull :=
  { e with cfg := { e.cfg with username := v } }

/-- The entry with `Password` written. -/
def setPassword (v : CStr) (e : DmlPppIfFull) : DmlPppIfFull :=
  { e with cfg := { e.cfg with password := v } }

/-- The entry with the instances of the WAN manager written. -/
def setWanInstance (wanIfaceInstance wanVirtIfaceInstance : ℤ) (e : DmlPppIfFull) :
    DmlPppIfFull :=
  { e with
    cfg :=
      { e.cfg with
        wanInstanceNumber := wanIfaceInstance
        wanVirtIfaceInstance := wanVirtIfaceInstance } }

/-- The entry with its session data reset, as `PppMgr_StopPppClient` does. -/
def resetSession (e : DmlPppIfFull) : DmlPppIfFull :=
  { e with
    info :=
      { e.info with
        status := .down
        connectionStatus := .unconfigured
        localIPAddress := fun _ => 0
        remoteIPAddress := fun _ => 0
        dnsServers := fun _ _ => 0
        ip6LocalIfID := []
        ip6RemoteIfID := [] } }

end DmlPppIfFull

/-! ### Reading the bus -/

/-- `PANDM_COMPONENT_NAME`. -/
def pandmComponentName : CStr := "eRT.com.cisco.spvtg.ccsp.pam".toList

/-- `PANDM_DBUS_PATH`. -/
def pandmDbusPath : CStr := "/com/cisco/spvtg/ccsp/pam".toList

/-- `UP_TIME_PARAM_NAME`. -/
def upTimeParamName : CStr := "Device.DeviceInfo.UpTime".toList

/-- `DmlPppMgrGetParamValues` into a buffer of `size` bytes that holds `pReturnVal`: the content
of the buffer after it, where it succeeds. -/
def dmlPppMgrGetParamValues (pComponent pBus pParamName : CStr) (size : ℕ) (pReturnVal : CStr) :
    Code (Option CStr) := do
  match ← busGet pComponent pBus pParamName with
  | none => pure none
  | some none => pure (some pReturnVal)
  | some (some parameterValue) =>
    if parameterValue.length < size then pure (some parameterValue)
    else undefined .bufferOverflow

/-- `GetUptimeinSeconds`. -/
def getUptimeinSeconds : Code ULong := do
  match ← dmlPppMgrGetParamValues pandmComponentName pandmDbusPath upTimeParamName 256 [] with
  | none => pure 0
  | some acGetParamValue => pure (ULong.ofLong ((sscanfLu acGetParamValue).getD 0))

/-- `WAN_NOE_PARAM_NAME`. -/
def wanNoeParamName (b : Build) : CStr :=
  if b.wanManagerUnificationEnabled then
    "Device.X_RDK_WanManager.InterfaceNumberOfEntries".toList
  else
    "Device.X_RDK_WanManager.CPEInterfaceNumberOfEntries".toList

/-- `WAN_NO_OF_VIRTUAL_IFACE_PARAM_NAME`. -/
def wanNoOfVirtualIfaceParamName : CStr :=
  "Device.X_RDK_WanManager.Interface.%d.VirtualInterfaceNumberOfEntries".toList

/-- `PPP_WAN_VIRTUAL_IFACE_NAME`. -/
def pppWanVirtualIfaceName : CStr :=
  "Device.X_RDK_WanManager.Interface.%d.VirtualInterface.%d.PPP.Interface".toList

/-- `PPP_IFACE_PATH`. -/
def pppIfacePath : CStr := "Device.PPP.Interface.%d".toList

/-- What a loop of `PppMgr_GetWanIfaceInstance` ends with: a failed read, the pair it looks for, or
no pair and the content of its buffer. -/
inductive WanSearch where
  | readFailed
  | found (iIfaceCount iVcount : ℤ)
  | exhausted (acTmpReturnValue : CStr)

/-- The loop of `PppMgr_GetWanIfaceInstance` over the virtual interfaces of an interface, from
`iVcount` on with `k` of them left. -/
def wanVirtIfaceLoop (pppInterfacePath : CStr) (iIfaceCount : ℕ) :
    ℕ → ℕ → CStr → Code WanSearch
  | _, 0, acTmpReturnValue => pure (.exhausted acTmpReturnValue)
  | iVcount, k + 1, acTmpReturnValue => do
      let acTmpQueryParam :=
        snprintf 256 pppWanVirtualIfaceName [.int iIfaceCount, .int iVcount]
      match ← dmlPppMgrGetParamValues wanComponentName wanDbusPath acTmpQueryParam 256
          acTmpReturnValue with
      | none => pure .readFailed
      | some acTmpReturnValue =>
        if acTmpReturnValue = pppInterfacePath then pure (.found iIfaceCount iVcount)
        else wanVirtIfaceLoop pppInterfacePath iIfaceCount (iVcount + 1) k acTmpReturnValue

/-- The loop of `PppMgr_GetWanIfaceInstance` over the interfaces, from `iIfaceCount` on with `k` of
them left. -/
def wanIfaceLoop (pppInterfacePath : CStr) : ℕ → ℕ → CStr → Code WanSearch
  | _, 0, acTmpReturnValue => pure (.exhausted acTmpReturnValue)
  | iIfaceCount, k + 1, acTmpReturnValue => do
      let acTmpQueryParam := snprintf 256 wanNoOfVirtualIfaceParamName [.int iIfaceCount]
      match ← dmlPppMgrGetParamValues wanComponentName wanDbusPath acTmpQueryParam 256
          acTmpReturnValue with
      | none => pure .readFailed
      | some acTmpReturnValue =>
        match ← wanVirtIfaceLoop pppInterfacePath iIfaceCount 1 (atoi acTmpReturnValue).toNat
            acTmpReturnValue with
        | .exhausted acTmpReturnValue =>
          wanIfaceLoop pppInterfacePath (iIfaceCount + 1) k acTmpReturnValue
        | result => pure result

/-- `PppMgr_GetWanIfaceInstance` with outputs that hold `out`: its status and the outputs after
it. -/
def getWanIfaceInstance (b : Build) (instanceNumber : ℕ) (out : ℤ × ℤ) :
    Code (AnscStatus × ℤ × ℤ) := do
  if instanceNumber = 0 then
    pure (.failure, out)
  else
    match ← dmlPppMgrGetParamValues wanComponentName wanDbusPath (wanNoeParamName b) 256 [] with
    | none => pure (.failure, out)
    | some acTmpReturnValue =>
      let iTotalNoofEntries := atoi acTmpReturnValue
      if iTotalNoofEntries ≤ 0 then
        pure (.failure, out)
      else
        let pppInterfacePath := snprintf 128 pppIfacePath [.int (toInt instanceNumber)]
        match ← wanIfaceLoop pppInterfacePath 1 iTotalNoofEntries.toNat acTmpReturnValue with
        | .readFailed => pure (.failure, out)
        | .found wanIfaceInstance wanVirtIfaceInstance =>
          pure (.success, wanIfaceInstance, wanVirtIfaceInstance)
        | .exhausted _ => pure (.failure, -1, -1)

/-! ### Starting a client -/

/-- `PPPoE_LIB`. -/
def pppoeLib : CStr := "/usr/lib/pppd/2.4.9/rp-pppoe.so".toList

/-- `PPPoA_LIB`. -/
def pppoaLib : CStr := "/usr/lib/pppd/2.4.9/pppoatm.so".toList

/-- `PPPoE_VLAN_IF_NAME`. -/
def pppoeVlanIfName : CStr := "vlan101".toList

/-- The parameters `PppMgr_StartPppClient` asks for are there. -/
def DmlPppIfFull.hasPppParams (e : DmlPppIfFull) : Bool :=
  e.info.name ≠ [] && e.info.interfaceServiceName ≠ [] && e.cfg.username ≠ [] &&
    e.cfg.password ≠ [] && e.info.authenticationProtocol ≠ .unset

/-- `auth_proto`. -/
def authProto : DmlPppAuth → CStr
  | .pap => " require-pap refuse-chap refuse-mschap noauth".toList
  | .chap => " require-chap refuse-pap refuse-mschap noauth".toList
  | .msChap => " require-mschap refuse-pap refuse-chap noauth".toList
  | .unset => []

/-- The command that starts a `pppd` with a plugin on a service. -/
def pppdCommand (lib service : CStr) (e : DmlPppIfFull) : CStr :=
  snprintf 1024
    ("pppd nodetach plugin %s %s user %s password %s nodeflate %s +ipv6 usepeerdns " ++
      "ifname %s persist &").toList
    [.str lib, .str service, .str e.cfg.username, .str e.cfg.password,
      .str (authProto e.info.authenticationProtocol), .str e.cfg.ifAlias]

/-- The text of the command that configures `rp-pppoe` for PPPoA. -/
def pppoaConfigCommand (e : DmlPppIfFull) : CStr :=
  printf "pppoe_config.sh %s %s %s %s PPPoA %ld %ld".toList
    [.str e.cfg.username, .str e.cfg.password, .str e.info.interfaceServiceName, .str e.info.name,
      .int e.info.lcpEcho.toLong, .int e.info.lcpEchoRetry.toLong]

/-- The text of the command that configures `rp-pppoe` for PPPoE. -/
def pppoeConfigCommand (vlanInterfaceName : CStr) (e : DmlPppIfFull) : CStr :=
  printf "pppoe_config.sh '%s' '%s' %s %s PPPoE %ld %ld %d ".toList
    [.str e.cfg.username, .str e.cfg.password, .str vlanInterfaceName, .str e.info.name,
      .int e.info.lcpEcho.toLong, .int e.info.lcpEchoRetry.toLong, .int e.cfg.maxMRUSize.toNat]

/-- The text of the command that terminates the previous session. -/
def padtCommand (vlanInterfaceName pppMacAddr : CStr) (e : DmlPppIfFull) : CStr :=
  printf "pppoe -I %s -e %ld:%s -k".toList
    [.str vlanInterfaceName, .int e.info.sessionID.toLong, .str pppMacAddr]

/-- The command that starts `rp-pppoe`. -/
def pppoeStart : CStr := "/usr/sbin/pppoe-start".toList

/-- `system` on a buffer of 1024 bytes, after the check that it is not empty and that the text it
was written from is no longer than the buffer. -/
def systemIfFits (text : CStr) : Code Unit :=
  if text ≠ [] ∧ text.length ≤ 1024 then system (text.take 1023) else pure ()

/-- The part of `PppMgr_StartPppClient` that terminates the previous session. -/
def sendPadt (vlanInterfaceName : CStr) (pEntry : DmlPppIfFull) : Code Unit := do
  match ← readFile "/nvram/last_ppp_session".toList with
  | none => pure ()
  | some text =>
    let pppMacAddr := (sscanfS text).getD []
    if pppMacAddr.length < 256 then systemIfFits (padtCommand vlanInterfaceName pppMacAddr pEntry)
    else undefined .bufferOverflow

/-- The part of `PppMgr_StartPppClient` that configures the client as the link type says: the
command that starts it, or nothing where a read fails. -/
def configureClient (b : Build) (pEntry : DmlPppIfFull) : Code (Option CStr) := do
  match pEntry.cfg.linkType with
  | .pppoa =>
    if b.usePppDaemon then
      pure (some (pppdCommand pppoaLib pEntry.info.interfaceServiceName pEntry))
    else
      systemIfFits (pppoaConfigCommand pEntry)
      pure (some pppoeStart)
  | .pppoe =>
    if b.usePppDaemon then
      pure (some (pppdCommand pppoeLib pppoeVlanIfName pEntry))
    else
      let acTmpQueryParam :=
        snprintf 256 "%s.%s".toList [.str pEntry.cfg.lowerLayers, .str "Name".toList]
      match ← dmlPppMgrGetParamValues wanComponentName wanDbusPath acTmpQueryParam 32 [] with
      | none => pure none
      | some vlanInterfaceName =>
        systemIfFits (pppoeConfigCommand vlanInterfaceName pEntry)
        sendPadt vlanInterfaceName pEntry
        pure (some pppoeStart)
  | _ => pure (some [])

/-- `platform_hal_GetPppUserName` and `platform_hal_GetPppPassword` into the entry `i`. -/
def getCredentialsFromHal (i : ℕ) : Code Unit := do
  match ← halGetPppUserName with
  | none => pure ()
  | some v => store i (·.setUsername (v.take 64))
  match ← halGetPppPassword with
  | none => pure ()
  | some v => store i (·.setPassword (v.take 64))

/-- The part of `PppMgr_StartPppClient` after the check that no client is running, on the entry
`i` with its mutex held. -/
def launchPppClient (b : Build) (i : ℕ) (wanIfaceInstance wanVirtIfaceInstance : ℤ) :
    Code AnscStatus := do
  store i (·.setPppPid 0)
  if b.pppUsernamePasswordFromPsm then pure () else getCredentialsFromHal i
  let pEntry ← load i
  if pEntry.hasPppParams then
    match ← configureClient b pEntry with
    | none =>
      getIfaceDataRelease i
      pure .failure
    | some command =>
      system command
      let pid ← getPppPid none
      store i (·.setPppPid pid)
      store i (·.setWanInstance wanIfaceInstance wanVirtIfaceInstance)
      getIfaceDataRelease i
      pure .success
  else
    getIfaceDataRelease i
    pure .failure

/-- `PppMgr_StartPppClient`. -/
def startPppClient (b : Build) (instanceNumber : ℕ) : Code AnscStatus := do
  let (_, wanIfaceInstance, wanVirtIfaceInstance) ←
    getWanIfaceInstance b instanceNumber (-1, -1)
  if wanIfaceInstance = -1 ∨ wanVirtIfaceInstance = -1 then
    pure .failure
  else
    match ← getIfaceDataLocked instanceNumber with
    | none => undefined .nullDereference
    | some i =>
      let pEntry ← load i
      match ← checkPidExist pEntry.info.pppPid with
      | .success =>
        getIfaceDataRelease i
        pure .success
      | .failure => launchPppClient b i wanIfaceInstance wanVirtIfaceInstance

/-! ### Stopping a client -/

/-- `PppMgr_stopPppProcess`. -/
def stopPppProcess (pid : ℤ) : Code AnscStatus := do
  kill pid
  pure .success

/-- The command that stops `rp-pppoe`. -/
def pppoeStop : CStr := "/usr/sbin/pppoe-stop".toList

/-- `PppMgr_stopPppoe`. -/
def stopPppoe : Code AnscStatus := do
  system pppoeStop
  pure .success

/-- The part of `PppMgr_StopPppClient` that stops the client of the entry `i`. -/
def stopClient (b : Build) (i : ℕ) : Code Unit := do
  if b.usePppDaemon then
    let pEntry ← load i
    let _ ← stopPppProcess pEntry.info.pppPid
    store i (·.setPppPid 0)
  else
    let _ ← stopPppoe

/-- `PppMgr_StopPppClient`. -/
def stopPppClient (b : Build) (instanceNumber : ℕ) : Code AnscStatus := do
  match ← getIfaceDataLocked instanceNumber with
  | none => pure .failure
  | some i =>
    store i (·.setBEnabled false)
    stopClient b i
    store i (·.resetSession)
    getIfaceDataRelease i
    let _ ← setLinkStatusDown b (toInt instanceNumber)
    let _ ← setIPCPStatusDown b (toInt instanceNumber)
    let _ ← setIPv6CPStatusDown b (toInt instanceNumber)
    pure .success

/-! ### Requests -/

/-- `PppMgr_SendPppdStartEventToQ`. -/
def sendPppdStartEventToQ (instanceNumber : ℕ) : Code AnscStatus := do
  match ← getIfaceDataLocked instanceNumber with
  | none => pure .failure
  | some i =>
    let pEntry ← load i
    match ← sendDataToQ (execEvent (toInt pEntry.cfg.instanceNumber)) with
    | .failure =>
      getIfaceDataRelease i
      pure .failure
    | .success =>
      store i (·.setBEnabled true)
      getIfaceDataRelease i
      pure .success

/-- `PppMgr_EnableIf`. -/
def enableIf (b : Build) (instanceNumber : ℕ) (enable : Bool) : Code Bool := do
  if enable then
    match ← sendPppdStartEventToQ instanceNumber with
    | .failure => pure false
    | .success => pure true
  else
    match ← stopPppClient b instanceNumber with
    | .failure => pure false
    | .success => pure true

/-- `PppDmlIfReset`. -/
def pppDmlIfReset (b : Build) (instanceNumber : ℕ) : Code Bool := do
  match ← stopPppClient b instanceNumber with
  | .failure => pure false
  | .success =>
    match ← sendPppdStartEventToQ instanceNumber with
    | .failure => pure false
    | .success => pure true

end PppManager
