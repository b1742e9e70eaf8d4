import PppManager.Manager.Psm

/-!
# Messages and events

The functions of `pppmgr_ipc.c` that handle the state messages of the PPP clients and the events of
the queue, and one iteration of the loop of `PppMgr_EventHandlerThread`.
-/

namespace PppManager

open CText

/-! ### Parsing message data -/

/-- The bytes `PppMgr_DmlSetIp4Param` writes, token after token from the position `i` on: the four
bytes after it, and whether it succeeds. -/
def dmlSetIp4ParamFrom : List CStr → ℕ → AnscIpv4Address → AnscIpv4Address × AnscStatus
  | [], _, ipCharArr => (ipCharArr, .success)
  | s2 :: tokens, i, ipCharArr =>
      if i = 4 then (ipCharArr, .failure)
      else
        dmlSetIp4ParamFrom tokens (i + 1)
          (fun j => if j.val = i then BitVec.ofInt 8 (atoi s2) else ipCharArr j)

/-- `PppMgr_DmlSetIp4Param` on an address. -/
def dmlSetIp4Param (ipbuff : CStr) (ipCharArr : AnscIpv4Address) : AnscIpv4Address × AnscStatus :=
  dmlSetIp4ParamFrom (strtok '.' ipbuff) 0 ipCharArr

/-- The longest match of `([A-Z]+)=([0-9]+)` in front of a text: the match and what follows it. -/
def matchKeyNumber (s : CStr) : Option (CStr × CStr) :=
  let key := s.takeWhile Char.isUpper
  match s.dropWhile Char.isUpper with
  | '=' :: rest =>
    let number := rest.takeWhile Char.isDigit
    if key = [] ∨ number = [] then none
    else some (key ++ '=' :: number, rest.dropWhile Char.isDigit)
  | _ => none

/-- `regexec` with `([A-Z]+)=([0-9]+)`: the leftmost longest match and what follows it. -/
def regexecKeyNumber : CStr → Option (CStr × CStr)
  | [] => none
  | c :: s =>
      match matchKeyNumber (c :: s) with
      | some r => some r
      | none => regexecKeyNumber s

/-- An `int` written to the first four bytes of a `ULONG`. -/
def storeInt (old : ULong) (i : ℤ) : ULong :=
  ((old >>> 32) <<< 32) ||| (BitVec.ofInt 32 i).zeroExtend 64

/-- What `PppMgr_DmlSetVendorParams` does at a match. -/
def setVendorParam (found : CStr) (p : ULong × ULong) : ULong × ULong :=
  match strstr "SRU=".toList found with
  | some ret => (storeInt p.1 (atoi (ret.drop 4)), p.2)
  | none =>
    match strstr "SRD=".toList found with
    | some ret => (p.1, storeInt p.2 (atoi (ret.drop 4)))
    | none => p

/-- The loop of `PppMgr_DmlSetVendorParams` with `k` matches left. -/
def dmlSetVendorParamsLoop : ℕ → CStr → ULong × ULong → ULong × ULong
  | 0, _, p => p
  | k + 1, cursor, p =>
      match regexecKeyNumber cursor with
      | none => p
      | some (found, cursor) => dmlSetVendorParamsLoop k cursor (setVendorParam found p)

/-- `PppMgr_DmlSetVendorParams` on `SRU` and `SRD`. -/
def dmlSetVendorParams (invendormsg : CStr) (p : ULong × ULong) : ULong × ULong :=
  dmlSetVendorParamsLoop 2 invendormsg p

/-! ### Link states -/

namespace DmlPppIfFull

/-- The entry with `Status` and `ConnectionStatus` written. -/
def setStatus (status : DmlIfStatus) (conn : DmlPppConnStatus) (e : DmlPppIfFull) :
    DmlPppIfFull :=
  { e with info := { e.info with status := status, connectionStatus := conn } }

/-- The entry with `LastChange` written. -/
def setLastChange (v : ULong) (e : DmlPppIfFull) : DmlPppIfFull :=
  { e with info := { e.info with lastChange := v } }

/-- The entry with `LastConnectionError` written. -/
def setLastConnectionError (v : DmlPppConnError) (e : DmlPppIfFull) : DmlPppIfFull :=
  { e with info := { e.info with lastConnectionError := v } }

/-- The entry with `SRU` and `SRD` written. -/
def setSruSrd (p : ULong × ULong) (e : DmlPppIfFull) : DmlPppIfFull :=
  { e with info := { e.info with sru := p.1, srd := p.2 } }

/-- The entry with `ACName` written. -/
def setACName (v : CStr) (e : DmlPppIfFull) : DmlPppIfFull :=
  { e with cfg := { e.cfg with acName := v } }

/-- The entry with `AuthenticationProtocol` written. -/
def setAuthenticationProtocol (v : DmlPppAuth) (e : DmlPppIfFull) : DmlPppIfFull :=
  { e with info := { e.info with authenticationProtocol := v } }

end DmlPppIfFull

/-- `LastConnectionError` for the exit status of a client. -/
def exitError (exitStatus : ℤ) : DmlPppConnError :=
  if exitStatus = 5 then .userDisconnect
  else if exitStatus = 11 ∨ exitStatus = 19 then .authenticationFailure
  else if exitStatus = 16 then .ispTimeOut
  else .unknown

/-- `Status`, `ConnectionStatus` and `LastChange` of the entry `i` written. -/
def changeStatus (i : ℕ) (status : DmlIfStatus) (conn : DmlPppConnStatus) : Code Unit := do
  store i (·.setStatus status conn)
  let uptime ← getUptimeinSeconds
  store i (·.setLastChange uptime)

/-- A write to the entry `i` that is left out where `c` holds. -/
def storeUnless (c : Prop) [Decidable c] (i : ℕ) (f : DmlPppIfFull → DmlPppIfFull) : Code Unit :=
  if c then pure () else store i f

/-- The case `PPP_LCP_AUTH_COMPLETED` of the switch. -/
def completeLcpAuth (i : ℕ) (msg : PppLcpMsg) : Code Unit := do
  store i (·.setSruSrd (0, 0))
  storeUnless (msg.vendormsg = []) i (·.setSruSrd (dmlSetVendorParams msg.vendormsg (0, 0)))
  storeUnless (msg.authproto = []) i
    (·.setAuthenticationProtocol (if msg.authproto = "PAP".toList then .pap else .chap))

/-- The `switch` of `PppMgr_ProcessStateChangedMsg` on the entry `i`: the link status to tell the
WAN manager, where `updatedParam` is set. -/
def switchPppState (i : ℕ) (msg : IpcPppEventMsg) : Code (Option CStr) := do
  match msg.pppState with
  | .interfaceUnconfigured =>
    changeStatus i .error .unconfigured
    pure (some down)
  | .interfaceConnecting =>
    changeStatus i .down .connecting
    store i (·.setACName (strncpy 257 msg.pppLcpMsg.acname))
    pure none
  | .interfaceAuthenticating =>
    changeStatus i .down .authenticating
    pure none
  | .interfaceUp =>
    store i (·.setStatus .up .connected)
    store i (·.setLastConnectionError .none)
    let uptime ← getUptimeinSeconds
    store i (·.setLastChange uptime)
    getSessionId i
    let pEntry ← load i
    let paramValue := printf "%ld".toList [.int pEntry.info.sessionID.toLong]
    let _ ← setParamValuesToDB psmPppSessionid paramValue
    pure (some up)
  | .interfaceDisconnecting =>
    changeStatus i .down .disconnecting
    pure none
  | .interfaceDisconnected | .interfaceDown =>
    store i (·.setSruSrd (0, 0))
    changeStatus i .down .disconnected
    store i (·.setLastConnectionError (exitError msg.pppLcpMsg.exitStatus))
    pure (some down)
  | .lcpAuthCompleted =>
    completeLcpAuth i msg.pppLcpMsg
    pure none
  | .interfaceAuthFailed =>
    store i (·.setStatus .down .authenticationFailed)
    let _ ← stopPppoe
    pure (some down)
  | _ =>
    changeStatus i .down .disconnected
    pure (some down)

/-- The part of `PppMgr_ProcessStateChangedMsg` that tells the WAN manager the link status of the
entry `i`. -/
def postLinkStatus (b : Build) (i : ℕ) (wanPppLinkStatus : CStr) : Code AnscStatus := do
  let pEntry ← load i
  let inst := toInt pEntry.cfg.instanceNumber
  match ← sendDataToQ (busSetEvent inst (pppLcpStatusParamName b) wanPppLinkStatus) with
  | .failure =>
    getIfaceDataRelease i
    pure .failure
  | .success =>
    match ← sendDataToQ (busSetEvent inst (pppLinkStatusParamName b) wanPppLinkStatus) with
    | .failure =>
      getIfaceDataRelease i
      pure .failure
    | .success =>
      getIfaceDataRelease i
      pure .success

/-- `PppMgr_ProcessStateChangedMsg`. -/
def processStateChangedMsg (b : Build) (instanceNumber : ℤ) (msg : IpcPppEventMsg) :
    Code AnscStatus := do
  if instanceNumber ≤ 0 then
    pure .failure
  else
    match ← getIfaceDataLocked instanceNumber.toNat with
    | none => pure .failure
    | some i =>
      match ← switchPppState i msg with
      | none =>
        getIfaceDataRelease i
        pure .success
      | some wanPppLinkStatus => postLinkStatus b i wanPppLinkStatus

/-! ### IPCP and IPv6CP -/

namespace DmlPppIfFull

/-- The entry with `LocalIPAddress` written. -/
def setLocalIPAddress (v : AnscIpv4Address) (e : DmlPppIfFull) : DmlPppIfFull :=
  { e with info := { e.info with localIPAddress := v } }

/-- The entry with `RemoteIPAddress` written. -/
def setRemoteIPAddress (v : AnscIpv4Address) (e : DmlPppIfFull) : DmlPppIfFull :=
  { e with info := { e.info with remoteIPAddress := v } }

/-- The entry with `DNSServers` written. -/
def setDNSServers (v : Fin 2 → AnscIpv4Address) (e : DmlPppIfFull) : DmlPppIfFull :=
  { e with info := { e.info with dnsServers := v } }

/-- The entry with `Ip6LocalIfID` written. -/
def setIp6LocalIfID (v : CStr) (e : DmlPppIfFull) : DmlPppIfFull :=
  { e with info := { e.info with ip6LocalIfID := v } }

/-- The entry with `Ip6RemoteIfID` written. -/
def setIp6RemoteIfID (v : CStr) (e : DmlPppIfFull) : DmlPppIfFull :=
  { e with info := { e.info with ip6RemoteIfID := v } }

end DmlPppIfFull

/-- What `PppMgr_ProcessIpcpParams` does when it rejects the parameters. -/
def rejectIpcpParams (b : Build) (i : ℕ) : Code AnscStatus := do
  let pEntry ← load i
  let _ ← setIPCPStatusDown b (toInt pEntry.cfg.instanceNumber)
  getIfaceDataRelease i
  pure .failure

/-- The last part of `PppMgr_ProcessIpcpParams`: the addresses are stored, and the WAN manager is
told. -/
def acceptIpcpParams (b : Build) (i : ℕ) : Code AnscStatus := do
  let pEntry ← load i
  match ← sendDataToQ
      (busSetEvent (toInt pEntry.cfg.instanceNumber) (pppIpcpStatusParamName b) up) with
  | .failure =>
    getIfaceDataRelease i
    pure .failure
  | .success =>
    getIfaceDataRelease i
    pure .success

/-- The DNS servers `PppMgr_ProcessIpcpParams` stores for the tokens of a name server list, where
it stores any. -/
def dnsServersOf : List CStr → Option (Fin 2 → AnscIpv4Address)
  | [] => none
  | [dns1] =>
      some fun i => if i = 0 then (dmlSetIp4Param (strncpy 31 dns1) (fun _ => 0)).1 else fun _ => 0
  | dns1 :: dns2 :: _ =>
      some fun i =>
        if i = 0 then (dmlSetIp4Param (strncpy 31 dns1) (fun _ => 0)).1
        else (dmlSetIp4Param (strncpy 31 dns2) (fun _ => 0)).1

/-- The part of `PppMgr_ProcessIpcpParams` that stores the parameters in the entry `i`. -/
def storeIpcpParams (b : Build) (i : ℕ) (msg : PppIpcpMsg) : Code AnscStatus := do
  store i (·.setLocalIPAddress (fun _ => 0))
  store i (·.setRemoteIPAddress (fun _ => 0))
  store i (·.setDNSServers (fun _ _ => 0))
  let (ip, ret) := dmlSetIp4Param msg.ip (fun _ => 0)
  store i (·.setLocalIPAddress ip)
  match ret with
  | .failure => rejectIpcpParams b i
  | .success =>
    let (gateway, ret) := dmlSetIp4Param msg.gateway (fun _ => 0)
    store i (·.setRemoteIPAddress gateway)
    match ret with
    | .failure => rejectIpcpParams b i
    | .success =>
      match dnsServersOf (strtok ',' msg.nameserver) with
      | none => rejectIpcpParams b i
      | some dnsServers =>
        store i (·.setDNSServers dnsServers)
        acceptIpcpParams b i

/-- `PppMgr_ProcessIpcpParams`. -/
def processIpcpParams (b : Build) (instanceNumber : ℤ) (msg : IpcPppEventMsg) :
    Code AnscStatus := do
  if instanceNumber ≤ 0 then
    pure .failure
  else if msg.pppState ≠ .ipcpCompleted then
    let _ ← setIPCPStatusDown b instanceNumber
    pure .failure
  else if msg.pppIpcpMsg.ip = [] ∨ msg.pppIpcpMsg.gateway = [] ∨
      msg.pppIpcpMsg.nameserver = [] then
    let _ ← setIPCPStatusDown b instanceNumber
    pure .failure
  else
    match ← getIfaceDataLocked instanceNumber.toNat with
    | none => pure .failure
    | some i => storeIpcpParams b i msg.pppIpcpMsg

/-- The part of `PppMgr_ProcessIpv6cpParams` that stores the interface identifiers in the entry
`i`. -/
def storeIpv6cpParams (i : ℕ) (msg : PppIpv6cpMsg) : Code Unit := do
  storeUnless (msg.localIntfId = []) i (·.setIp6LocalIfID (strncpy 45 msg.localIntfId))
  storeUnless (msg.remoteIntfId = []) i (·.setIp6RemoteIfID (strncpy 45 msg.remoteIntfId))

/-- `PppMgr_ProcessIpv6cpParams`. -/
def processIpv6cpParams (b : Build) (instanceNumber : ℤ) (msg : IpcPppEventMsg) :
    Code AnscStatus := do
  if instanceNumber ≤ 0 then
    pure .failure
  else
    match ← getIfaceDataLocked instanceNumber.toNat with
    | none => pure .success
    | some i =>
      let pEntry ← load i
      let inst := toInt pEntry.cfg.instanceNumber
      if msg.pppState = .ipv6cpCompleted then
        storeIpv6cpParams i msg.pppIpv6cpMsg
        generateDuidFile pEntry.info.name
        match ← sendDataToQ (busSetEvent inst (pppIpv6cpStatusParamName b) up) with
        | .failure =>
          getIfaceDataRelease i
          pure .failure
        | .success =>
          getIfaceDataRelease i
          pure .success
      else
        removeDuidFile pEntry.info.name
        let _ ← setIPv6CPStatusDown b inst
        getIfaceDataRelease i
        pure .success

/-! ### The event thread -/

/-- The `switch` of `PppMgr_ProcessPppState`. -/
def dispatchPppState (b : Build) (instanceNumber : ℤ) (msg : IpcPppEventMsg) : Code AnscStatus :=
  match msg.pppState with
  | .ipcpCompleted | .ipcpFailed => processIpcpParams b instanceNumber msg
  | .ipv6cpCompleted | .ipv6cpFailed => processIpv6cpParams b instanceNumber msg
  | .unknown _ => pure .failure
  | _ => processStateChangedMsg b instanceNumber msg

/-- `PppMgr_ProcessPppState`. -/
def processPppState (b : Build) (ipcMsg : IpcMsgPayload) : Code AnscStatus := do
  if ipcMsg.msgType ≠ .pppStateChange then
    pure .failure
  else
    let msg := ipcMsg.pppEventMsg
    let instanceNumber ← getIfaceDataWithPid msg.pid
    if instanceNumber = -1 then pure .failure else dispatchPppState b instanceNumber msg

/-- `DmlWanmanagerSetParamValues`. -/
def dmlWanmanagerSetParamValues (pComponent pBus pParamName pParamVal : CStr) :
    Code AnscStatus := do
  let (success, faultParam) ← busSet pComponent pBus pParamName pParamVal
  if !success && faultParam then pure .failure else pure .success

/-- The instances of the WAN manager `PppMgr_ProcessPppEvent` writes into a key. -/
def wanInstanceOf (pppIfInstance : ℕ) : Code (ℤ × ℤ) := do
  match ← getIfaceDataLocked pppIfInstance with
  | none => pure (-1, -1)
  | some i =>
    let pEntry ← load i
    getIfaceDataRelease i
    pure (pEntry.cfg.wanInstanceNumber, pEntry.cfg.wanVirtIfaceInstance)

/-- `PppMgr_ProcessPppEvent`. -/
def processPppEvent (b : Build) (pEventData : PppEventQData) : Code AnscStatus := do
  if pEventData.pppIfInstance ≤ 0 then
    pure .failure
  else
    match pEventData.action, pEventData.keyPath, pEventData.comPath, pEventData.busPath with
    | .busSet, some keyPath, some comPath, some busPath =>
      let (wanInstanceNumber, wanVirtIfaceInstance) ← wanInstanceOf pEventData.pppIfInstance.toNat
      let key := snprintf 255 keyPath [.int wanInstanceNumber, .int wanVirtIfaceInstance]
      dmlWanmanagerSetParamValues comPath busPath key pEventData.val
    | .execPppClient, _, _, _ =>
      let _ ← startPppClient b pEventData.pppIfInstance.toNat
      pure .success
    | _, _, _, _ => pure .failure

/-- `PppMgr_receiveIpcSocket` into a zeroed message: the message, and its size where one is
received. -/
def receiveIpcSocket (b : Build) : Code (Option (IpcMsgPayload × ℕ)) := do
  match ← nnRecv with
  | none => pure none
  | some ipcBuff =>
    if ipcBuff.length ≤ b.sizeofIpcMsgPayload then
      let bytes := ipcBuff ++ List.replicate (b.sizeofIpcMsgPayload - ipcBuff.length) '\x00'
      pure (some (b.readIpcMsgPayload bytes, ipcBuff.length))
    else
      undefined .bufferOverflow

/-- The part of an iteration of `PppMgr_EventHandlerThread` that handles a message of the
socket. -/
def handleSocket (b : Build) : Code Unit := do
  match ← receiveIpcSocket b with
  | none => pure ()
  | some (sockMsg, msgSize) =>
    if 0 < msgSize then
      let _ ← processPppState b sockMsg
    else
      pure ()

/-- The part of an iteration of `PppMgr_EventHandlerThread` that takes an event from the queue. -/
def handleQueue (b : Build) : Code Unit := do
  match ← mqReceive with
  | none => pure ()
  | some eventMsg =>
    let _ ← processPppEvent b eventMsg

/-- An iteration of the loop of `PppMgr_EventHandlerThread`. -/
def eventHandlerIteration (b : Build) : Code Unit := do
  handleSocket b
  handleQueue b

end PppManager
