import PppManager.Manager.Data

/-!
# The sending side of the event queue

`PppMgr_SendDataToQ` and the three functions of `pppmgr_ipc.c` that tell the WAN manager that a
status is down, with the names of the components and parameters they use.
-/

namespace PppManager

open CText

/-- `WAN_COMPONENT_NAME`. -/
def wanComponentName : CStr := "eRT.com.cisco.spvtg.ccsp.wanmanager".toList

/-- `WAN_DBUS_PATH`. -/
def wanDbusPath : CStr := "/com/cisco/spvtg/ccsp/wanmanager".toList

/-- `PPP_LCP_STATUS_PARAM_NAME`. -/
def pppLcpStatusParamName (b : Build) : CStr :=
  if b.wanManagerUnificationEnabled then
    "Device.X_RDK_WanManager.Interface.%d.VirtualInterface.%d.PPP.Status".toList
  else
    "Device.X_RDK_WanManager.CPEInterface.%d.PPP.LCPStatus".toList

/-- `PPP_LINK_STATUS_PARAM_NAME`. -/
def pppLinkStatusParamName (b : Build) : CStr :=
  if b.wanManagerUnificationEnabled then
    "Device.X_RDK_WanManager.Interface.%d.VirtualInterface.%d.PPP.Status".toList
  else
    "Device.X_RDK_WanManager.CPEInterface.%d.PPP.LinkStatus".toList

/-- `PPP_IPCP_STATUS_PARAM_NAME`. -/
def pppIpcpStatusParamName (b : Build) : CStr :=
  if b.wanManagerUnificationEnabled then
    "Device.X_RDK_WanManager.Interface.%d.VirtualInterface.%d.PPP.IPCPStatus".toList
  else
    "Device.X_RDK_WanManager.CPEInterface.%d.PPP.IPCPStatus".toList

/-- `PPP_IPV6CP_STATUS_PARAM_NAME`. -/
def pppIpv6cpStatusParamName (b : Build) : CStr :=
  if b.wanManagerUnificationEnabled then
    "Device.X_RDK_WanManager.Interface.%d.VirtualInterface.%d.PPP.IPv6CPStatus".toList
  else
    "Device.X_RDK_WanManager.CPEInterface.%d.PPP.IPv6CPStatus".toList

/-- `UP`. -/
def up : CStr := "Up".toList

/-- `DOWN`. -/
def down : CStr := "Down".toList

/-- `PppMgr_SendDataToQ`. -/
def sendDataToQ (eventData : PppEventQData) : Code AnscStatus := do
  if ← mqOpen then
    if ← mqSend eventData then pure .success else pure .failure
  else
    pure .failure

/-- An event that sets the status parameter `keyPath` of an interface to `val`. -/
def busSetEvent (pppIfInstance : ℤ) (keyPath val : CStr) : PppEventQData where
  action := .busSet
  pppIfInstance := pppIfInstance
  keyPath := some keyPath
  comPath := some wanComponentName
  busPath := some wanDbusPath
  val := strncpy 63 val

/-- An event that starts the client of an interface. -/
def execEvent (pppIfInstance : ℤ) : PppEventQData where
  action := .execPppClient
  pppIfInstance := pppIfInstance
  keyPath := none
  comPath := none
  busPath := none
  val := []

/-- `PppMgr_SetLinkStatusDown`. -/
def setLinkStatusDown (b : Build) (pppIfInstance : ℤ) : Code AnscStatus :=
  sendDataToQ (busSetEvent pppIfInstance (pppLcpStatusParamName b) down)

/-- `PppMgr_SetIPCPStatusDown`. -/
def setIPCPStatusDown (b : Build) (pppIfInstance : ℤ) : Code AnscStatus :=
  sendDataToQ (busSetEvent pppIfInstance (pppIpcpStatusParamName b) down)

/-- `PppMgr_SetIPv6CPStatusDown`. -/
def setIPv6CPStatusDown (b : Build) (pppIfInstance : ℤ) : Code AnscStatus :=
  sendDataToQ (busSetEvent pppIfInstance (pppIpv6cpStatusParamName b) down)

end PppManager
