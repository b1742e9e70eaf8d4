import PppManager.CText.Format

/-!
# The data of the PPP manager

The structures of `pppmgr_dml.h`, the queue event of `pppmgr_dml_ppp_apis.h` and the state message
of the PPP client.  Fields and enumerations keep the names of the source.  An enumeration has the
extra value `unset` for the zero of a freshly allocated entry, and `other` where the data model may
store a number of 32 bits that is not one of its constants.

A `ULONG` is taken as 64 bits wide.  A character array holds the string it contains; a string as
long as the array has no terminator in it.
-/

namespace PppManager

open CText

/-- `ULONG`. -/
abbrev ULong := BitVec 64

/-- The signed value `%ld` prints for a `ULONG`. -/
abbrev ULong.toLong (x : ULong) : ℤ := x.toInt

theorem length_dec_toLong (x : ULong) :
  (dec x.toLong).length ≤ 20
  := by
  have hlt : x.toLong < 2 ^ 63 := BitVec.toInt_lt
  have hle : -2 ^ 63 ≤ x.toLong := BitVec.le_toInt x
  apply length_dec_le (k := 19) (by decide)
  omega

/-- The `ULONG` that holds a `long`. -/
abbrev ULong.ofLong (i : ℤ) : ULong := BitVec.ofInt 64 i

/-- The return codes the code compares with. -/
inductive AnscStatus where
  | success
  | failure
  deriving DecidableEq

/-- `PPP_DML_LINK_TYPE`. -/
inductive PppDmlLinkType where
  | unset
  | pppoa
  | pppoe
  | other (v : BitVec 32)
  deriving DecidableEq

/-- `PPP_DML_CONN_TRIGGER`. -/
inductive PppDmlConnTrigger where
  | unset
  | onDemand
  | alwaysOn
  | manual
  | other (v : BitVec 32)
  deriving DecidableEq

/-- `DML_PPP_CONN_STATUS`. -/
inductive DmlPppConnStatus where
  | unset
  | unconfigured
  | connecting
  | authenticating
  | connected
  | pendingDisconnect
  | disconnecting
  | disconnected
  | authenticationFailed
  deriving DecidableEq

/-- `DML_IF_STATUS`. -/
inductive DmlIfStatus where
  | unset
  | up
  | down
  | unknown
  | dormant
  | notPresent
  | lowerLayerDown
  | error
  deriving DecidableEq

/-- `DML_PPP_CONN_ERROR`. -/
inductive DmlPppConnError where
  | unset
  | none
  | ispTimeOut
  | commandAborted
  | notEnabledForInternet
  | badPhoneNumber
  | userDisconnect
  | ispDisconnect
  | idleDisconnect
  | forcedDisconnect
  | serverOutOfResources
  | restrictedLogonHours
  | accountDisabled
  | accountExpired
  | passwordExpired
  | authenticationFailure
  | noDialtone
  | noCarrier
  | noAnswer
  | lineBusy
  | unsupportedBitsPerSecond
  | tooManyLineErrors
  | ipConfiguration
  | unknown
  deriving DecidableEq

/-- `DML_PPP_ENCRYPTION`. -/
inductive DmlPppEncryption where
  | unset
  | none
  | mppe
  deriving DecidableEq

/-- `DML_PPP_COMPRESSION`. -/
inductive DmlPppCompression where
  | unset
  | none
  | vanJacobson
  | lzs
  deriving DecidableEq

/-- `DML_PPP_AUTH`. -/
inductive DmlPppAuth where
  | unset
  | pap
  | chap
  | msChap
  deriving DecidableEq

/-- The bytes of an address can be written as numbers. -/
instance neZero_four : NeZero 4 := ⟨by decide⟩

/-- The name servers can be written as numbers. -/
instance neZero_two : NeZero 2 := ⟨by decide⟩

/-- `ANSC_IPV4_ADDRESS`, by its four bytes. -/
abbrev AnscIpv4Address := Fin 4 → BitVec 8

/-- `DML_PPP_IF_CFG`. -/
structure DmlPppIfCfg where
  instanceNumber : ℕ
  ifAlias : CStr
  bEnabled : Bool
  bIPCPEnabled : Bool
  bIPV6CPEnabled : Bool
  linkType : PppDmlLinkType
  lowerLayers : CStr
  autoDisconnectTime : ULong
  idleDisconnectTime : ULong
  warnDisconnectDelay : ULong
  username : CStr
  password : CStr
  maxMRUSize : BitVec 16
  connectionTrigger : PppDmlConnTrigger
  acName : CStr
  serviceName : CStr
  passthroughEnable : Bool
  passthroughDHCPPool : CStr
  wanInstanceNumber : ℤ
  wanVirtIfaceInstance : ℤ

/-- `DML_PPP_IF_INFO`. -/
structure DmlPppIfInfo where
  status : DmlIfStatus
  name : CStr
  lastChange : ULong
  connectionStatus : DmlPppConnStatus
  lastConnectionError : DmlPppConnError
  encryptionProtocol : DmlPppEncryption
  compressionProtocol : DmlPppCompression
  interfaceServiceName : CStr
  authenticationProtocol : DmlPppAuth
  pppPid : ℤ
  currentMRUSize : BitVec 16
  lcpEcho : ULong
  lcpEchoRetry : ULong
  sessionID : ULong
  localIPAddress : AnscIpv4Address
  remoteIPAddress : AnscIpv4Address
  dnsServers : Fin 2 → AnscIpv4Address
  sru : ULong
  srd : ULong
  ip6LocalIfID : CStr
  ip6RemoteIfID : CStr

/-- `DML_PPP_IF_FULL`, without its mutex. -/
structure DmlPppIfFull where
  cfg : DmlPppIfCfg
  info : DmlPppIfInfo

/-- The length of `PppTable`. -/
def pppTableLength : ℕ := 128

/-- An entry of memory that is all zero. -/
def DmlPppIfFull.zeroed : DmlPppIfFull where
  cfg :=
    { instanceNumber := 0, ifAlias := [], bEnabled := false, bIPCPEnabled := false,
      bIPV6CPEnabled := false, linkType := .unset, lowerLayers := [], autoDisconnectTime := 0,
      idleDisconnectTime := 0, warnDisconnectDelay := 0, username := [], password := [],
      maxMRUSize := 0, connectionTrigger := .unset, acName := [], serviceName := [],
      passthroughEnable := false, passthroughDHCPPool := [], wanInstanceNumber := 0,
      wanVirtIfaceInstance := 0 }
  info :=
    { status := .unset, name := [], lastChange := 0, connectionStatus := .unset,
      lastConnectionError := .unset, encryptionProtocol := .unset, compressionProtocol := .unset,
      interfaceServiceName := [], authenticationProtocol := .unset, pppPid := 0,
      currentMRUSize := 0, lcpEcho := 0, lcpEchoRetry := 0, sessionID := 0,
      localIPAddress := fun _ => 0, remoteIPAddress := fun _ => 0, dnsServers := fun _ _ => 0,
      sru := 0, srd := 0, ip6LocalIfID := [], ip6RemoteIfID := [] }

/-! ### Character arrays -/

/-- The character arrays of an entry that are written with text from outside: their sizes and the
strings in them. -/
def DmlPppIfFull.arrays (e : DmlPppIfFull) : List (ℕ × CStr) :=
  [(512, e.cfg.ifAlias), (256, e.cfg.lowerLayers), (65, e.cfg.username), (65, e.cfg.password),
    (257, e.cfg.acName), (257, e.cfg.serviceName), (512, e.cfg.passthroughDHCPPool),
    (64, e.info.name), (512, e.info.interfaceServiceName), (46, e.info.ip6LocalIfID),
    (46, e.info.ip6RemoteIfID)]

/-- Every array of the entry holds a string with its terminator. -/
def DmlPppIfFull.ArraysFit (e : DmlPppIfFull) : Prop :=
  ∀ a ∈ e.arrays, a.2.length < a.1

namespace DmlPppIfFull

variable {e e' : DmlPppIfFull}

theorem arraysFit_zeroed :
  DmlPppIfFull.zeroed.ArraysFit
  := by
  rw [ArraysFit]
  decide

theorem ArraysFit.of_arrays (h : e.ArraysFit) (harrays : e'.arrays = e.arrays) :
  e'.ArraysFit
  := by
  rw [ArraysFit, harrays]
  apply h

/-- A string that fits, in one of the arrays. -/
theorem ArraysFit.set (h : e.ArraysFit) (j : ℕ) {size : ℕ} {v : CStr} (hv : v.length < size)
    (harrays : e'.arrays = e.arrays.set j (size, v)) :
  e'.ArraysFit
  := by
  intro a ha
  rw [harrays] at ha
  rcases List.mem_or_eq_of_mem_set ha with hold | rfl
  · apply h a hold
  · apply hv

end DmlPppIfFull

/-! ### Queue events -/

/-- `PPPMGR_EVENT_ACTION`. -/
inductive PppMgrEventAction where
  | busSet
  | execPppClient
  deriving DecidableEq

/-- `PPPEventQData`; a pointer that is NULL is `none`. -/
structure PppEventQData where
  action : PppMgrEventAction
  pppIfInstance : ℤ
  keyPath : Option CStr
  comPath : Option CStr
  busPath : Option CStr
  val : CStr
  deriving DecidableEq

/-- `MAX_QUEUE_LENGTH`. -/
def maxQueueLength : ℕ := 100

/-! ### State messages -/

/-- The states a PPP client reports; `unknown` stands for every other code. -/
inductive PppState where
  | interfaceUp
  | interfaceDown
  | interfaceUnconfigured
  | interfaceConnecting
  | interfaceAuthenticating
  | interfacePendingDisconnet
  | interfaceDisconnecting
  | interfaceDisconnected
  | interfaceLcpEchoFailed
  | interfaceAuthFailed
  | ipcpCompleted
  | ipcpFailed
  | ipv6cpCompleted
  | ipv6cpFailed
  | lcpAuthCompleted
  | unknown (code : ℕ)
  deriving DecidableEq

/-- `pppLcpMsg` of a state message. -/
structure PppLcpMsg where
  acname : CStr
  exitStatus : ℤ
  vendormsg : CStr
  authproto : CStr
  deriving DecidableEq

/-- `pppIpcpMsg` of a state message. -/
structure PppIpcpMsg where
  ip : CStr
  gateway : CStr
  nameserver : CStr
  deriving DecidableEq

/-- `pppIpv6cpMsg` of a state message. -/
structure PppIpv6cpMsg where
  localIntfId : CStr
  remoteIntfId : CStr
  deriving DecidableEq

/-- `ipc_ppp_event_msg_t`: the union `event` by what each of its members reads. -/
structure IpcPppEventMsg where
  pid : ℤ
  pppState : PppState
  pppLcpMsg : PppLcpMsg
  pppIpcpMsg : PppIpcpMsg
  pppIpv6cpMsg : PppIpv6cpMsg
  deriving DecidableEq

/-- The type of a message on the socket. -/
inductive IpcMsgType where
  | pppStateChange
  | other (code : ℕ)
  deriving DecidableEq

/-- `ipc_msg_payload_t`. -/
structure IpcMsgPayload where
  msgType : IpcMsgType
  pppEventMsg : IpcPppEventMsg
  deriving DecidableEq

/-! ### Builds -/

/-- What the preprocessor and the headers outside the source decide: the flags of the build, the
time interval of `AnscGetTimeIntervalInSeconds`, and the size and layout of `ipc_msg_payload_t`. -/
structure Build where
  usePppDaemon : Bool
  pppUsernamePasswordFromPsm : Bool
  wanManagerUnificationEnabled : Bool
  dynamicConfigurePppLowerlayer : Bool
  anscGetTimeIntervalInSeconds : ULong → ULong → ULong
  sizeofIpcMsgPayload : ℕ
  readIpcMsgPayload : List Char → IpcMsgPayload

end PppManager
