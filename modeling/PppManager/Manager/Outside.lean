import PppManager.Manager.EntryPoints
import PppManager.Manager.Initialize

/-!
# Calls to run

The answers of an outside where the services work, and a state with interfaces that can be started,
to run the manager on.
-/

namespace PppManager

open CText

/-- What an outside answers: whether the queue and the database work, what the socket gives, what is
read from the bus at each moment, the content of a file, the list of processes named `pppd`, and the
listing of `/proc`. -/
structure Outside where
  queue : Bool
  socket : Option CStr
  psm : Bool
  bus : ℕ → Option (Option CStr)
  file : CStr → Option CStr
  ps : Option CStr
  proc : Option (List ProcDirent)

/-- The answers of an outside. -/
def Outside.answers (x : Outside) : Answers
  | _, .lock _ => ()
  | _, .unlock _ => ()
  | _, .load _ => ()
  | _, .store _ _ => ()
  | _, .undefined _ => ()
  | _, .mqOpen => x.queue
  | _, .mqSend _ => x.queue
  | _, .mqReceive => ()
  | _, .nnRecv => x.socket
  | _, .psmGet _ => x.psm
  | _, .psmSet _ _ => x.psm
  | k, .busGet _ _ _ => x.bus k
  | _, .busSet _ _ _ _ => (true, false)
  | _, .halGetPppUserName => none
  | _, .halGetPppPassword => none
  | _, .readFile path => x.file path
  | _, .popen _ => x.ps
  | _, .readProc => x.proc
  | _, .syscfgGet _ => none
  | _, .syseventGet _ => none
  | _, .getIfAddr _ => 0
  | _, .generateDuidFile _ => ()
  | _, .removeDuidFile _ => ()
  | _, .system _ => ()
  | _, .kill _ => ()

/-- What a start event that is taken from the queue reads from the bus, where the WAN manager has
one interface with one virtual interface, the PPP interface `n`, and `vlan101` below it. -/
def startReads (n : ℕ) : ℕ → Option (Option CStr)
  | 0 => none
  | 1 => some (some "1".toList)
  | 2 => some (some "1".toList)
  | 3 => some (some (snprintf 128 pppIfacePath [.int n]))
  | _ => some (some "vlan101".toList)

/-- An outside where everything works, in which a start of the PPP interface `n` can succeed, with
the processes `ps` and the listing `proc`. -/
def workingOutside (n : ℕ) (ps : Option CStr) (proc : List ProcDirent) : Outside where
  queue := true
  socket := none
  psm := true
  bus := startReads n
  file := fun _ => none
  ps := ps
  proc := some proc

/-- A call of an entry point where everything works, with the listing `proc`. -/
def workingCall (proc : List ProcDirent) (point : EntryPoint) : Access :=
  ⟨point, (workingOutside 1 none proc).answers⟩

/-- The interface 1 is enabled where everything works. -/
def enabling : Access :=
  workingCall [] (.setter (.interfaceBool 0 "Enable".toList true))

/-- The answers where the queue cannot be opened. -/
def closedQueue : Answers :=
  { workingOutside 1 none [] with queue := false }.answers

/-- Every send of a call succeeds where the queue works. -/
theorem Outside.allowed_sends {x : Outside} (hx : x.queue = true) (call : Call) :
  Turn.Allowed SendsSucceed ⟨call, x.answers⟩
  := by
  intro t o _
  cases o with
  | mqOpen | mqSend => apply hx
  | _ => trivial

/-- The number of interfaces can be read where the database works. -/
theorem Outside.allowed_countKnown {x : Outside} (hx : x.psm = true) {point : EntryPoint} :
  Access.Allowed CountKnown ⟨point, x.answers⟩
  := by
  intro t o _
  cases o with
  | psmGet name =>
      intro _
      apply hx
  | _ => trivial

/-- A run that gives a value does not stop. -/
theorem eq_ok_of_toOption {ε α : Type} {x : Except ε α} {a : α} (h : x.toOption = some a) :
  x = .ok a
  := by
  cases x with
  | ok a' =>
      obtain rfl := Option.some.inj h
      rfl
  | error e => cases h

theorem exists_ok_of_isOk {ε α : Type} {x : Except ε α} (h : x.isOk = true) :
  ∃ a, x = .ok a
  := by
  cases x with
  | ok a => exact ⟨a, rfl⟩
  | error e => cases h

/-- A process named `pppd` that sleeps, in a listing of `/proc`. -/
def pppdProcess (pid : ℕ) : ProcDirent where
  dName := dec pid
  isDir := true
  stat := some (dec pid ++ " (pppd) S ".toList)
  cmdline := none

/-- The message of the client `pid` that its state is `pppState`. -/
def stateMessage (pid : ℤ) (pppState : PppState) : IpcMsgPayload where
  msgType := .pppStateChange
  pppEventMsg :=
    { pid := pid
      pppState := pppState
      pppLcpMsg := { acname := [], exitStatus := 0, vendormsg := [], authproto := [] }
      pppIpcpMsg := { ip := [], gateway := [], nameserver := [] }
      pppIpv6cpMsg := { localIntfId := [], remoteIntfId := [] } }

/-- The message of a client that it has the address 10.0.0.2. -/
def addressMessage : IpcPppEventMsg :=
  { (stateMessage 0 .ipcpCompleted).pppEventMsg with
    pppIpcpMsg :=
      { ip := "10.0.0.2".toList
        gateway := "10.0.0.1".toList
        nameserver := "8.8.8.8,9.9.9.9".toList } }

/-- A build, with or without `USE_PPP_DAEMON`. -/
def plainBuild (daemon : Bool) : Build where
  usePppDaemon := daemon
  pppUsernamePasswordFromPsm := true
  wanManagerUnificationEnabled := true
  dynamicConfigurePppLowerlayer := false
  anscGetTimeIntervalInSeconds := fun x y => y - x
  sizeofIpcMsgPayload := 0
  readIpcMsgPayload := fun _ => stateMessage 0 (.unknown 0)

/-- A PPPoE interface that can be started, as it is loaded. -/
def pppoeEntry (i : ℕ) : DmlPppIfFull where
  cfg :=
    { DmlPppIfFull.zeroed.cfg with
      instanceNumber := i + 1
      username := "user".toList
      password := "secret".toList
      linkType := .pppoe
      lowerLayers := "Device.VLAN.1".toList }
  info :=
    { DmlPppIfFull.zeroed.info with
      name := "ppp0".toList
      interfaceServiceName := "isp".toList
      authenticationProtocol := .chap }

/-- A state the manager starts in, with `c` interfaces that can be started. -/
def freshState (c : ℕ) : Sys where
  table := pppoeEntry
  locks := fun _ => []
  queue := []
  psm := fun _ => some (dec c)
  acts := []

theorem initial_freshState {c : ℕ} (hc : (freshState c).pppIfCount.toNat ≤ pppTableLength) :
  Initial (freshState c)
  where
    count_le := hc
    instanceNumber := by
      intro i _
      rfl
    idle := by
      intro i
      exact ⟨rfl, rfl, rfl, rfl, rfl⟩
    locks := by
      intro i
      rfl
    queue := rfl
    acts := rfl

end PppManager
