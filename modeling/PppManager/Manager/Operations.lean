import PppManager.Effect.Machine
import PppManager.Manager.Types
import Mathlib.Logic.Function.Basic

/-!
# The operations of the PPP manager

What the code asks of memory, of the mutexes, of the event queue and of the outside: the operations
of the signature `sig`, and the machine `machine t` that gives them their meaning for a thread `t`.

The state `Sys` holds the interface table, for each entry the stack of threads that hold its
recursive mutex, the event queue, the PSM database, and the list of the acts the outside has seen.
Everything else the outside decides: it answers each operation, and a run stops when a thread waits
for a mutex another thread holds or for room in the full queue, or when the code does something C
leaves undefined.
-/

namespace PppManager

open CText Function

/-- The two threads that work on the table: the one that serves the data model, and the event
thread. -/
inductive Thread where
  | dataModel
  | event
  deriving DecidableEq

/-- An entry of a directory listing of `/proc` with the contents of its files `stat` and `cmdline`,
where they can be opened. -/
structure ProcDirent where
  dName : CStr
  isDir : Bool
  stat : Option CStr
  cmdline : Option CStr
  deriving DecidableEq

/-- Behaviour C leaves undefined. -/
inductive Undefined where
  | nullDereference
  | bufferOverflow
  | uninitializedRead
  | badFormat
  deriving DecidableEq

/-- The operations of the code.  `load` and `store` read and write a table entry. -/
inductive Op where
  | lock (i : ℕ)
  | unlock (i : ℕ)
  | load (i : ℕ)
  | store (i : ℕ) (f : DmlPppIfFull → DmlPppIfFull)
  | undefined (u : Undefined)
  | mqOpen
  | mqSend (ev : PppEventQData)
  | mqReceive
  | nnRecv
  | psmGet (name : CStr)
  | psmSet (name value : CStr)
  | busGet (component bus name : CStr)
  | busSet (component bus name value : CStr)
  | halGetPppUserName
  | halGetPppPassword
  | readFile (path : CStr)
  | popen (command : CStr)
  | readProc
  | syscfgGet (name : CStr)
  | syseventGet (name : CStr)
  | getIfAddr (netdev : CStr)
  | generateDuidFile (wanName : CStr)
  | removeDuidFile (wanName : CStr)
  | system (command : CStr)
  | kill (pid : ℤ)

/-- The result the code sees.  A call that fails gives `none` or `false`; a bus read that succeeds
may still give a NULL value, and a bus write gives whether its return code is a success and whether
it names a faulty parameter. -/
@[reducible] def Op.Res : Op → Type
  | .load _ => DmlPppIfFull
  | .undefined _ => Empty
  | .mqOpen => Bool
  | .mqSend _ => Bool
  | .mqReceive => Option PppEventQData
  | .nnRecv => Option CStr
  | .psmGet _ => Option CStr
  | .psmSet _ _ => Bool
  | .busGet _ _ _ => Option (Option CStr)
  | .busSet _ _ _ _ => Bool × Bool
  | .halGetPppUserName => Option CStr
  | .halGetPppPassword => Option CStr
  | .readFile _ => Option CStr
  | .popen _ => Option CStr
  | .readProc => Option (List ProcDirent)
  | .syscfgGet _ => Option CStr
  | .syseventGet _ => Option CStr
  | .getIfAddr _ => BitVec 32
  | _ => Unit

/-- The signature of the code. -/
@[reducible] def sig : Effect.Signature where
  Op := Op
  Res := Op.Res

/-- A program of the PPP manager. -/
abbrev Code (α : Type) := Effect.Program sig α

section Calls

/-- The program that performs one operation. -/
def perform (o : Op) : Code o.Res := Effect.Program.perform (E := sig) o

/-- `pthread_mutex_lock` on the mutex of the entry `i`. -/
def lock (i : ℕ) : Code Unit := perform (Op.lock i)

/-- `pthread_mutex_unlock` on the mutex of the entry `i`. -/
def unlock (i : ℕ) : Code Unit := perform (Op.unlock i)

/-- The entry `i`. -/
def load (i : ℕ) : Code DmlPppIfFull := perform (Op.load i)

/-- A write to the entry `i`. -/
def store (i : ℕ) (f : DmlPppIfFull → DmlPppIfFull) : Code Unit := perform (Op.store i f)

/-- Undefined behaviour. -/
def undefined {α : Type} (u : Undefined) : Code α := .call (Op.undefined u) Empty.elim

/-- `mq_open` on the event queue for writing. -/
def mqOpen : Code Bool := perform Op.mqOpen

/-- `mq_send`. -/
def mqSend (ev : PppEventQData) : Code Bool := perform (Op.mqSend ev)

/-- `mq_receive`, without waiting. -/
def mqReceive : Code (Option PppEventQData) := perform Op.mqReceive

/-- `nn_recv`, without waiting. -/
def nnRecv : Code (Option CStr) := perform Op.nnRecv

/-- `PSM_Get_Record_Value2`. -/
def psmGet (name : CStr) : Code (Option CStr) := perform (Op.psmGet name)

/-- `PSM_Set_Record_Value2`. -/
def psmSet (name value : CStr) : Code Bool := perform (Op.psmSet name value)

/-- `CcspBaseIf_getParameterValues` for one parameter. -/
def busGet (component bus name : CStr) : Code (Option (Option CStr)) :=
  perform (Op.busGet component bus name)

/-- `CcspBaseIf_setParameterValues` for one parameter. -/
def busSet (component bus name value : CStr) : Code (Bool × Bool) :=
  perform (Op.busSet component bus name value)

/-- `platform_hal_GetPppUserName`. -/
def halGetPppUserName : Code (Option CStr) := perform Op.halGetPppUserName

/-- `platform_hal_GetPppPassword`. -/
def halGetPppPassword : Code (Option CStr) := perform Op.halGetPppPassword

/-- The content of a file, where it can be opened. -/
def readFile (path : CStr) : Code (Option CStr) := perform (Op.readFile path)

/-- The output of a shell command, where it can be run. -/
def popen (command : CStr) : Code (Option CStr) := perform (Op.popen command)

/-- The listing of `/proc`, where it can be opened. -/
def readProc : Code (Option (List ProcDirent)) := perform Op.readProc

/-- `syscfg_get`. -/
def syscfgGet (name : CStr) : Code (Option CStr) := perform (Op.syscfgGet name)

/-- `sysevent_get`. -/
def syseventGet (name : CStr) : Code (Option CStr) := perform (Op.syseventGet name)

/-- `PppGetIfAddr`. -/
def getIfAddr (netdev : CStr) : Code (BitVec 32) := perform (Op.getIfAddr netdev)

/-- `PppMgr_GenerateDuidFile`. -/
def generateDuidFile (wanName : CStr) : Code Unit := perform (Op.generateDuidFile wanName)

/-- `PppMgr_RemoveDuidFile`. -/
def removeDuidFile (wanName : CStr) : Code Unit := perform (Op.removeDuidFile wanName)

/-- `system`. -/
def system (command : CStr) : Code Unit := perform (Op.system command)

/-- `kill` with `SIGKILL`. -/
def kill (pid : ℤ) : Code Unit := perform (Op.kill pid)

end Calls

/-- What the outside sees the manager do. -/
inductive Act where
  | post (ev : PppEventQData)
  | system (command : CStr)
  | kill (pid : ℤ)
  | busSet (component bus name value : CStr)
  | generateDuidFile (wanName : CStr)
  | removeDuidFile (wanName : CStr)
  deriving DecidableEq

/-- The state of the manager, its queue and its database. -/
structure Sys where
  table : ℕ → DmlPppIfFull
  locks : ℕ → List Thread
  queue : List PppEventQData
  psm : CStr → Option CStr
  acts : List Act

/-- Why a run stops. -/
inductive Stop where
  | mutexBusy (i : ℕ)
  | queueFull
  | notOwner (i : ℕ)
  | outOfBounds (i : ℕ)
  | undefined (u : Undefined)
  deriving DecidableEq

namespace Sys

/-- The state with an act appended to those the outside has seen. -/
def emit (s : Sys) (a : Act) : Sys :=
  { s with acts := s.acts ++ [a] }

/-- The state with the entry `i` replaced. -/
def setEntry (s : Sys) (i : ℕ) (e : DmlPppIfFull) : Sys :=
  { s with table := update s.table i e }

/-- The state with the stack of owners of the mutex `i` replaced. -/
def setLock (s : Sys) (i : ℕ) (owners : List Thread) : Sys :=
  { s with locks := update s.locks i owners }

/-- The state with an event appended to the queue. -/
def post (s : Sys) (ev : PppEventQData) : Sys :=
  { s with queue := s.queue ++ [ev], acts := s.acts ++ [.post ev] }

/-- The state with a record written to the database. -/
def setRecord (s : Sys) (name value : CStr) : Sys :=
  { s with psm := update s.psm name (some value) }

end Sys

/-- What the outside decides for an operation: nothing where the state decides the result, for
`mqSend` and the database whether the service works, else the result. -/
@[reducible] def Op.Ans : Op → Type
  | .lock _ => Unit
  | .unlock _ => Unit
  | .load _ => Unit
  | .store _ _ => Unit
  | .undefined _ => Unit
  | .mqReceive => Unit
  | .psmGet _ => Bool
  | o => o.Res

/-- The outside has a say in what the operation does. -/
def Op.isAsked : Op → Bool
  | .lock _ => false
  | .unlock _ => false
  | .load _ => false
  | .store _ _ => false
  | .undefined _ => false
  | .mqReceive => false
  | .generateDuidFile _ => false
  | .removeDuidFile _ => false
  | .system _ => false
  | .kill _ => false
  | _ => true

/-- The meaning of the operations for the thread `t`. -/
def step (t : Thread) : (o : Op) → o.Ans → Sys → Except Stop (o.Res × Sys)
  | .lock i, _, s =>
      if pppTableLength ≤ i then .error (.outOfBounds i)
      else if ∀ t' ∈ s.locks i, t' = t then .ok ((), s.setLock i (t :: s.locks i))
      else .error (.mutexBusy i)
  | .unlock i, _, s =>
      match s.locks i with
      | t' :: owners => if t' = t then .ok ((), s.setLock i owners) else .error (.notOwner i)
      | [] => .error (.notOwner i)
  | .load i, _, s =>
      if pppTableLength ≤ i then .error (.outOfBounds i) else .ok (s.table i, s)
  | .store i f, _, s =>
      if pppTableLength ≤ i then .error (.outOfBounds i)
      else .ok ((), s.setEntry i (f (s.table i)))
  | .undefined u, _, _ => .error (.undefined u)
  | .mqOpen, r, s => .ok (r, s)
  | .mqSend ev, r, s =>
      if r then
        if s.queue.length < maxQueueLength then .ok (true, s.post ev) else .error .queueFull
      else .ok (false, s)
  | .mqReceive, _, s =>
      match s.queue with
      | [] => .ok (none, s)
      | ev :: evs => .ok (some ev, { s with queue := evs })
  | .nnRecv, r, s => .ok (r, s)
  | .psmGet name, r, s => .ok (if r then s.psm name else none, s)
  | .psmSet name value, r, s => .ok (r, if r then s.setRecord name value else s)
  | .busGet _ _ _, r, s => .ok (r, s)
  | .busSet component bus name value, r, s => .ok (r, s.emit (.busSet component bus name value))
  | .halGetPppUserName, r, s => .ok (r, s)
  | .halGetPppPassword, r, s => .ok (r, s)
  | .readFile _, r, s => .ok (r, s)
  | .popen _, r, s => .ok (r, s)
  | .readProc, r, s => .ok (r, s)
  | .syscfgGet _, r, s => .ok (r, s)
  | .syseventGet _, r, s => .ok (r, s)
  | .getIfAddr _, r, s => .ok (r, s)
  | .generateDuidFile wanName, _, s => .ok ((), s.emit (.generateDuidFile wanName))
  | .removeDuidFile wanName, _, s => .ok ((), s.emit (.removeDuidFile wanName))
  | .system command, _, s => .ok ((), s.emit (.system command))
  | .kill pid, _, s => .ok ((), s.emit (.kill pid))

/-- The machine of the thread `t`. -/
@[reducible] def machine (t : Thread) : Effect.Machine sig Sys Stop where
  Ans := Op.Ans
  step := step t

end PppManager
