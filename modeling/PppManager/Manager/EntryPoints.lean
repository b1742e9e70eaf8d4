import PppManager.Manager.Turns

/-!
# Entry points

Everything the manager is asked to do once its table is loaded: the functions of the data model, the
functions that start and stop a client, and what the event thread runs.
-/

namespace PppManager

open Effect CText

/-- The functions of the data model that read a parameter of an interface. -/
inductive Getter where
  | interfaceBool (i : ℕ) (paramName : CStr)
  | interfaceUlong (i : ℕ) (paramName : CStr)
  | interfaceString (i : ℕ) (paramName : CStr)
  | pppoeUlong (i : ℕ) (paramName : CStr)
  | pppoeString (i : ℕ) (paramName : CStr)
  | ipcpBool (i : ℕ) (paramName : CStr)
  | ipcpString (i : ℕ) (paramName : CStr)
  | ipv6cpString (i : ℕ) (paramName : CStr)
  | statsUlong (i : ℕ) (paramName : CStr)

namespace Getter

/-- The handle a getter is called with. -/
def handle : Getter → ℕ
  | .interfaceBool i _ => i
  | .interfaceUlong i _ => i
  | .interfaceString i _ => i
  | .pppoeUlong i _ => i
  | .pppoeString i _ => i
  | .ipcpBool i _ => i
  | .ipcpString i _ => i
  | .ipv6cpString i _ => i
  | .statsUlong i _ => i

/-- What a getter runs. -/
def code (b : Build) : Getter → Code Unit
  | .interfaceBool i paramName => (fun _ => ()) <$> interfaceGetParamBoolValue i paramName
  | .interfaceUlong i paramName => (fun _ => ()) <$> interfaceGetParamUlongValue b i paramName
  | .interfaceString i paramName => (fun _ => ()) <$> interfaceGetParamStringValue i paramName
  | .pppoeUlong i paramName => (fun _ => ()) <$> pppoeGetParamUlongValue i paramName
  | .pppoeString i paramName => (fun _ => ()) <$> pppoeGetParamStringValue i paramName
  | .ipcpBool i paramName => (fun _ => ()) <$> ipcpGetParamBoolValue i paramName
  | .ipcpString i paramName => (fun _ => ()) <$> ipcpGetParamStringValue i paramName
  | .ipv6cpString i paramName => (fun _ => ()) <$> ipv6cpGetParamStringValue i paramName
  | .statsUlong i paramName => (fun _ => ()) <$> statsGetParamUlongValue i paramName

end Getter

/-- The functions of the data model that write a parameter of an interface, and those that commit
them or roll them back. -/
inductive Setter where
  | interfaceBool (i : ℕ) (paramName : CStr) (bValue : Bool)
  | interfaceUlong (i : ℕ) (paramName : CStr) (uValue : ULong)
  | interfaceString (i : ℕ) (paramName pString : CStr)
  | pppoeString (i : ℕ) (paramName pString : CStr)
  | ipcpBool (i : ℕ) (paramName : CStr) (bValue : Bool)
  | ipcpString (i : ℕ) (paramName pString : CStr)
  | interfaceCommit (i : ℕ)
  | pppoeCommit (i : ℕ)
  | ipcpCommit (i : ℕ)
  | interfaceRollback (i : ℕ)
  | pppoeRollback (i : ℕ)
  | ipcpRollback (i : ℕ)

namespace Setter

/-- The handle a setter is called with. -/
def handle : Setter → ℕ
  | .interfaceBool i _ _ => i
  | .interfaceUlong i _ _ => i
  | .interfaceString i _ _ => i
  | .pppoeString i _ _ => i
  | .ipcpBool i _ _ => i
  | .ipcpString i _ _ => i
  | .interfaceCommit i => i
  | .pppoeCommit i => i
  | .ipcpCommit i => i
  | .interfaceRollback i => i
  | .pppoeRollback i => i
  | .ipcpRollback i => i

/-- What a setter runs, and whether it succeeds. -/
def code (b : Build) : Setter → Code Bool
  | .interfaceBool i paramName bValue => interfaceSetParamBoolValue b i paramName bValue
  | .interfaceUlong i paramName uValue => interfaceSetParamUlongValue i paramName uValue
  | .interfaceString i paramName pString => interfaceSetParamStringValue i paramName pString
  | .pppoeString i paramName pString => pppoeSetParamStringValue i paramName pString
  | .ipcpBool i paramName bValue => ipcpSetParamBoolValue i paramName bValue
  | .ipcpString i paramName pString => ipcpSetParamStringValue i paramName pString
  | .interfaceCommit i => (fun _ => true) <$> PppManager.interfaceCommit b i
  | .pppoeCommit i => (fun _ => true) <$> PppManager.pppoeCommit b i
  | .ipcpCommit i => (fun _ => true) <$> PppManager.ipcpCommit b i
  | .interfaceRollback i => (fun _ => true) <$> PppManager.interfaceRollback i
  | .pppoeRollback i => (fun _ => true) <$> PppManager.pppoeRollback i
  | .ipcpRollback i => (fun _ => true) <$> PppManager.ipcpRollback i

end Setter

/-- The entry points.  `constant` stands for the functions of the data model that return without
looking at the interface (`Interface_SetParamIntValue`, `PPPoE_GetParamBoolValue`,
`PPPoE_GetParamIntValue`, `PPPoE_SetParamBoolValue`, `PPPoE_SetParamIntValue`,
`PPPoE_SetParamUlongValue`, `PPPoE_Validate`, `IPCP_GetParamIntValue`, `IPCP_GetParamUlongValue`,
`IPCP_SetParamIntValue`, `IPCP_SetParamUlongValue`, `IPCP_Validate`). -/
inductive EntryPoint where
  | getter (g : Getter)
  | setter (w : Setter)
  | constant
  | getEntryCount
  | getEntry (nIndex : ℕ)
  | validate (i : ℕ)
  | message (m : IpcMsgPayload)
  | takeEvent
  | event (ev : PppEventQData)
  | start (n : ℕ)
  | stop (n : ℕ)
  | enable (n : ℕ) (enable : Bool)
  | reset (n : ℕ)

namespace EntryPoint

/-- What an entry point runs. -/
def code (b : Build) : EntryPoint → Code Unit
  | .getter g => g.code b
  | .setter w => (fun _ => ()) <$> w.code b
  | .constant => pure ()
  | .getEntryCount => (fun _ => ()) <$> interfaceGetEntryCount
  | .getEntry nIndex => (fun _ => ()) <$> interfaceGetEntry nIndex
  | .validate i => (fun _ => ()) <$> interfaceValidate i
  | .message m => (fun _ => ()) <$> processPppState b m
  | .takeEvent => handleQueue b
  | .event ev => (fun _ => ()) <$> processPppEvent b ev
  | .start n => (fun _ => ()) <$> startPppClient b n
  | .stop n => (fun _ => ()) <$> stopPppClient b n
  | .enable n v => (fun _ => ()) <$> enableIf b n v
  | .reset n => (fun _ => ()) <$> pppDmlIfReset b n

/-- The thread that runs an entry point. -/
def thread : EntryPoint → Thread
  | .message _ => .event
  | .takeEvent => .event
  | .event _ => .event
  | .start _ => .event
  | _ => .dataModel

end EntryPoint

/-- The instance whose client an event starts. -/
def PppEventQData.starts (ev : PppEventQData) : Option ℕ :=
  if 0 < ev.pppIfInstance ∧ ev.action = .execPppClient then some ev.pppIfInstance.toNat else none

/-- The instance an entry point starts from a state. -/
def EntryPoint.starts (s : Sys) : EntryPoint → Option ℕ
  | .event ev => ev.starts
  | .start n => some n
  | .takeEvent => s.queue.head?.bind PppEventQData.starts
  | _ => none

namespace EntryPoint

/-- The moment at which an entry point handles an event or starts a client. -/
def moment : EntryPoint → ℕ
  | .takeEvent => 1
  | _ => 0

/-- The state in which an entry point handles an event or starts a client. -/
def taken (s : Sys) : EntryPoint → Sys
  | .takeEvent => { s with queue := s.queue.tail }
  | _ => s

end EntryPoint

/-- An event that starts a client runs the start. -/
theorem processPppEvent_of_starts {b : Build} {ev : PppEventQData} {n : ℕ} (h : ev.starts = some n) :
  processPppEvent b ev = startPppClient b n >>= fun _ => pure .success
  := by
  rw [PppEventQData.starts] at h
  split_ifs at h with hexec
  obtain rfl := Option.some.inj h
  rw [processPppEvent, if_neg (Int.not_le.mpr hexec.1), hexec.2]

/-- What the event thread runs for an event it has taken, if there is one. -/
def takenCode (b : Build) : Option PppEventQData → Code Unit
  | none => pure ()
  | some ev => (fun _ => ()) <$> processPppEvent b ev

theorem handleQueue_eq (b : Build) :
  handleQueue b = .call Op.mqReceive (takenCode b)
  := by
  show Effect.Program.call (E := sig) Op.mqReceive _ = _
  congr 1

/-- An entry point that is called, with the answers of the outside. -/
structure Access where
  point : EntryPoint
  answers : Answers

namespace Access

/-- The state after an entry point is called, unless its run stops. -/
def next (b : Build) (l : Access) (s : Sys) : Option Sys :=
  match (machine l.point.thread).exec l.answers (l.point.code b) 0 s with
  | .ok (_, s', _) => some s'
  | .error _ => none

/-- The answers are all in `A`. -/
def Allowed (A : (o : Op) → o.Ans → Prop) (l : Access) : Prop :=
  ∀ t o, o.isAsked → A o (l.answers t o)

/-- The answers the run of the entry point from a state gets. -/
def Gets (b : Build) (l : Access) (s : Sys) : (o : Op) → o.Ans → Prop :=
  (machine l.point.thread).Gets l.answers (l.point.code b) 0 s

/-- What the rules say about an entry point holds of its runs. -/
theorem next_ends {A : (o : Op) → o.Ans → Prop} {b : Build} {l : Access} (hl : l.Allowed A)
    {s s' : Sys} {Q : Unit → Sys → Prop}
    (hwp : (contract l.point.thread A True).wp (l.point.code b) Q s) (h : l.next b s = some s') :
  Q () s'
  := by
  rw [next] at h
  cases hexec : (machine l.point.thread).exec l.answers (l.point.code b) 0 s with
  | error e =>
      rw [hexec] at h
      cases h
  | ok r =>
      obtain ⟨u, s₁, t⟩ := r
      rw [hexec] at h
      obtain rfl := Option.some.inj h
      apply Contract.wp_exec_ok (C := contract l.point.thread A True) hl hwp hexec

/-- What the rules say about an entry point where the outside gives the answers of a run holds of
that run. -/
theorem next_ends_gets {b : Build} {l : Access} {s s' : Sys} {Q : Unit → Sys → Prop}
    (hwp : (contract l.point.thread (l.Gets b s) True).wp (l.point.code b) Q s)
    (h : l.next b s = some s') :
  Q () s'
  := by
  rw [next] at h
  cases hexec : (machine l.point.thread).exec l.answers (l.point.code b) 0 s with
  | error e =>
      rw [hexec] at h
      cases h
  | ok r =>
      obtain ⟨u, s₁, t⟩ := r
      rw [hexec] at h
      obtain rfl := Option.some.inj h
      apply Contract.wp_exec_gets (fun o x hx _ => hx) hwp hexec

end Access

end PppManager
