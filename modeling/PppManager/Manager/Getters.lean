import PppManager.Effect.Steady
import PppManager.Manager.StringGetters

/-!
# Getters

What the getters of the data model show of an entry while the outside answers alike: it depends on
the entry and on the answers alone (`shown_eq`).
-/

namespace PppManager

open Effect Effect.Program CText

/-! ### What the getters read -/

/-- A value of a parameter. -/
inductive ParamValue
  | bool (v : Bool)
  | ulong (v : ULong)
  | string (v : CStr)
  deriving DecidableEq

/-- What the outside answers to each operation, whenever it is asked. -/
abbrev SteadyAnswers : Type :=
  (o : Op) → o.Ans

/-- What a program of the data model gives in a state. -/
def SteadyAnswers.gives {α : Type} (x : SteadyAnswers) (s : Sys) (p : Code α) : Except Stop α :=
  (machine .dataModel).gives ((machine .dataModel).steady x) p 0 s

/-- What a getter shows in a state: a value, or that the object does not have the parameter. -/
def Getter.shown (b : Build) (x : SteadyAnswers) (s : Sys) : Getter → Except Stop (Option ParamValue)
  | .interfaceBool i paramName =>
      (x.gives s (interfaceGetParamBoolValue i paramName)).map (Option.map .bool)
  | .interfaceUlong i paramName =>
      (x.gives s (interfaceGetParamUlongValue b i paramName)).map (Option.map .ulong)
  | .interfaceString i paramName =>
      (x.gives s (interfaceGetParamStringValue i paramName)).map (Option.map .string)
  | .pppoeUlong i paramName =>
      (x.gives s (pppoeGetParamUlongValue i paramName)).map (Option.map .ulong)
  | .pppoeString i paramName =>
      (x.gives s (pppoeGetParamStringValue i paramName)).map (Option.map .string)
  | .ipcpBool i paramName =>
      (x.gives s (ipcpGetParamBoolValue i paramName)).map (Option.map .bool)
  | .ipcpString i paramName =>
      (x.gives s (ipcpGetParamStringValue i paramName)).map (Option.map .string)
  | .ipv6cpString i paramName =>
      (x.gives s (ipv6cpGetParamStringValue i paramName)).map (Option.map .string)
  | .statsUlong i paramName =>
      (x.gives s (statsGetParamUlongValue i paramName)).map (Option.map .ulong)

/-! ### Values of an entry -/

/-- What a program gives that only asks the outside. -/
def SteadyAnswers.asked {α : Type} (x : SteadyAnswers) (p : Code α) : Except Stop α :=
  x.gives (Sys.blank fun _ => none) p

/-- The parameters of `Interface_GetParamBoolValue`. -/
def interfaceBoolParam (paramName : CStr) (e : DmlPppIfFull) : Option Bool :=
  if paramName = "Enable".toList then some e.cfg.bEnabled
  else if paramName = "IPCPEnable".toList then some e.cfg.bIPCPEnabled
  else if paramName = "IPv6CPEnable".toList then some e.cfg.bIPV6CPEnabled
  else if paramName = "Reset".toList then some false
  else none

/-- The parameters of `IPCP_GetParamBoolValue`. -/
def ipcpBoolParam (paramName : CStr) (e : DmlPppIfFull) : Option Bool :=
  if paramName = "PassthroughEnable".toList then some e.cfg.passthroughEnable else none

/-- The parameters of `Interface_GetParamUlongValue`. -/
def interfaceUlongParam (b : Build) (x : SteadyAnswers) (paramName : CStr) (e : DmlPppIfFull) :
    Except Stop (Option ULong) :=
  if paramName = "LastChange".toList then
    (x.asked getUptimeinSeconds).map fun uptime =>
      some (b.anscGetTimeIntervalInSeconds e.info.lastChange uptime)
  else if paramName = "CurrentMRUSize".toList then .ok (some (e.cfg.maxMRUSize.zeroExtend 64))
  else if (filledUlongParam paramName e).isSome then .ok (filledUlongParam paramName e.fillIfInfo)
  else .ok (plainUlongParam paramName e)

/-- What `get_session_id` reads for a link type. -/
def readSessionId : PppDmlLinkType → Code (Option ULong)
  | .pppoe => do
      match ← readFile "/proc/net/pppoe".toList with
      | none => pure none
      | some text => pure (pppoeSessionId (fgets 1023 text))
  | .pppoa => do
      let addr ← getPppIpAddr
      if addr = 0 then
        pure none
      else
        match ← readFile "/var/log/messages".toList with
        | none => pure none
        | some text => pure (pppoaSessionId (fgets 1023 text))
  | _ => pure none

/-- The parameters of `PPPoE_GetParamUlongValue`. -/
def pppoeUlongParam (x : SteadyAnswers) (paramName : CStr) (e : DmlPppIfFull) :
    Except Stop (Option ULong) :=
  if paramName = "SessionID".toList then
    (x.asked (readSessionId e.cfg.linkType)).map fun id => some (id.getD e.info.sessionID)
  else .ok none

/-- The parameters of `Stats_GetParamUlongValue`. -/
def statsParam (x : SteadyAnswers) (paramName : CStr) (e : DmlPppIfFull) :
    Except Stop (Option ULong) :=
  if e.info.name.length < 10 then
    (x.asked (cosaUtilGetIfStats e.info.name DmlIfStats.zero)).map fun r =>
      statsUlongParam paramName r.2
  else .error (.undefined .bufferOverflow)

/-- What a getter shows of an entry. -/
def Getter.ofEntry (b : Build) (x : SteadyAnswers) (e : DmlPppIfFull) :
    Getter → Except Stop (Option ParamValue)
  | .interfaceBool _ paramName => .ok ((interfaceBoolParam paramName e).map .bool)
  | .interfaceUlong _ paramName => (interfaceUlongParam b x paramName e).map (Option.map .ulong)
  | .interfaceString _ paramName => .ok ((interfaceStringParam paramName e).map .string)
  | .pppoeUlong _ paramName => (pppoeUlongParam x paramName e).map (Option.map .ulong)
  | .pppoeString _ paramName => .ok ((pppoeStringParam paramName e).map .string)
  | .ipcpBool _ paramName => .ok ((ipcpBoolParam paramName e).map .bool)
  | .ipcpString _ paramName => .ok ((ipcpStringParam paramName e).map .string)
  | .ipv6cpString _ paramName => (printedIdentifier paramName e).map (Option.map .string)
  | .statsUlong _ paramName => (statsParam x paramName e).map (Option.map .ulong)

section

variable {b : Build} {x : SteadyAnswers} {t : Thread} {i k : ℕ} {s : Sys} {paramName : CStr}

/-! ### Programs that only ask -/

/-- Questions to the host and to the bus depend on no state. -/
theorem asks_of_isHostQuery {o : Op} (ho : o.IsHostQuery ∨ ∃ c b n, o = .busGet c b n) :
  (machine t).Asks o
  := by
  intro x
  rcases ho with ho | ⟨c, b, n, rfl⟩
  · cases o with
    | undefined u => exact ⟨.error (.undefined u), fun _ => rfl⟩
    | _ => first | exact ⟨.ok x, fun _ => rfl⟩ | exact ho.elim
  · exact ⟨.ok x, fun _ => rfl⟩

/-- A program that only asks gives the same in every state. -/
theorem exec_asked {α : Type} {p : Code α} (hp : Only (machine .dataModel).Asks p) :
  ∃ k', (machine .dataModel).exec ((machine .dataModel).steady x) p k s =
    (x.asked p).map fun a => (a, s, k')
  := Machine.exec_steady hp k 0 s _

theorem asks_getUptimeinSeconds :
  Only (machine t).Asks getUptimeinSeconds
  := by
  apply only_getUptimeinSeconds
  · apply asks_of_isHostQuery (o := .undefined _) (.inl trivial)
  · apply asks_of_isHostQuery (.inr ⟨_, _, _, rfl⟩)

theorem asks_readSessionId (linkType : PppDmlLinkType) :
  Only (machine t).Asks (readSessionId linkType)
  := by
  have hread : ∀ path, (machine t).Asks (.readFile path) :=
    fun path => asks_of_isHostQuery (o := .readFile path) (.inl trivial)
  cases linkType with
  | pppoe =>
      apply only_bind (reads_op (hread _))
      rintro (_ | text) <;> apply only_pure
  | pppoa =>
      apply only_bind (only_getPppIpAddr fun _ ho => asks_of_isHostQuery (.inl ho.isHostQuery))
      intro addr
      apply only_ite
      · intro _
        apply only_pure
      · intro _
        apply only_bind (reads_op (hread _))
        rintro (_ | text) <;> apply only_pure
  | unset => apply only_pure
  | other v => apply only_pure

theorem asks_cosaUtilGetIfStats (ifname : CStr) (stats : DmlIfStats) :
  Only (machine t).Asks (cosaUtilGetIfStats ifname stats)
  := by
  apply only_bind
  · apply reads_op
    apply asks_of_isHostQuery (o := .readFile _) (.inl trivial)
  · rintro (_ | text) <;> apply only_pure

/-! ### What the getters show -/

/-- What a program gives is the value of a run from the first moment. -/
theorem gives_of_exec {α : Type} {p : Code α} {v : Except Stop α}
    (hp : ∃ s' k', (machine .dataModel).exec ((machine .dataModel).steady x) p 0 s =
      v.map fun a => (a, s', k')) :
  x.gives s p = v
  := by
  obtain ⟨s', k', hp⟩ := hp
  rw [SteadyAnswers.gives, Machine.gives, hp]
  cases v <;> rfl

/-- The fields that `get_session_id` stores to are not read by the getters of numbers but one. -/
theorem filledUlongParam_filled (paramName : CStr) (id : Option ULong) (e : DmlPppIfFull) :
  filledUlongParam paramName (e.filled id) = filledUlongParam paramName e.fillIfInfo
  := by
  cases id <;> rfl

theorem findSessionId_eq (i : ℕ) :
  findSessionId i = load i >>= fun e => readSessionId e.cfg.linkType
  := rfl

/-- `Interface_GetParamUlongValue` while it holds the mutex. -/
theorem exec_readUlongParam (hi : i < pppTableLength) (paramName : CStr) :
  ∃ s' k', s'.locks = s.locks ∧
    (machine .dataModel).exec ((machine .dataModel).steady x) (readUlongParam b i paramName) k s =
      (interfaceUlongParam b x paramName (s.table i)).map fun a => (a, s', k')
  := by
  obtain ⟨id, k', hfill⟩ := exec_pppDmlGetIfInfo (t := .dataModel)
    (ω := (machine .dataModel).steady x) (k := k + 1) (s := s) hi
  have hlast : (s.table i).info.lastChange = ((s.table i).filled id).info.lastChange := by
    cases id <;> rfl
  rw [readUlongParam, Machine.exec_bind, exec_load hi, interfaceUlongParam]
  dsimp only [Except.bind]
  split_ifs with hchange hmru hfilled
  · rw [Machine.exec_bind, hfill]
    dsimp only [Except.bind]
    rw [Machine.exec_bind, exec_load hi]
    dsimp only [Except.bind]
    obtain ⟨k₁, huptime⟩ := exec_asked (x := x) (k := k' + 1)
      (s := s.setEntry i ((s.table i).filled id)) asks_getUptimeinSeconds
    rw [Machine.exec_bind, huptime, Sys.setEntry_table, Function.update_self, ← hlast]
    use s.setEntry i ((s.table i).filled id), k₁, rfl
    cases x.asked getUptimeinSeconds <;> rfl
  · rw [Machine.exec_bind, hfill]
    dsimp only [Except.bind]
    rw [exec_store_bind hi, Machine.exec_bind, exec_load hi]
    dsimp only [Except.bind]
    rw [Sys.setEntry_setEntry, Sys.setEntry_table, Sys.setEntry_table, Function.update_self,
      Function.update_self]
    have hsize : ((s.table i).filled id).copyMRUSize.info.currentMRUSize =
        (s.table i).cfg.maxMRUSize := by
      cases id <;> rfl
    rw [hsize]
    exact ⟨s.setEntry i ((s.table i).filled id).copyMRUSize, _, rfl, rfl⟩
  · rw [Machine.exec_bind, hfill]
    dsimp only [Except.bind]
    rw [Machine.exec_bind, exec_load hi]
    dsimp only [Except.bind]
    rw [Sys.setEntry_table, Function.update_self, filledUlongParam_filled]
    exact ⟨s.setEntry i ((s.table i).filled id), _, rfl, rfl⟩
  · exact ⟨s, _, rfl, rfl⟩

theorem exec_interfaceGetParamUlongValue_eq (hi : i < pppTableLength) (hfree : s.locks i = []) :
  ∃ s' k', (machine .dataModel).exec ((machine .dataModel).steady x)
    (interfaceGetParamUlongValue b i paramName) k s =
      (interfaceUlongParam b x paramName (s.table i)).map fun a => (a, s', k')
  := exec_locked hi hfree (exec_readUlongParam hi paramName)

/-- `PPPDmlGetIfInfo` stores the session id that is read for the link type of the entry. -/
theorem exec_pppDmlGetIfInfo_steady (hi : i < pppTableLength) :
  ∃ k', (machine .dataModel).exec ((machine .dataModel).steady x) (pppDmlGetIfInfo i) k s =
    (x.asked (readSessionId (s.table i).cfg.linkType)).map fun id =>
      ((), s.setEntry i ((s.table i).filled id), k')
  := by
  have hcfg : ((s.setEntry i (s.table i).fillIfInfo).table i).cfg.linkType =
      (s.table i).cfg.linkType := by
    rw [Sys.setEntry_table, Function.update_self]
    rfl
  obtain ⟨k₁, hread⟩ := exec_asked (x := x) (k := k + 2) (s := s.setEntry i (s.table i).fillIfInfo)
    (asks_readSessionId (s.table i).cfg.linkType)
  rw [pppDmlGetIfInfo, exec_store_bind hi, getSessionId, findSessionId_eq, Machine.exec_bind,
    Machine.exec_bind, exec_load hi]
  dsimp only [Except.bind]
  rw [hcfg, hread]
  cases x.asked (readSessionId (s.table i).cfg.linkType) with
  | error e => exact ⟨0, rfl⟩
  | ok id =>
      dsimp only [Except.map, Except.bind]
      cases id with
      | none => exact ⟨k₁, rfl⟩
      | some id =>
          use k₁ + 1
          dsimp only
          rw [exec_store hi, Sys.setEntry_setEntry, Sys.setEntry_table, Function.update_self]
          rfl

theorem exec_pppoeGetParamUlongValue (hi : i < pppTableLength) (hfree : s.locks i = []) :
  ∃ s' k', (machine .dataModel).exec ((machine .dataModel).steady x)
    (pppoeGetParamUlongValue i paramName) k s =
      (pppoeUlongParam x paramName (s.table i)).map fun a => (a, s', k')
  := by
  rw [pppoeGetParamUlongValue_eq, pppoeUlongParam]
  apply exec_locked hi hfree
  split_ifs
  · obtain ⟨k₁, hfill⟩ := exec_pppDmlGetIfInfo_steady (x := x) (k := k + 1)
      (s := s.setLock i [.dataModel]) hi
    rw [Machine.exec_bind, hfill, Sys.setLock_table]
    cases x.asked (readSessionId (s.table i).cfg.linkType) with
    | error e => exact ⟨s.setLock i [.dataModel], 0, rfl, rfl⟩
    | ok id =>
        dsimp only [Except.map, Except.bind]
        use (s.setLock i [.dataModel]).setEntry i ((s.table i).filled id), k₁ + 1, rfl
        rw [Machine.exec_bind, exec_load hi]
        dsimp only [Except.bind]
        rw [Machine.exec_pure, Sys.setEntry_table, Function.update_self]
        cases id <;> rfl
  · exact ⟨s.setLock i [.dataModel], k + 1, rfl, rfl⟩

theorem exec_statsGetParamUlongValue (hi : i < pppTableLength) (hfree : s.locks i = []) :
  ∃ s' k', (machine .dataModel).exec ((machine .dataModel).steady x)
    (statsGetParamUlongValue i paramName) k s =
      (statsParam x paramName (s.table i)).map fun a => (a, s', k')
  := by
  have hown : ∀ t' ∈ s.locks i, t' = Thread.dataModel := owned_of_free hfree
  obtain ⟨k₁, hstats⟩ := exec_asked (x := x) (k := k + 1) (s := s)
    (asks_cosaUtilGetIfStats (s.table i).info.name DmlIfStats.zero)
  rw [statsGetParamUlongValue, pppDmlGetIfStats, Machine.exec_bind, Machine.exec_bind, exec_load hi,
    statsParam]
  dsimp only [Except.bind]
  split_ifs
  · rw [Machine.exec_bind, hstats]
    cases x.asked (cosaUtilGetIfStats (s.table i).info.name DmlIfStats.zero) with
    | error e => exact ⟨s, 0, rfl⟩
    | ok r =>
        dsimp only [Except.map, Except.bind]
        rw [Machine.exec_pure]
        dsimp only
        rw [Machine.exec_bind, exec_lock hi hown]
        dsimp only [Except.bind]
        rw [Machine.exec_bind, exec_unlock]
        · exact ⟨_, _, rfl⟩
        · rw [Sys.setLock_locks, Function.update_self]
  · exact ⟨s, 0, rfl⟩

/-- What a getter shows while the mutex of its entry is free depends on the entry alone. -/
theorem shown_eq (g : Getter) (hg : g.handle < pppTableLength) (hfree : s.locks g.handle = []) :
  g.shown b x s = g.ofEntry b x (s.table g.handle)
  := by
  cases g with
  | interfaceBool j paramName =>
      rw [Getter.handle] at hg hfree
      have hgives : x.gives s (interfaceGetParamBoolValue j paramName) = _ :=
        gives_of_exec (v := .ok _) (exec_locked_load hg hfree (interfaceBoolParam paramName))
      rw [Getter.shown, hgives]
      rfl
  | interfaceUlong j paramName =>
      rw [Getter.handle] at hg hfree
      rw [Getter.shown, gives_of_exec (exec_interfaceGetParamUlongValue_eq hg hfree)]
      rfl
  | interfaceString j paramName =>
      rw [Getter.handle] at hg hfree
      rw [Getter.shown, gives_of_exec (v := .ok _)
        (exec_interfaceGetParamStringValue hg hfree paramName)]
      rfl
  | pppoeUlong j paramName =>
      rw [Getter.handle] at hg hfree
      rw [Getter.shown, gives_of_exec (exec_pppoeGetParamUlongValue hg hfree)]
      rfl
  | pppoeString j paramName =>
      rw [Getter.handle] at hg hfree
      rw [Getter.shown, gives_of_exec (v := .ok _) (exec_pppoeGetParamStringValue hg hfree paramName)]
      rfl
  | ipcpBool j paramName =>
      rw [Getter.handle] at hg hfree
      have hgives : x.gives s (ipcpGetParamBoolValue j paramName) = _ :=
        gives_of_exec (v := .ok _) (exec_locked_load hg hfree (ipcpBoolParam paramName))
      rw [Getter.shown, hgives]
      rfl
  | ipcpString j paramName =>
      rw [Getter.handle] at hg hfree
      rw [Getter.shown, gives_of_exec (v := .ok _) (exec_ipcpGetParamStringValue hg hfree paramName)]
      rfl
  | ipv6cpString j paramName =>
      rw [Getter.handle] at hg hfree
      rw [Getter.shown, gives_of_exec (exec_ipv6cpGetParamStringValue hg hfree paramName)]
      rfl
  | statsUlong j paramName =>
      rw [Getter.handle] at hg hfree
      rw [Getter.shown, gives_of_exec (exec_statsGetParamUlongValue hg hfree)]
      rfl

end

end PppManager
