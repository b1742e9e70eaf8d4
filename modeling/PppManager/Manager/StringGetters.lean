import PppManager.Manager.Ipv6cpParams

/-!
# String getters

A string getter is told how long the buffer of its caller is.  Its header says that it returns 1 and
the size it needs where the buffer is short, and -1 for a name that it does not have.  None of the
four looks at the size, `PPPoE_GetParamStringValue` returns 0 for every name, and
`IPv6CP_GetParamStringValue` prints its text as a format: `meetsHeader_iff` says when what the header
promises comes out all the same.
-/

namespace PppManager

open Effect CText

/-! ### The getters with the buffer of their caller -/

/-- What a string getter leaves its caller: what it returns, what it wrote to the buffer, and the
size. -/
structure StringAnswer where
  ret : ULong
  pValue : Option CStr
  ulSize : ULong

/-- A string getter on a buffer of `ulSize` bytes: `retStatus` is what it returns where it writes
nothing. -/
def fillBuffer (retStatus : BitVec 32) (ulSize : ULong) (value : Code (Option CStr)) :
    Code StringAnswer := do
  match ← value with
  | none => pure ⟨retStatus.zeroExtend 64, none, ulSize⟩
  | some text =>
      if text.length < ulSize.toNat then pure ⟨0, some text, ulSize⟩
      else undefined .bufferOverflow

/-- The objects that have a string getter. -/
inductive StringObject
  | interface
  | pppoe
  | ipcp
  | ipv6cp
  deriving DecidableEq

/-- What the string getter of an object returns where it writes nothing. -/
def StringObject.retStatus : StringObject → BitVec 32
  | .interface => -1
  | .pppoe => 0
  | .ipcp => -1
  | .ipv6cp => -1

/-- What the string getter of an object writes. -/
def StringObject.written (i : ℕ) (paramName : CStr) : StringObject → Code (Option CStr)
  | .interface => interfaceGetParamStringValue i paramName
  | .pppoe => pppoeGetParamStringValue i paramName
  | .ipcp => ipcpGetParamStringValue i paramName
  | .ipv6cp => ipv6cpGetParamStringValue i paramName

/-- The string getter of an object, on the entry `i`. -/
def StringObject.getParamStringValue (i : ℕ) (paramName : CStr) (ulSize : ULong)
    (obj : StringObject) : Code StringAnswer :=
  fillBuffer obj.retStatus ulSize (obj.written i paramName)

/-! ### What the headers say -/

/-- The parameters of `Interface_GetParamStringValue`. -/
def interfaceStringParam (paramName : CStr) (e : DmlPppIfFull) : Option CStr :=
  if paramName = "Alias".toList then some e.cfg.ifAlias
  else if paramName = "Name".toList then some e.info.name
  else if paramName = "LowerLayers".toList then some e.cfg.lowerLayers
  else if paramName = "Username".toList then some e.cfg.username
  else if paramName = "Password".toList then some []
  else none

/-- The parameters of `PPPoE_GetParamStringValue`. -/
def pppoeStringParam (paramName : CStr) (e : DmlPppIfFull) : Option CStr :=
  if paramName = "ACName".toList then some e.cfg.acName
  else if paramName = "ServiceName".toList then some e.cfg.serviceName
  else none

/-- The value of a parameter of an object, if the object has it. -/
def StringObject.value (paramName : CStr) (e : DmlPppIfFull) : StringObject → Option CStr
  | .interface => interfaceStringParam paramName e
  | .pppoe => pppoeStringParam paramName e
  | .ipcp => ipcpStringParam paramName e
  | .ipv6cp => ipv6cpIdentifier paramName e

/-- The -1 of the headers, in the `uint32_t` the getters keep it in. -/
def notSupported : ULong := (-1 : BitVec 32).zeroExtend 64

/-- The answer that the header of a string getter promises for a value and a buffer. -/
def Promised (value : Option CStr) (ulSize : ULong) (a : StringAnswer) : Prop :=
  match value with
  | none => a.ret = notSupported ∧ a.pValue = none
  | some text =>
      if text.length < ulSize.toNat then a.ret = 0 ∧ a.pValue = some text
      else a.ret = 1 ∧ a.ulSize.toNat = text.length + 1 ∧ ∀ v ∈ a.pValue, v.length < ulSize.toNat

/-- A program leaves its caller the answer that is promised for a value. -/
def Answers.Promises (ω : Answers) (k : ℕ) (s : Sys) (value : Option CStr) (ulSize : ULong)
    (p : Code StringAnswer) : Prop :=
  ∃ a s' k', (machine .dataModel).exec ω p k s = .ok (a, s', k') ∧ Promised value ulSize a

/-- The getter of an object does for the entry `i` what its header says. -/
def MeetsHeader (ω : Answers) (k : ℕ) (s : Sys) (i : ℕ) (paramName : CStr) (ulSize : ULong)
    (obj : StringObject) : Prop :=
  Answers.Promises ω k s (obj.value paramName (s.table i)) ulSize
    (obj.getParamStringValue i paramName ulSize)

section

variable {t : Thread} {ω : Answers} {i k : ℕ} {s : Sys} {paramName : CStr} {ulSize : ULong}

/-! ### Reading the values -/

/-- `Name` is not among the fields that `PPPDmlGetIfInfo` writes. -/
theorem name_filled (id : Option ULong) (e : DmlPppIfFull) :
  (e.filled id).info.name = e.info.name
  := by
  cases id <;> rfl

theorem exec_readStringParam (hi : i < pppTableLength) (paramName : CStr) :
  ∃ s' k', s'.locks = s.locks ∧ (machine t).exec ω (readStringParam i paramName) k s =
    .ok (interfaceStringParam paramName (s.table i), s', k')
  := by
  rw [readStringParam, Machine.exec_bind, exec_load hi, interfaceStringParam]
  dsimp only [Except.bind]
  split_ifs with halias hname
  · exact ⟨_, _, rfl, rfl⟩
  · obtain ⟨id, k', hfill⟩ := exec_pppDmlGetIfInfo (t := t) (ω := ω) (k := k + 1) (s := s) hi
    rw [Machine.exec_bind, hfill]
    dsimp only [Except.bind]
    rw [Machine.exec_bind, exec_load hi]
    dsimp only [Except.bind]
    rw [Sys.setEntry_table, Function.update_self, name_filled]
    exact ⟨s.setEntry i ((s.table i).filled id), _, rfl, rfl⟩
  all_goals exact ⟨_, _, rfl, rfl⟩

/-- `Interface_GetParamStringValue` gives the value of the parameter. -/
theorem exec_interfaceGetParamStringValue (hi : i < pppTableLength) (hfree : s.locks i = [])
    (paramName : CStr) :
  ∃ s' k', (machine t).exec ω (interfaceGetParamStringValue i paramName) k s =
    .ok (interfaceStringParam paramName (s.table i), s', k')
  := exec_locked (v := .ok _) hi hfree (exec_readStringParam hi paramName)

/-- `PPPoE_GetParamStringValue` gives the value of the parameter. -/
theorem exec_pppoeGetParamStringValue (hi : i < pppTableLength) (hfree : s.locks i = [])
    (paramName : CStr) :
  ∃ s' k', (machine t).exec ω (pppoeGetParamStringValue i paramName) k s =
    .ok (pppoeStringParam paramName (s.table i), s', k')
  := exec_locked_load hi hfree (pppoeStringParam paramName)

/-! ### The buffer -/

/-- A value that a getter gives is written where it fits. -/
theorem exec_fillBuffer (retStatus : BitVec 32) (ulSize : ULong) {value : Option CStr}
    {p : Code (Option CStr)} {s' : Sys} {k' : ℕ} :
  (machine t).exec ω p k s = .ok (value, s', k') →
    (machine t).exec ω (fillBuffer retStatus ulSize p) k s =
      match value with
      | none => .ok (⟨retStatus.zeroExtend 64, none, ulSize⟩, s', k')
      | some text =>
          if text.length < ulSize.toNat then .ok (⟨0, some text, ulSize⟩, s', k')
          else .error (.undefined .bufferOverflow)
  := by
  intro hp
  rw [fillBuffer, Machine.exec_bind, hp]
  dsimp only [Except.bind]
  cases value with
  | none => rfl
  | some text =>
      dsimp only
      split_ifs <;> rfl

/-- A name the object does not have is answered as promised exactly if the getter starts with
`retStatus` -1. -/
theorem promises_none {retStatus : BitVec 32} {p : Code (Option CStr)} {s' : Sys} {k' : ℕ}
    (hp : (machine .dataModel).exec ω p k s = .ok (none, s', k')) :
  Answers.Promises ω k s none ulSize (fillBuffer retStatus ulSize p) ↔
    retStatus.zeroExtend 64 = notSupported
  := by
  have hfill := exec_fillBuffer retStatus ulSize hp
  rw [Answers.Promises, hfill]
  constructor
  · rintro ⟨a, s₁, k₁, h, hret, -⟩
    obtain ⟨rfl, -⟩ := Prod.mk.inj (Except.ok.inj h)
    apply hret
  · intro hret
    exact ⟨_, _, _, rfl, hret, rfl⟩

/-- What a getter gives is what is promised exactly if it is the value, and the value fits. -/
theorem promises_some {retStatus : BitVec 32} {p : Code (Option CStr)} {text v : CStr} {s' : Sys}
    {k' : ℕ} (hp : (machine .dataModel).exec ω p k s = .ok (some text, s', k')) :
  Answers.Promises ω k s (some v) ulSize (fillBuffer retStatus ulSize p) ↔
    text = v ∧ v.length < ulSize.toNat
  := by
  have hfill := exec_fillBuffer retStatus ulSize hp
  rw [Answers.Promises, hfill]
  constructor
  · rintro ⟨a, s₁, k₁, h, hpromised⟩
    dsimp only at h
    split_ifs at h with htext
    obtain ⟨rfl, -⟩ := Prod.mk.inj (Except.ok.inj h)
    rw [Promised] at hpromised
    split_ifs at hpromised with hv
    · exact ⟨Option.some.inj hpromised.2, hv⟩
    · cases hpromised.1
  · rintro ⟨rfl, hlt⟩
    dsimp only
    rw [if_pos hlt]
    refine ⟨_, _, _, rfl, ?_⟩
    rw [Promised, if_pos hlt]
    exact ⟨rfl, rfl⟩

/-- An identifier is given as promised exactly if it fits and has no directive. -/
theorem promises_ipv6cp (hi : i < pppTableLength) (hfree : s.locks i = []) {v : CStr}
    (hv : ipv6cpIdentifier paramName (s.table i) = some v) :
  Answers.Promises ω k s (some v) ulSize
      (StringObject.getParamStringValue i paramName ulSize .ipv6cp) ↔
    v.length < ulSize.toNat ∧ '%' ∉ v
  := by
  obtain ⟨s', k', hexec⟩ := exec_ipv6cpGetParamStringValue (t := .dataModel) (ω := ω) (k := k) hi hfree
    paramName
  rw [printedIdentifier, hv] at hexec
  dsimp only at hexec
  rw [StringObject.getParamStringValue, StringObject.written, ← printf_nil_eq_self_iff]
  split_ifs at hexec with hdefined
  · rw [promises_some hexec, and_iff_right hdefined, and_comm]
  · apply iff_of_false
    · rintro ⟨a, s₁, k₁, h, -⟩
      rw [fillBuffer, Machine.exec_bind, hexec] at h
      cases h
    · rintro ⟨-, h, -⟩
      apply hdefined h

/-- When an object answers as its header says: a name that it does not have, if it is not PPPoE, and a
value that fits in the buffer with its terminator, which for IPv6CP has no percent sign. -/
def StringObject.Answerable (paramName : CStr) (e : DmlPppIfFull) (ulSize : ULong)
    (obj : StringObject) : Prop :=
  match obj.value paramName e with
  | none => obj ≠ .pppoe
  | some text => text.length < ulSize.toNat ∧ (obj = .ipv6cp → '%' ∉ text)

/-- A getter writes the value, unless it is an identifier that is printed. -/
theorem exec_written (hi : i < pppTableLength) (hfree : s.locks i = []) {obj : StringObject}
    (hplain : obj = .ipv6cp → obj.value paramName (s.table i) = none) :
  ∃ s' k', (machine t).exec ω (obj.written i paramName) k s =
    .ok (obj.value paramName (s.table i), s', k')
  := by
  cases obj with
  | interface => apply exec_interfaceGetParamStringValue hi hfree
  | pppoe => apply exec_pppoeGetParamStringValue hi hfree
  | ipcp => apply exec_ipcpGetParamStringValue hi hfree
  | ipv6cp =>
      obtain ⟨s', k', hexec⟩ := exec_ipv6cpGetParamStringValue (t := t) (ω := ω) (k := k) hi hfree
        paramName
      have hnone := hplain rfl
      rw [StringObject.value] at hnone ⊢
      rw [printedIdentifier, hnone] at hexec
      rw [hnone]
      exact ⟨s', k', hexec⟩

/-- Of the four objects, PPPoE starts with another `retStatus`. -/
theorem retStatus_eq_notSupported_iff (obj : StringObject) :
  obj.retStatus.zeroExtend 64 = notSupported ↔ obj ≠ .pppoe
  := by
  cases obj <;> decide

/-- A string getter does what its header says exactly for the names and values that are answerable. -/
theorem meetsHeader_iff (obj : StringObject) (hi : i < pppTableLength) (hfree : s.locks i = []) :
  MeetsHeader ω k s i paramName ulSize obj ↔ obj.Answerable paramName (s.table i) ulSize
  := by
  rw [MeetsHeader, StringObject.Answerable]
  cases hv : obj.value paramName (s.table i) with
  | none =>
      obtain ⟨s', k', hexec⟩ := exec_written (t := .dataModel) (ω := ω) (k := k) hi hfree fun _ => hv
      rw [hv] at hexec
      rw [StringObject.getParamStringValue, promises_none hexec, retStatus_eq_notSupported_iff]
  | some v =>
      by_cases hobj : obj = .ipv6cp
      · subst hobj
        rw [promises_ipv6cp hi hfree hv]
        exact and_congr_right fun _ => ⟨fun h _ => h, fun h => h rfl⟩
      · obtain ⟨s', k', hexec⟩ := exec_written (t := .dataModel) (ω := ω) (k := k) hi hfree
          fun h => absurd h hobj
        rw [hv] at hexec
        rw [StringObject.getParamStringValue, promises_some hexec, and_iff_right rfl]
        exact ⟨fun h => ⟨h, fun heq => absurd heq hobj⟩, fun h => h.1⟩

end

/-! ### A short buffer, and a name that PPPoE does not have -/

theorem meetsHeader_iff_name :
  MeetsHeader (workingOutside 1 none []).answers 0 (freshState 1) 0 "Name".toList 1023 .interface ↔
    StringObject.Answerable "Name".toList ((freshState 1).table 0) 1023 .interface
  := by
  apply meetsHeader_iff
  · decide
  · rfl

/-- `Interface_GetParamStringValue` writes "ppp0" past the end of a buffer of four bytes, and
`PPPoE_GetParamStringValue` returns 0 for a name that it does not have. -/
theorem short_buffer_overflows :
  ¬ MeetsHeader (workingOutside 1 none []).answers 0 (freshState 1) 0 "Name".toList 4 .interface ∧
    ¬ MeetsHeader (workingOutside 1 none []).answers 0 (freshState 1) 0 "Nothing".toList 1023 .pppoe
  := by
  have hi : 0 < pppTableLength := by
    decide
  constructor
  · obtain ⟨s', k', hexec⟩ := exec_interfaceGetParamStringValue (t := .dataModel)
      (ω := (workingOutside 1 none []).answers) (k := 0) (s := freshState 1) hi rfl "Name".toList
    have hname : interfaceStringParam "Name".toList ((freshState 1).table 0) = some "ppp0".toList := by
      decide +kernel
    rw [hname] at hexec
    rw [MeetsHeader, StringObject.value, hname, StringObject.getParamStringValue,
      StringObject.written, promises_some hexec]
    decide
  · obtain ⟨s', k', hexec⟩ := exec_pppoeGetParamStringValue (t := .dataModel)
      (ω := (workingOutside 1 none []).answers) (k := 0) (s := freshState 1) hi rfl "Nothing".toList
    have hname : pppoeStringParam "Nothing".toList ((freshState 1).table 0) = none := by
      decide +kernel
    rw [hname] at hexec
    rw [MeetsHeader, StringObject.value, hname, StringObject.getParamStringValue,
      StringObject.written, promises_none hexec]
    decide

end PppManager
