import PppManager.Manager.DataChanges

/-!
# What the data model does to an entry

The getters and setters of the data model take the mutex of an entry, work on that entry, and give
the mutex back.  `Op.OnEntry K W C i` states that an operation works on the entry `i` only; the bodies
of the getters and setters consist of such operations, but for the setters of `Enable` and `Reset`,
which make requests (`getter_bracket`, `setter_bracket`).
-/

namespace PppManager

open Effect Effect.Program CText

/-- A program between taking the mutex of the entry `i` and giving it back. -/
def bracket {α : Type} (i : ℕ) (p : Code α) : Code α := do
  lock i
  let r ← p
  unlock i
  pure r

/-- The operation takes and gives back no mutex, sends and takes no event, keeps the number of
interfaces, reads and writes no entry but `i`, with writes that satisfy `K`, asks the WAN manager only
if `W` holds, and runs a command only if `C` holds. -/
def Op.OnEntry (K : (DmlPppIfFull → DmlPppIfFull) → Prop) (W C : Prop) (i : ℕ) : Op → Prop
  | .load j => j = i
  | .store j f => j = i ∧ K f
  | .psmSet name _ => name ≠ psmPppManagerPppIfCount
  | .busGet component _ _ => component = wanComponentName → W
  | .generateDuidFile _ => True
  | .removeDuidFile _ => True
  | .system _ => C
  | .kill _ => True
  | .nnRecv => False
  | o => o.IsQuery

/-- Any write to an entry. -/
def AnyWrite (_ : DmlPppIfFull → DmlPppIfFull) : Prop := True

/-- No write to an entry. -/
def NoWrite (_ : DmlPppIfFull → DmlPppIfFull) : Prop := False

section

variable {K K' : (DmlPppIfFull → DmlPppIfFull) → Prop} {W C : Prop} {i : ℕ} {α β : Type}
  {b : Build}

theorem Op.OnEntry.storesNothing {o : Op} (ho : o.OnEntry NoWrite W C i) :
  o.StoresNothing
  := by
  cases o with
  | store j f => apply ho.2
  | _ => trivial

theorem Op.IsHostQuery.onEntry {o : Op} (ho : o.IsHostQuery) :
  o.OnEntry K W C i
  := by
  cases o <;> trivial

theorem bracket_map (p : Code α) (f : α → β) :
  f <$> bracket i p = bracket i (f <$> p)
  := by
  simp only [bracket, map_eq_pure_bind, LawfulMonad.bind_assoc, pure_bind]

theorem local_load :
  Only (Op.OnEntry K W C i) (load i)
  := reads_op (P := Op.OnEntry K W C i) (o := .load i) rfl

theorem local_store {f : DmlPppIfFull → DmlPppIfFull} (hf : K f) :
  Only (Op.OnEntry K W C i) (store i f)
  := reads_op (P := Op.OnEntry K W C i) (o := .store i f) ⟨rfl, hf⟩

/-! ### Getters -/

theorem pandm_ne_wan :
  pandmComponentName ≠ wanComponentName
  := by
  apply mt String.toList_injective
  decide +kernel

theorem local_getUptimeinSeconds :
  Only (Op.OnEntry K W C i) getUptimeinSeconds
  := only_getUptimeinSeconds trivial (fun h => absurd h pandm_ne_wan)

theorem local_pppDmlGetIfInfo :
  Only (Op.OnEntry AnyWrite W C i) (pppDmlGetIfInfo i)
  := by
  apply only_bind (local_store trivial)
  intro _
  apply only_bind (only_findSessionId (fun _ ho => ho.isHostQuery.onEntry) rfl)
  rintro (_ | id)
  · apply only_pure
  · apply local_store trivial

/-- `PPPDmlGetIfInfo` before a read of the entry. -/
theorem local_filled (f : DmlPppIfFull → α) :
  Only (Op.OnEntry AnyWrite W C i) (do pppDmlGetIfInfo i; let e ← load i; pure (f e))
  := by
  apply only_bind local_pppDmlGetIfInfo
  intro _
  apply only_bind local_load
  intro e
  apply only_pure

theorem local_readUlongParam (paramName : CStr) :
  Only (Op.OnEntry AnyWrite W C i) (readUlongParam b i paramName)
  := by
  apply only_bind local_load
  intro pEntry
  split_ifs
  · apply only_bind local_pppDmlGetIfInfo
    intro _
    apply only_bind local_load
    intro pEntry
    apply only_bind local_getUptimeinSeconds
    intro uptime
    apply only_pure
  · apply only_bind local_pppDmlGetIfInfo
    intro _
    apply only_bind (local_store trivial)
    intro _
    apply only_bind local_load
    intro pEntry
    apply only_pure
  · apply local_filled
  · apply only_pure

theorem local_readStringParam (paramName : CStr) :
  Only (Op.OnEntry AnyWrite W C i) (readStringParam i paramName)
  := by
  apply only_bind local_load
  intro pEntry
  split_ifs
  · apply only_pure
  · apply local_filled
  · apply only_pure
  · apply only_pure
  · apply only_pure
  · apply only_pure

theorem local_sprintfNoArgs (format : CStr) :
  Only (Op.OnEntry K W C i) (sprintfNoArgs format)
  := by
  apply only_ite
  · intro _
    apply only_pure
  · intro _
    apply reads_undefined trivial

theorem local_readIpv6cpStringParam (paramName : CStr) :
  Only (Op.OnEntry AnyWrite W C i) (readIpv6cpStringParam i paramName)
  := by
  apply only_bind local_pppDmlGetIfInfo
  intro _
  apply only_bind local_load
  intro pEntry
  split_ifs
  · apply only_bind (local_sprintfNoArgs _)
    intro pValue
    apply only_pure
  · apply only_bind (local_sprintfNoArgs _)
    intro pValue
    apply only_pure
  · apply only_pure

/-- A getter that looks at the entry only. -/
theorem look_eq (f : DmlPppIfFull → α) :
  (do lock i; let e ← load i; unlock i; pure (f e)) = bracket i (do let e ← load i; pure (f e))
  := by
  simp only [bracket, LawfulMonad.bind_assoc, pure_bind]

theorem local_look (f : DmlPppIfFull → α) :
  Only (Op.OnEntry AnyWrite W C i) (do let e ← load i; pure (f e))
  := by
  apply only_bind local_load
  intro e
  apply only_pure

theorem pppoeGetParamUlongValue_eq (paramName : CStr) :
  pppoeGetParamUlongValue i paramName = bracket i
    (if paramName = "SessionID".toList then do
      pppDmlGetIfInfo i
      let pEntry ← load i
      pure (some pEntry.info.sessionID)
    else pure none)
  := by
  rw [pppoeGetParamUlongValue, bracket]
  congr 1
  funext _
  split_ifs
  · simp only [LawfulMonad.bind_assoc, pure_bind]
  · rfl

theorem ipcpGetParamStringValue_eq (paramName : CStr) :
  ipcpGetParamStringValue i paramName = bracket i (do
    pppDmlGetIfInfo i
    let pEntry ← load i
    pure (ipcpStringParam paramName pEntry))
  := by
  simp only [ipcpGetParamStringValue, bracket, LawfulMonad.bind_assoc, pure_bind]

end

/-- The getter reads the counters of the interface, before it takes the mutex. -/
def Getter.readsStats : Getter → Bool
  | .statsUlong _ _ => true
  | _ => false

/-- The getters work on their entry, with its mutex held. -/
theorem getter_bracket {b : Build} {W C : Prop} {g : Getter} (hg : g.readsStats = false) :
  ∃ p : Code Unit, g.code b = bracket g.handle p ∧ Only (Op.OnEntry AnyWrite W C g.handle) p ∧
    ChangesData p
  := by
  have hmap : ∀ {α : Type} {i : ℕ} {p : Code α}, Only (Op.OnEntry AnyWrite W C i) p →
      ChangesData p → ∃ q : Code Unit, (fun _ => ()) <$> bracket i p = bracket i q ∧
        Only (Op.OnEntry AnyWrite W C i) q ∧ ChangesData q := by
    intro α i p hp hchanges
    exact ⟨_, bracket_map p _, only_map hp, hchanges.map _⟩
  cases g with
  | interfaceBool i paramName =>
      rw [Getter.code, interfaceGetParamBoolValue, look_eq]
      apply hmap (local_look _) (changesData_look _)
  | pppoeString i paramName =>
      rw [Getter.code, pppoeGetParamStringValue, look_eq]
      apply hmap (local_look _) (changesData_look _)
  | ipcpBool i paramName =>
      rw [Getter.code, ipcpGetParamBoolValue, look_eq]
      apply hmap (local_look _) (changesData_look _)
  | interfaceUlong i paramName =>
      apply hmap (local_readUlongParam paramName) changesData_readUlongParam
  | interfaceString i paramName =>
      apply hmap (local_readStringParam paramName) changesData_readStringParam
  | ipv6cpString i paramName =>
      apply hmap (local_readIpv6cpStringParam paramName) changesData_readIpv6cpStringParam
  | pppoeUlong i paramName =>
      rw [Getter.code, pppoeGetParamUlongValue_eq]
      apply hmap
      · split_ifs
        · apply local_filled
        · apply only_pure
      · split_ifs
        · apply changesData_filled
        · apply changesData_pure
  | ipcpString i paramName =>
      rw [Getter.code, ipcpGetParamStringValue_eq]
      apply hmap (local_filled _) (changesData_filled _)
  | statsUlong => cases hg

/-! ### Setters -/

section

variable {K : (DmlPppIfFull → DmlPppIfFull) → Prop} {W C : Prop} {i : ℕ} {α : Type} {b : Build}

/-- A write to the entry `i` in a setter. -/
theorem local_write {f : DmlPppIfFull → DmlPppIfFull} (hf : K f) {v : Bool} :
  Only (Op.OnEntry K W C i) (do store i f; pure v)
  := by
  apply only_bind (local_store hf)
  intro _
  apply only_pure

/-- A copy to an array of the entry `i` in a setter. -/
theorem local_copy {size : ℕ} {set : CStr → DmlPppIfFull → DmlPppIfFull} {pString : CStr}
    {v : Bool} :
  Only (Op.OnEntry AnyWrite W C i) (do anscCopyString i size set pString; pure v)
  := by
  apply only_bind
  · apply only_ite
    · intro _
      apply local_store trivial
    · intro _
      apply reads_undefined trivial
  · intro _
    apply only_pure

theorem local_writeUlongParam {paramName : CStr} (hC : paramName = "AutoDisconnectTime".toList → C)
    (uValue : ULong) :
  Only (Op.OnEntry AnyWrite W C i) (writeUlongParam i paramName uValue)
  := by
  rw [writeUlongParam]
  split_ifs with hdelay
  · apply only_bind (local_store trivial)
    intro _
    apply only_bind (reads_op (P := Op.OnEntry AnyWrite W C i) (o := .system _) (hC hdelay))
    intro _
    apply only_pure
  · apply local_write trivial
  · apply local_write trivial
  · apply local_write trivial
  · apply local_write trivial
  · apply local_write trivial
  · apply only_pure

theorem local_writeStringParam (paramName pString : CStr) :
  Only (Op.OnEntry AnyWrite W C i) (writeStringParam i paramName pString)
  := by
  rw [writeStringParam]
  split_ifs
  · apply local_copy
  · apply local_copy
  · apply only_pure
  · apply local_copy
  · apply only_pure
  · apply only_pure
  · apply local_copy
  · apply only_pure

theorem local_writePppoeStringParam (paramName pString : CStr) :
  Only (Op.OnEntry AnyWrite W C i) (writePppoeStringParam i paramName pString)
  := by
  rw [writePppoeStringParam]
  split_ifs
  · apply local_copy
  · apply local_copy
  · apply only_pure

theorem local_writeIpcpStringParam (paramName pString : CStr) :
  Only (Op.OnEntry AnyWrite W C i) (writeIpcpStringParam i paramName pString)
  := by
  rw [writeIpcpStringParam]
  split_ifs
  · apply local_copy
  · apply only_pure

/-- The setters of `IPCPEnable` and `IPv6CPEnable`. -/
theorem local_writeBoolParam {paramName : CStr} (henable : paramName ≠ "Enable".toList)
    (hreset : paramName ≠ "Reset".toList) (bValue : Bool) :
  Only (Op.OnEntry AnyWrite W C i) (writeBoolParam b i paramName bValue)
  := by
  rw [writeBoolParam, if_neg henable, if_neg hreset]
  split_ifs
  · apply local_write trivial
  · apply local_write trivial
  · apply only_pure

theorem ipcpSetParamBoolValue_eq (paramName : CStr) (bValue : Bool) :
  ipcpSetParamBoolValue i paramName bValue = bracket i
    (if paramName = "PassthroughEnable".toList then do
      store i (fun e => { e with cfg := { e.cfg with passthroughEnable := bValue } })
      pure true
    else pure false)
  := by
  rw [ipcpSetParamBoolValue, bracket]
  congr 1
  funext _
  split_ifs
  · simp only [LawfulMonad.bind_assoc, pure_bind]
  · rfl

/-! ### Records -/

/-- The names of the records of interfaces start alike, and that of their number does not. -/
theorem recordName_ne_count {name rest : CStr} (hname : name = "dmsb.pppmanager.if".toList ++ rest)
    (n : ℕ) :
  recordName name n ≠ psmPppManagerPppIfCount
  := by
  intro h
  have hrecord : (recordName name n)[16]? = some 'i' := by
    obtain rfl := hname
    rfl
  have hcount : psmPppManagerPppIfCount[16]? = some 'p' := by
    decide +kernel
  rw [h, hcount] at hrecord
  cases hrecord

theorem local_setParamFromPSM (pEntry : DmlPppIfCfg) :
  Only (Op.OnEntry K W C i) (setParamFromPSM b pEntry)
  := by
  have hset : ∀ {name rest : CStr} (n : ℕ) (value : CStr),
      name = "dmsb.pppmanager.if".toList ++ rest →
      Only (Op.OnEntry K W C i) (setParamValuesToDB (recordName name n) value) := by
    intro name rest n value hname
    exact reads_op (P := Op.OnEntry K W C i) (o := .psmSet _ _) (recordName_ne_count hname n)
  apply only_bind (hset _ _ rfl)
  intro _
  apply only_bind (hset _ _ rfl)
  intro _
  apply only_ite
  · intro _
    apply only_bind (hset _ _ rfl)
    intro _
    apply only_bind (hset _ _ rfl)
    intro _
    apply only_pure
  · intro _
    apply only_pure

theorem commitEntry_eq :
  commitEntry b i = bracket i (do let pEntry ← load i; pppDmlSetIfCfg b pEntry.cfg)
  := by
  rw [commitEntry, bracket]
  congr 1

theorem local_commit :
  Only (Op.OnEntry K W C i) (do let pEntry ← load i; pppDmlSetIfCfg b pEntry.cfg)
  := by
  apply only_bind local_load
  intro pEntry
  apply local_setParamFromPSM

end

/-- The setter makes a request. -/
def Setter.isRequest : Setter → Bool
  | .interfaceBool _ paramName _ => paramName = "Enable".toList || paramName = "Reset".toList
  | _ => false

/-- The setter sets `AutoDisconnectTime`, the only one that runs a command. -/
def Setter.setsAutoDisconnectTime : Setter → Bool
  | .interfaceUlong _ paramName _ => paramName = "AutoDisconnectTime".toList
  | _ => false

/-- The setters, and the functions that commit and roll back, work on their entry, with its mutex
held. -/
theorem setter_bracket {b : Build} {W C : Prop} {w : Setter} (hw : w.isRequest = false)
    (hC : w.setsAutoDisconnectTime = true → C) :
  ∃ p : Code Bool, w.code b = bracket w.handle p ∧ Only (Op.OnEntry AnyWrite W C w.handle) p ∧
    ChangesData p
  := by
  have hcommit : ∀ {i : ℕ}, ∃ p : Code Bool, (fun _ => true) <$> commitEntry b i = bracket i p ∧
      Only (Op.OnEntry AnyWrite W C i) p ∧ ChangesData p := by
    intro i
    rw [commitEntry_eq]
    have hcommit : Only (Op.OnEntry NoWrite W C i)
        (do let pEntry ← load i; pppDmlSetIfCfg b pEntry.cfg) := local_commit
    exact ⟨_, bracket_map _ _, only_map local_commit,
      (changesData_reads (hcommit.mono fun _ => Op.OnEntry.storesNothing)).map _⟩
  have hrollback : ∀ {i : ℕ}, ∃ p : Code Bool, (fun _ => true) <$> rollbackEntry i = bracket i p ∧
      Only (Op.OnEntry AnyWrite W C i) p ∧ ChangesData p := by
    intro i
    use pure true
    exact ⟨rfl, only_pure _, changesData_pure _⟩
  cases w with
  | interfaceBool i paramName bValue =>
      obtain ⟨henable, hreset⟩ := Bool.or_eq_false_iff.mp hw
      exact ⟨_, rfl, local_writeBoolParam (of_decide_eq_false henable)
        (of_decide_eq_false hreset) bValue, changesData_writeBoolParam (of_decide_eq_false henable)
        (of_decide_eq_false hreset)⟩
  | interfaceUlong i paramName uValue =>
      have hdelay : paramName = "AutoDisconnectTime".toList → C :=
        fun hname => hC (decide_eq_true hname)
      exact ⟨_, rfl, local_writeUlongParam hdelay uValue, changesData_writeUlongParam⟩
  | interfaceString i paramName pString =>
      exact ⟨_, rfl, local_writeStringParam paramName pString, changesData_writeStringParam⟩
  | pppoeString i paramName pString =>
      exact ⟨_, rfl, local_writePppoeStringParam paramName pString,
        changesData_writePppoeStringParam⟩
  | ipcpString i paramName pString =>
      exact ⟨_, rfl, local_writeIpcpStringParam paramName pString, changesData_writeIpcpStringParam⟩
  | ipcpBool i paramName bValue =>
      rw [Setter.code, ipcpSetParamBoolValue_eq]
      refine ⟨_, rfl, ?_, changesData_writeIpcpBoolParam⟩
      split_ifs
      · apply local_write trivial
      · apply only_pure
  | interfaceCommit | pppoeCommit | ipcpCommit => apply hcommit
  | interfaceRollback | pppoeRollback | ipcpRollback => apply hrollback

end PppManager
