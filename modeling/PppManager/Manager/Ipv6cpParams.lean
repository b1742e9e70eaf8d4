import PppManager.Manager.IpcpParams

/-!
# The identifiers of a session

The interface identifiers a client reports are stored as they are, and `IPv6CP_GetParamStringValue`
prints them: it takes the stored text for a format.  So an identifier is given back as it was reported
exactly if it has no directive in it (`readsBack_iff`).
-/

namespace PppManager

open Effect CText

/-- The identifier a parameter of IPv6CP is read from. -/
def ipv6cpIdentifier (paramName : CStr) (e : DmlPppIfFull) : Option CStr :=
  if paramName = "LocalInterfaceIdentifier".toList then some e.info.ip6LocalIfID
  else if paramName = "RemoteInterfaceIdentifier".toList then some e.info.ip6RemoteIfID
  else none

/-- What `IPv6CP_GetParamStringValue` gives: an identifier, printed as a format without arguments. -/
def printedIdentifier (paramName : CStr) (e : DmlPppIfFull) : Except Stop (Option CStr) :=
  match ipv6cpIdentifier paramName e with
  | none => .ok none
  | some v => if printfDefined v [] then .ok (some (printf v [])) else .error (.undefined .badFormat)

/-- An identifier a message can have: a text that is not empty, with room for it in the entry. -/
structure IsIdentifier (v : CStr) : Prop where
  ne_nil : v ≠ []
  length_le : v.length ≤ 45

/-- `IPv6CP_GetParamStringValue` gives a text. -/
def Gives (ω : Answers) (k : ℕ) (s : Sys) (i : ℕ) (paramName value : CStr) : Prop :=
  ∃ s' k', (machine .dataModel).exec ω (ipv6cpGetParamStringValue i paramName) k s =
    .ok (some value, s', k')

/-- The identifiers of a message are given as they were reported. -/
structure ReadsBack (ω : Answers) (k : ℕ) (s : Sys) (i : ℕ) (msg : PppIpv6cpMsg) : Prop where
  localIntfId : Gives ω k s i "LocalInterfaceIdentifier".toList msg.localIntfId
  remoteIntfId : Gives ω k s i "RemoteInterfaceIdentifier".toList msg.remoteIntfId

section

variable {t : Thread} {b : Build} {ω : Answers} {i k k' : ℕ} {s s' : Sys}

/-! ### Reading the identifiers -/

/-- What is left of a read when its text is printed. -/
theorem exec_sprintfNoArgs (v : CStr) :
  (machine t).exec ω (sprintfNoArgs v) k s =
    if printfDefined v [] then .ok (printf v [], s, k) else .error (.undefined .badFormat)
  := by
  rw [sprintfNoArgs]
  split_ifs <;> rfl

/-- The fields that `PPPDmlGetIfInfo` writes are not among the parameters of IPv6CP. -/
theorem ipv6cpIdentifier_filled (paramName : CStr) (id : Option ULong) (e : DmlPppIfFull) :
  ipv6cpIdentifier paramName (e.filled id) = ipv6cpIdentifier paramName e
  := by
  cases id <;> rfl

/-- What `IPv6CP_GetParamStringValue` reads while it holds the mutex. -/
theorem exec_readIpv6cpStringParam (hi : i < pppTableLength) (paramName : CStr) :
  ∃ s' k', s'.locks = s.locks ∧ (machine t).exec ω (readIpv6cpStringParam i paramName) k s =
    (printedIdentifier paramName (s.table i)).map fun a => (a, s', k')
  := by
  obtain ⟨id, k', hfill⟩ := exec_pppDmlGetIfInfo (t := t) (ω := ω) (k := k) (s := s) hi
  use s.setEntry i ((s.table i).filled id), k' + 1, rfl
  have hprint : ∀ v, (machine t).exec ω (sprintfNoArgs v >>= fun pValue => pure (some pValue)) (k' + 1)
      (s.setEntry i ((s.table i).filled id)) =
        (if printfDefined v [] then .ok (some (printf v []))
          else .error (.undefined .badFormat) : Except Stop (Option CStr)).map
            fun a => (a, s.setEntry i ((s.table i).filled id), k' + 1) := by
    intro v
    rw [Machine.exec_bind, exec_sprintfNoArgs]
    split_ifs <;> rfl
  rw [readIpv6cpStringParam, Machine.exec_bind, hfill]
  dsimp only [Except.bind]
  rw [Machine.exec_bind, exec_load hi]
  dsimp only [Except.bind]
  rw [Sys.setEntry_table, Function.update_self, printedIdentifier, ← ipv6cpIdentifier_filled paramName id,
    ipv6cpIdentifier]
  split_ifs
  · apply hprint
  · apply hprint
  · rfl

/-- `IPv6CP_GetParamStringValue` prints an identifier. -/
theorem exec_ipv6cpGetParamStringValue (hi : i < pppTableLength) (hfree : s.locks i = [])
    (paramName : CStr) :
  ∃ s' k', (machine t).exec ω (ipv6cpGetParamStringValue i paramName) k s =
    (printedIdentifier paramName (s.table i)).map fun a => (a, s', k')
  := exec_locked hi hfree (exec_readIpv6cpStringParam hi paramName)

/-- An identifier is given as it is exactly if it has no directive. -/
theorem gives_iff (hi : i < pppTableLength) (hfree : s.locks i = []) (paramName v : CStr)
    (hv : ipv6cpIdentifier paramName (s.table i) = some v) :
  Gives ω k s i paramName v ↔ '%' ∉ v
  := by
  obtain ⟨s', k', hexec⟩ := exec_ipv6cpGetParamStringValue (t := .dataModel) (ω := ω) (k := k) hi hfree
    paramName
  rw [Gives, hexec, ← printf_nil_eq_self_iff, printedIdentifier, hv]
  dsimp only
  split_ifs with hdefined
  · rw [and_iff_right hdefined]
    constructor
    · rintro ⟨s₁, k₁, h⟩
      obtain ⟨htext, -⟩ := Prod.mk.inj (Except.ok.inj h)
      apply Option.some.inj htext
    · intro htext
      rw [htext]
      exact ⟨_, _, rfl⟩
  · apply iff_of_false
    · rintro ⟨s₁, k₁, ⟨⟩⟩
    · rintro ⟨h, -⟩
      apply hdefined h

/-! ### Handling the message -/

/-- What `PppMgr_ProcessIpv6cpParams` does for a client that has the identifiers, on the entry `i`. -/
def completeIpv6cp (b : Build) (i : ℕ) (msg : PppIpv6cpMsg) : Code AnscStatus := do
  let pEntry ← load i
  storeIpv6cpParams i msg
  generateDuidFile pEntry.info.name
  match ← sendDataToQ (busSetEvent (toInt pEntry.cfg.instanceNumber) (pppIpv6cpStatusParamName b)
      up) with
  | .failure =>
    getIfaceDataRelease i
    pure .failure
  | .success =>
    getIfaceDataRelease i
    pure .success

theorem processIpv6cpParams_completed {msg : IpcPppEventMsg} (hstate : msg.pppState = .ipv6cpCompleted) :
  processIpv6cpParams b (i + 1 : ℕ) msg = (do
    match ← getIfaceDataLocked (i + 1) with
    | none => pure .success
    | some i => completeIpv6cp b i msg.pppIpv6cpMsg)
  := by
  have hpos : ¬ ((i + 1 : ℕ) : ℤ) ≤ 0 := by
    omega
  rw [processIpv6cpParams, if_neg hpos, hstate]
  rfl

/-- The identifiers of a message are stored, and the mutex is given back. -/
theorem wp_completeIpv6cp {o : List Thread} (hlock : s.locks i = t :: o) {msg : PppIpv6cpMsg}
    (hlocal : IsIdentifier msg.localIntfId) (hremote : IsIdentifier msg.remoteIntfId) :
  (contract t (fun _ _ => True) True).wp (completeIpv6cp b i msg) (fun _ s' =>
    s'.locks i = o ∧
      s'.table i = identified msg.localIntfId msg.remoteIntfId (s.table i)) s
  := by
  have hstored : ∀ {v}, IsIdentifier v → strncpy 45 v = v :=
    fun hv => List.take_of_length_le hv.length_le
  rw [completeIpv6cp, Contract.wp_bind, wp_load]
  intro _
  rw [Contract.wp_bind, storeIpv6cpParams, storeUnless, storeUnless, if_neg hlocal.ne_nil,
    if_neg hremote.ne_nil, hstored hlocal, hstored hremote, Contract.wp_bind, wp_store]
  intro _
  rw [wp_store]
  intro _
  rw [Contract.wp_bind, wp_generateDuidFile, Contract.wp_bind]
  apply wp_sendDataToQ (.inr trivial)
  intro r _
  have hend : ∀ {q : AnscStatus} {s' : Sys}, s'.locks i = t :: o →
      s'.table i = identified msg.localIntfId msg.remoteIntfId (s.table i) →
      (contract t (fun _ _ => True) True).wp (do getIfaceDataRelease i; pure q) (fun _ s' =>
        s'.locks i = o ∧
          s'.table i = identified msg.localIntfId msg.remoteIntfId (s.table i)) s' := by
    intro q s' hlock' htable
    rw [Contract.wp_bind, getIfaceDataRelease, wp_unlock]
    intro owners howners
    rw [hlock'] at howners
    obtain ⟨-, rfl⟩ := List.cons.inj howners
    rw [Contract.wp_pure, Sys.setLock_locks, Function.update_self]
    exact ⟨rfl, htable⟩
  cases r with
  | false =>
      apply hend
      · apply hlock
      · simp [identified, Sys.sent]
  | true =>
      apply hend
      · apply hlock
      · simp [identified, Sys.sent]

/-! ### Runs -/

variable {ω' : Answers} {k₁ : ℕ} {s₀ : Sys} {ls : List Access} {q : AnscStatus}

/-- In every state the manager reaches, the data model gives the identifiers a client reports for a
known instance as they were reported exactly if neither has a percent sign. -/
theorem readsBack_iff (hs₀ : Initial s₀) (hrun : run (Access.next b) ls s₀ = some s)
    (hi : i < s.pppIfCount.toNat) {msg : IpcPppEventMsg} (hstate : msg.pppState = .ipv6cpCompleted)
    (hlocal : IsIdentifier msg.pppIpv6cpMsg.localIntfId)
    (hremote : IsIdentifier msg.pppIpv6cpMsg.remoteIntfId)
    (hω : ω k (.psmGet psmPppManagerPppIfCount) = true)
    (hexec : (machine .event).exec ω (processIpv6cpParams b (i + 1 : ℕ) msg) k s = .ok (q, s', k')) :
  ReadsBack ω' k₁ s' i msg.pppIpv6cpMsg ↔
    '%' ∉ msg.pppIpv6cpMsg.localIntfId ∧ '%' ∉ msg.pppIpv6cpMsg.remoteIntfId
  := by
  have hs := atRest_of_run hs₀ hrun
  have hlt := Nat.lt_of_lt_of_le hi hs.count_le
  have hfree : ∀ t' ∈ s.locks i, t' = Thread.event := owned_of_free (hs.locks i)
  rw [processIpv6cpParams_completed hstate, Machine.exec_bind,
    exec_getIfaceDataLocked hω hlt hi hfree] at hexec
  have hlock : (s.setLock i (.event :: s.locks i)).locks i = .event :: s.locks i := by
    simp
  obtain ⟨hlocks, htable⟩ := Contract.wp_exec_ok (C := contract .event (fun _ _ => True) True)
    (fun _ _ _ => trivial) (wp_completeIpv6cp (b := b) hlock hlocal hremote) hexec
  rw [hs.locks i] at hlocks
  have hgives := gives_iff (ω := ω') (k := k₁) hlt hlocks
  rw [← hgives "LocalInterfaceIdentifier".toList, ← hgives "RemoteInterfaceIdentifier".toList]
  · exact ⟨fun h => ⟨h.localIntfId, h.remoteIntfId⟩, fun h => ⟨h.1, h.2⟩⟩
  · rw [htable]
    rfl
  · rw [htable]
    rfl

end

/-! ### An identifier with a percent sign -/

/-- The message of a client that it has the interface identifiers. -/
def identifierMessage (localIntfId remoteIntfId : CStr) : IpcPppEventMsg :=
  { (stateMessage 0 .ipv6cpCompleted).pppEventMsg with
    pppIpv6cpMsg := { localIntfId := localIntfId, remoteIntfId := remoteIntfId } }

/-- What the manager says to a message with interface identifiers, and what the data model gives for
the first one then. -/
def givenIdentifier (localIntfId remoteIntfId : CStr) : Option (AnscStatus × Option CStr) :=
  ((machine .event).exec (workingOutside 1 none []).answers (processIpv6cpParams (plainBuild false)
    (0 + 1 : ℕ) (identifierMessage localIntfId remoteIntfId)) 0 (freshState 1)).toOption.bind fun x =>
      ((machine .dataModel).exec (workingOutside 1 none []).answers
        (ipv6cpGetParamStringValue 0 "LocalInterfaceIdentifier".toList) 0 x.2.1).toOption.map fun y =>
          (x.1, y.1)

theorem exists_givenIdentifier {localIntfId remoteIntfId : CStr} {q : AnscStatus} {r : Option CStr}
    (h : givenIdentifier localIntfId remoteIntfId = some (q, r)) :
  ∃ s' k' s₁ k₁, (machine .event).exec (workingOutside 1 none []).answers (processIpv6cpParams
      (plainBuild false) (0 + 1 : ℕ) (identifierMessage localIntfId remoteIntfId)) 0 (freshState 1) =
        .ok (q, s', k') ∧
    (machine .dataModel).exec (workingOutside 1 none []).answers
      (ipv6cpGetParamStringValue 0 "LocalInterfaceIdentifier".toList) 0 s' = .ok (r, s₁, k₁)
  := by
  obtain ⟨⟨q', s', k'⟩, hexec, h⟩ := Option.bind_eq_some_iff.mp h
  obtain ⟨⟨r', s₁, k₁⟩, hget, hend⟩ := Option.map_eq_some_iff.mp h
  obtain ⟨rfl, rfl⟩ := Prod.mk.inj hend
  exact ⟨s', k', s₁, k₁, eq_ok_of_toOption hexec, eq_ok_of_toOption hget⟩

theorem readsBack_iff_plain :
  ∃ s' k', (machine .event).exec (workingOutside 1 none []).answers (processIpv6cpParams
      (plainBuild false) (0 + 1 : ℕ) (identifierMessage "fe80::1".toList "fe80::2".toList)) 0
        (freshState 1) = .ok (.success, s', k') ∧
    (ReadsBack (workingOutside 1 none []).answers 0 s' 0 ⟨"fe80::1".toList, "fe80::2".toList⟩ ↔
      '%' ∉ "fe80::1".toList ∧ '%' ∉ "fe80::2".toList)
  := by
  have hgiven : givenIdentifier "fe80::1".toList "fe80::2".toList =
      some (.success, some "fe80::1".toList) := by
    decide +kernel
  obtain ⟨s', k', -, -, hexec, -⟩ := exists_givenIdentifier hgiven
  have hrun : run (Access.next (plainBuild false)) [] (freshState 1) = some (freshState 1) := rfl
  use s', k', hexec
  apply readsBack_iff (initial_freshState (by decide +kernel)) hrun (by decide +kernel) rfl _ _ rfl
    hexec
  · exact ⟨by decide, by decide⟩
  · exact ⟨by decide, by decide⟩

/-- An identifier with two percent signs is given with one. -/
theorem percent_given_once :
  ∃ s' k', (machine .event).exec (workingOutside 1 none []).answers (processIpv6cpParams
      (plainBuild false) (0 + 1 : ℕ) (identifierMessage "fe80::1%%".toList "fe80::2".toList)) 0
        (freshState 1) = .ok (.success, s', k') ∧
    IsIdentifier "fe80::1%%".toList ∧ IsIdentifier "fe80::2".toList ∧
    ¬ ReadsBack (workingOutside 1 none []).answers 0 s' 0 ⟨"fe80::1%%".toList, "fe80::2".toList⟩
  := by
  have hgiven : givenIdentifier "fe80::1%%".toList "fe80::2".toList =
      some (.success, some "fe80::1%".toList) := by
    decide +kernel
  obtain ⟨s', k', s₁, k₁, hexec, hget⟩ := exists_givenIdentifier hgiven
  use s', k', hexec, ⟨by decide, by decide⟩, ⟨by decide, by decide⟩
  rintro ⟨⟨s₂, k₂, hlocal⟩, -⟩
  rw [hget] at hlocal
  revert hlocal
  nofun

end PppManager
