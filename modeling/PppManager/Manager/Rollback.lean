import PppManager.Manager.DataChanges
import PppManager.Manager.Outside

/-!
# Rollback

The setters write to the configuration of the entry itself, and the rollback functions call
`PppDmlGetIfCfg`, which does nothing.  After a rollback the configuration is what it was at the last
commit exactly if the last of the sets to each field wrote the value from then (`restored_iff`).
-/

namespace PppManager

open Effect CText

/-! ### Configurations -/

namespace DmlPppIfCfg

/-- The fields of a configuration that setters do not write. -/
def fixed (cfg : DmlPppIfCfg) : ℕ × Bool × ℤ × ℤ :=
  (cfg.instanceNumber, cfg.bEnabled, cfg.wanInstanceNumber, cfg.wanVirtIfaceInstance)

theorem eq_iff {cfg cfg' : DmlPppIfCfg} (hfixed : cfg'.fixed = cfg.fixed) :
  cfg' = cfg ↔ cfg'.fields = cfg.fields
  := by
  constructor
  · rintro rfl
    rfl
  · intro h
    have hfield := congrFun h
    obtain ⟨n, a, b, c, d, l, lo, t₁, t₂, t₃, u, p, m, tr, ac, sn, pe, pp, w, v⟩ := cfg
    obtain ⟨n', a', b', c', d', l', lo', t₁', t₂', t₃', u', p', m', tr', ac', sn', pe', pp', w', v'⟩ :=
      cfg'
    simp only [fixed, Prod.mk.injEq] at hfixed
    obtain ⟨rfl, rfl, rfl, rfl⟩ := hfixed
    obtain rfl : a' = a := hfield .ifAlias
    obtain rfl : c' = c := hfield .bIPCPEnabled
    obtain rfl : d' = d := hfield .bIPV6CPEnabled
    obtain rfl : l' = l := hfield .linkType
    obtain rfl : lo' = lo := hfield .lowerLayers
    obtain rfl : t₁' = t₁ := hfield .autoDisconnectTime
    obtain rfl : t₂' = t₂ := hfield .idleDisconnectTime
    obtain rfl : t₃' = t₃ := hfield .warnDisconnectDelay
    obtain rfl : u' = u := hfield .username
    obtain rfl : p' = p := hfield .password
    obtain rfl : m' = m := hfield .maxMRUSize
    obtain rfl : tr' = tr := hfield .connectionTrigger
    obtain rfl : ac' = ac := hfield .acName
    obtain rfl : sn' = sn := hfield .serviceName
    obtain rfl : pe' = pe := hfield .passthroughEnable
    obtain rfl : pp' = pp := hfield .passthroughDHCPPool
    rfl

end DmlPppIfCfg

/-! ### What a set writes -/

namespace Setter

/-- A set of a parameter of the configuration of the entry `i`. -/
def IsSet (i : ℕ) : Setter → Prop
  | .interfaceBool j paramName _ =>
      j = i ∧ (paramName = "IPCPEnable".toList ∨ paramName = "IPv6CPEnable".toList)
  | .interfaceUlong j _ _ => j = i
  | .interfaceString j _ _ => j = i
  | .pppoeString j _ _ => j = i
  | .ipcpBool j _ _ => j = i
  | .ipcpString j _ _ => j = i
  | _ => False

/-- A rollback of an object of the entry `i`. -/
def IsRollback (i : ℕ) : Setter → Prop
  | .interfaceRollback j => j = i
  | .pppoeRollback j => j = i
  | .ipcpRollback j => j = i
  | _ => False

end Setter

/-! ### Sets -/

/-- The write is what the function does to the configuration of an entry. -/
def Matches (w : CfgWrite) (f : DmlPppIfFull → DmlPppIfFull) : Prop :=
  ∀ e, (f e).cfg.fields = w.apply e.cfg.fields ∧ (f e).cfg.fixed = e.cfg.fixed

/-- The configuration of the entry `i` is that of a state after a write, if any. -/
structure Wrote (i : ℕ) (w : Option CfgWrite) (s s' : Sys) : Prop where
  fields : (s'.table i).cfg.fields = writeAll w.toList (s.table i).cfg.fields
  fixed : (s'.table i).cfg.fixed = (s.table i).cfg.fixed

section

variable {t : Thread} {A : (o : Op) → o.Ans → Prop} {F : Prop} {s : Sys} {i : ℕ}
  {f : DmlPppIfFull → DmlPppIfFull} {w : CfgWrite}

theorem Matches.wrote (h : Matches w f) :
  Wrote i (some w) s (s.setEntry i (f (s.table i)))
  := by
  constructor
  · rw [Sys.setEntry_table, Function.update_self]
    apply (h _).1
  · rw [Sys.setEntry_table, Function.update_self]
    apply (h _).2

/-- Setting a field is a write to it. -/
theorem matches_setField (g : CfgField) (v : g.Value) :
  Matches ⟨g, v⟩ (fun e => { e with cfg := e.cfg.setField g v })
  := by
  intro e
  constructor
  · funext h
    cases g <;> cases h <;> rfl
  · cases g <;> rfl

/-- A store that makes a write. -/
theorem wp_write (h : Matches w f) :
  (contract t A F).wp (do store i f; pure true) (fun r s' => r = true → Wrote i (some w) s s') s
  := by
  rw [Contract.wp_bind, wp_store]
  intro _ _
  apply h.wrote

theorem wp_copy {size : ℕ} {set : CStr → DmlPppIfFull → DmlPppIfFull} {pString : CStr}
    (h : Matches w (set pString)) :
  (contract t A F).wp (do anscCopyString i size set pString; pure true)
    (fun r s' => r = true → Wrote i (some w) s s') s
  := by
  rw [Contract.wp_bind, anscCopyString]
  split_ifs
  · rw [wp_store]
    intro _ _
    apply h.wrote
  · apply wp_undefined

/-- A set that fails. -/
theorem wp_refused {w : Option CfgWrite} :
  (contract t A F).wp (pure false) (fun r s' => r = true → Wrote i w s s') s
  := nofun

theorem wp_writeUlongParam {paramName : CStr} {uValue : ULong} :
  (contract t A F).wp (writeUlongParam i paramName uValue)
    (fun r s' => r = true → Wrote i (ulongWrite paramName uValue) s s') s
  := by
  rw [writeUlongParam, ulongWrite]
  split_ifs
  · rw [Contract.wp_bind, wp_store]
    intro _
    rw [Contract.wp_bind, wp_system]
    intro _
    have hmatches : Matches ⟨.autoDisconnectTime, uValue⟩
        (fun e => { e with cfg := { e.cfg with autoDisconnectTime := uValue } }) :=
      matches_setField _ _
    have hwrote := hmatches.wrote (s := s) (i := i)
    exact ⟨hwrote.fields, hwrote.fixed⟩
  · apply wp_write
    apply matches_setField
  · apply wp_write
    apply matches_setField
  · apply wp_write
    apply matches_setField
  · apply wp_write
    apply matches_setField
  · apply wp_write
    apply matches_setField
  · apply wp_refused

theorem wp_writeStringParam {paramName pString : CStr} :
  (contract t A F).wp (writeStringParam i paramName pString)
    (fun r s' => r = true → Wrote i (stringWrite paramName pString) s s') s
  := by
  rw [writeStringParam, stringWrite]
  split_ifs
  · apply wp_copy
    apply matches_setField
  · apply wp_copy
    apply matches_setField
  · apply wp_refused
  · apply wp_copy
    apply matches_setField
  · apply wp_refused
  · apply wp_refused
  · apply wp_copy
    apply matches_setField
  · apply wp_refused

theorem wp_writePppoeStringParam {paramName pString : CStr} :
  (contract t A F).wp (writePppoeStringParam i paramName pString)
    (fun r s' => r = true → Wrote i (pppoeStringWrite paramName pString) s s') s
  := by
  rw [writePppoeStringParam, pppoeStringWrite]
  split_ifs
  · apply wp_copy
    apply matches_setField
  · apply wp_copy
    apply matches_setField
  · apply wp_refused

theorem wp_writeIpcpStringParam {paramName pString : CStr} :
  (contract t A F).wp (writeIpcpStringParam i paramName pString)
    (fun r s' => r = true → Wrote i (ipcpStringWrite paramName pString) s s') s
  := by
  rw [writeIpcpStringParam, ipcpStringWrite]
  split_ifs
  · apply wp_copy
    apply matches_setField
  · apply wp_refused

theorem wp_writeBoolParam {b : Build} {paramName : CStr} {bValue : Bool}
    (hname : paramName = "IPCPEnable".toList ∨ paramName = "IPv6CPEnable".toList) :
  (contract t A F).wp (writeBoolParam b i paramName bValue)
    (fun r s' => r = true → Wrote i (boolWrite paramName bValue) s s') s
  := by
  have henable : paramName ≠ "Enable".toList := by
    rcases hname with rfl | rfl <;> decide
  rw [writeBoolParam, boolWrite, if_neg henable]
  split_ifs with hipcp hipv6cp hreset
  · apply wp_write
    apply matches_setField
  · apply wp_write
    apply matches_setField
  · apply absurd hname (not_or.mpr ⟨hipcp, hipv6cp⟩)
  · apply absurd hname (not_or.mpr ⟨hipcp, hipv6cp⟩)

/-- A set is made while the mutex is held. -/
theorem wp_locked {body : Code Bool} {w : Option CfgWrite}
    (h : ∀ s, (contract t A F).wp body (fun r s' => r = true → Wrote i w s s') s) :
  (contract t A F).wp (do lock i; let r ← body; unlock i; pure r)
    (fun r s' => r = true → Wrote i w s s') s
  := by
  rw [Contract.wp_bind, wp_lock]
  intro _ _
  rw [Contract.wp_bind]
  apply Contract.wp_mono _ (h _)
  intro r s' hwrote
  rw [Contract.wp_bind, wp_unlock]
  intro _ _ hr
  exact ⟨(hwrote hr).fields, (hwrote hr).fixed⟩

/-- A set that succeeds makes its write. -/
theorem wp_set {b : Build} {w : Setter} (hw : w.IsSet i) :
  (contract t A F).wp (w.code b) (fun r s' => r = true → Wrote i w.write s s') s
  := by
  cases w with
  | interfaceBool j paramName bValue =>
      obtain ⟨rfl, hname⟩ := hw
      apply wp_locked
      intro s
      apply wp_writeBoolParam hname
  | interfaceUlong j paramName uValue =>
      obtain rfl : j = i := hw
      apply wp_locked
      intro s
      apply wp_writeUlongParam
  | interfaceString j paramName pString =>
      obtain rfl : j = i := hw
      apply wp_locked
      intro s
      apply wp_writeStringParam
  | pppoeString j paramName pString =>
      obtain rfl : j = i := hw
      apply wp_locked
      intro s
      apply wp_writePppoeStringParam
  | ipcpBool j paramName bValue =>
      obtain rfl : j = i := hw
      rw [Setter.code, ipcpSetParamBoolValue, Setter.write, ipcpBoolWrite, Contract.wp_bind, wp_lock]
      intro _ _
      split_ifs
      · have hmatches : Matches ⟨.passthroughEnable, bValue⟩
            (fun e => { e with cfg := { e.cfg with passthroughEnable := bValue } }) :=
          matches_setField _ _
        have hwrote := hmatches.wrote (s := s) (i := j)
        rw [Contract.wp_bind, wp_store]
        intro _
        rw [Contract.wp_bind, wp_unlock]
        intro _ _ _
        exact ⟨hwrote.fields, hwrote.fixed⟩
      · rw [Contract.wp_bind, wp_unlock]
        rintro _ _ ⟨⟩
  | ipcpString j paramName pString =>
      obtain rfl : j = i := hw
      apply wp_locked
      intro s
      apply wp_writeIpcpStringParam
  | _ => apply hw.elim

/-- A rollback changes no entry. -/
theorem wp_rollback {b : Build} {w : Setter} (hw : w.IsRollback i) :
  (contract t A F).wp (w.code b) (fun _ s' => s'.table = s.table) s
  := by
  have hrollback : ∀ j, (contract t A F).wp ((fun _ => true) <$> rollbackEntry j)
      (fun _ s' => s'.table = s.table) s := by
    intro j
    rw [Contract.wp_map, rollbackEntry, Contract.wp_bind, wp_lock]
    intro _ _
    rw [Contract.wp_bind, pppDmlGetIfCfg, Contract.wp_pure, wp_unlock]
    intro _ _
    rfl
  cases w with
  | interfaceRollback | pppoeRollback | ipcpRollback => apply hrollback
  | _ => apply hw.elim

end

/-! ### Runs -/

/-- A set, with the answers of the outside. -/
structure CfgSet where
  setter : Setter
  answers : Answers

/-- The state after a set that succeeds. -/
def CfgSet.next (b : Build) (l : CfgSet) (s : Sys) : Option Sys :=
  match (machine .dataModel).exec l.answers (l.setter.code b) 0 s with
  | .ok (true, s', _) => some s'
  | _ => none

/-- What the sets write. -/
def writes (ls : List CfgSet) : List CfgWrite :=
  ls.filterMap (·.setter.write)

section

variable {b : Build} {i : ℕ} {s s' s₁ s₂ : Sys} {ls : List CfgSet}

theorem respects_unrestricted {t : Thread} {ω : Answers} :
  (contract t Unrestricted True).Respects ω
  := fun _ _ _ => trivial

theorem CfgSet.wrote {l : CfgSet} (hl : l.setter.IsSet i) (h : l.next b s = some s') :
  Wrote i l.setter.write s s'
  := by
  rw [CfgSet.next] at h
  split at h
  · rename_i s₁ k hexec
    obtain rfl := Option.some.inj h
    apply Contract.wp_exec_ok respects_unrestricted (wp_set hl) hexec rfl
  · cases h

/-- A run of sets makes their writes. -/
theorem wrote_of_run (hls : ∀ l ∈ ls, l.setter.IsSet i) (h : run (CfgSet.next b) ls s = some s') :
  (s'.table i).cfg.fields = writeAll (writes ls) (s.table i).cfg.fields ∧
    (s'.table i).cfg.fixed = (s.table i).cfg.fixed
  := by
  induction ls generalizing s with
  | nil =>
      obtain rfl := Option.some.inj h
      exact ⟨rfl, rfl⟩
  | cons l ls ih =>
      obtain ⟨s₁, hnext, hrest⟩ := Option.bind_eq_some_iff.mp h
      have hwrote := CfgSet.wrote (hls l List.mem_cons_self) hnext
      obtain ⟨hfields, hfixed⟩ := ih (fun l hl => hls l (List.mem_cons_of_mem _ hl)) hrest
      have hwrites : writes (l :: ls) = l.setter.write.toList ++ writes ls := by
        rw [writes, List.filterMap_cons]
        cases l.setter.write <;> rfl
      rw [hfields, hfixed, hwrote.fields, hwrote.fixed, hwrites, writeAll_append]
      exact ⟨rfl, rfl⟩

/-- A rollback after sets leaves the configuration that was committed exactly if the last set of each
field wrote the committed value. -/
theorem restored_iff {r : Setter} {ω : Answers} {k : ℕ} (hls : ∀ l ∈ ls, l.setter.IsSet i)
    (hr : r.IsRollback i) (hsets : run (CfgSet.next b) ls s = some s₁)
    (hrollback : (machine .dataModel).exec ω (r.code b) 0 s₁ = .ok (true, s₂, k)) :
  (s₂.table i).cfg = (s.table i).cfg ↔
    ∀ f, ∀ v ∈ lastWrite f (writes ls), v = (s.table i).cfg.fields f
  := by
  obtain ⟨hfields, hfixed⟩ := wrote_of_run hls hsets
  have htable := Contract.wp_exec_ok respects_unrestricted (wp_rollback hr) hrollback
  rw [htable, DmlPppIfCfg.eq_iff hfixed, hfields]
  apply writeAll_eq_self_iff

end

/-! ### A set that is rolled back -/

/-- `IdleDisconnectTime` of the interface 1 is set. -/
def setIdle (uValue : ULong) : CfgSet :=
  ⟨.interfaceUlong 0 "IdleDisconnectTime".toList uValue, (workingOutside 1 none []).answers⟩

theorem write_setIdle (uValue : ULong) :
  (setIdle uValue).setter.write = some ⟨.idleDisconnectTime, uValue⟩
  := by
  rw [setIdle, Setter.write, ulongWrite, if_neg (by decide), if_pos rfl]

/-- A run of sets and a rollback of the interface, with the idle time after it. -/
def idleAfterRollback (ls : List CfgSet) (s : Sys) : Option ULong :=
  (run (CfgSet.next (plainBuild false)) ls s).bind fun s₁ =>
    ((machine .dataModel).exec (workingOutside 1 none []).answers
      (Setter.code (plainBuild false) (.interfaceRollback 0)) 0 s₁).toOption.bind fun r =>
        if r.1 then some (r.2.1.table 0).cfg.idleDisconnectTime else none

theorem exists_of_idleAfterRollback {ls : List CfgSet} {s : Sys} {idle : ULong}
    (h : idleAfterRollback ls s = some idle) :
  ∃ s₁ s₂ k, run (CfgSet.next (plainBuild false)) ls s = some s₁ ∧
    (machine .dataModel).exec (workingOutside 1 none []).answers
      (Setter.code (plainBuild false) (.interfaceRollback 0)) 0 s₁ = .ok (true, s₂, k) ∧
    (s₂.table 0).cfg.idleDisconnectTime = idle
  := by
  obtain ⟨s₁, hrun, hrest⟩ := Option.bind_eq_some_iff.mp h
  obtain ⟨⟨r, s₂, k⟩, hrollback, hidle⟩ := Option.bind_eq_some_iff.mp hrest
  dsimp only at hidle
  split_ifs at hidle with hr
  obtain rfl : r = true := hr
  exact ⟨s₁, s₂, k, hrun, eq_ok_of_toOption hrollback, Option.some.inj hidle⟩

theorem isSet_setIdle {l : CfgSet} {uValues : List ULong} (hl : l ∈ uValues.map setIdle) :
  l.setter.IsSet 0
  := by
  obtain ⟨uValue, -, rfl⟩ := List.mem_map.mp hl
  rfl

/-- A rollback leaves the idle time that was set. -/
theorem idle_not_rolled_back :
  ¬ ∀ (b : Build) (i : ℕ) (ls : List CfgSet) (r : Setter) (ω : Answers) (k : ℕ) (s s₁ s₂ : Sys),
    (∀ l ∈ ls, l.setter.IsSet i) → r.IsRollback i → run (CfgSet.next b) ls s = some s₁ →
      (machine .dataModel).exec ω (r.code b) 0 s₁ = .ok (true, s₂, k) →
        (s₂.table i).cfg = (s.table i).cfg
  := by
  intro h
  have hend : idleAfterRollback ([5].map setIdle) (freshState 1) = some 5 := by
    decide +kernel
  obtain ⟨s₁, s₂, k, hrun, hrollback, hidle⟩ := exists_of_idleAfterRollback hend
  have hcfg := h _ 0 _ (.interfaceRollback 0) _ _ _ _ _ (fun _ => isSet_setIdle) rfl hrun hrollback
  rw [hcfg] at hidle
  cases hidle

theorem restored_iff_setBack :
  ∃ s₁ s₂ k, run (CfgSet.next (plainBuild false)) ([5, 0].map setIdle) (freshState 1) = some s₁ ∧
    (machine .dataModel).exec (workingOutside 1 none []).answers
      (Setter.code (plainBuild false) (.interfaceRollback 0)) 0 s₁ = .ok (true, s₂, k) ∧
    (s₂.table 0).cfg = ((freshState 1).table 0).cfg
  := by
  have hend : idleAfterRollback ([5, 0].map setIdle) (freshState 1) = some 0 := by
    decide +kernel
  obtain ⟨s₁, s₂, k, hrun, hrollback, -⟩ := exists_of_idleAfterRollback hend
  refine ⟨s₁, s₂, k, hrun, hrollback, ?_⟩
  apply (restored_iff (r := .interfaceRollback 0) (fun _ => isSet_setIdle) rfl hrun hrollback).mpr
  have hwrites : writes ([5, 0].map setIdle) =
      [⟨.idleDisconnectTime, 5⟩, ⟨.idleDisconnectTime, 0⟩] := by
    rw [writes, List.filterMap_map, List.filterMap_cons, Function.comp_apply, write_setIdle]
    dsimp only
    rw [List.filterMap_cons, Function.comp_apply, write_setIdle]
    rfl
  rw [hwrites]
  intro f v hv
  cases f with
  | idleDisconnectTime =>
      obtain rfl := Option.some.inj hv
      rfl
  | _ => cases hv

end PppManager
