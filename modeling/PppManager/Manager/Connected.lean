import PppManager.Manager.Outside
import PppManager.Manager.Points

/-!
# Interfaces that are up

The switch of `PppMgr_ProcessStateChangedMsg`, a stop and the load of the table each write some of
`Status`, `ConnectionStatus` and `LastConnectionError`.  In every state the manager reaches an
interface is up exactly if it is connected, and then has no error (`up_iff_connected`).
-/

namespace PppManager

open Effect CText

/-- The interface is up exactly if it is connected, and then has no error. -/
structure UpConsistent (e : DmlPppIfFull) : Prop where
  connected : e.info.status = .up ↔ e.info.connectionStatus = .connected
  noError : e.info.status = .up → e.info.lastConnectionError = .none

/-! ### Entries -/

section

variable {b : Build} {e e' : DmlPppIfFull}

theorem upConsistent_of_down (hstatus : e.info.status ≠ .up)
    (hconn : e.info.connectionStatus ≠ .connected) :
  UpConsistent e
  := by
  constructor
  · apply iff_of_false hstatus hconn
  · intro hup
    apply absurd hup hstatus

/-- A change that keeps the three fields. -/
theorem UpConsistent.congr (h : UpConsistent e) (hstatus : e'.info.status = e.info.status)
    (hconn : e'.info.connectionStatus = e.info.connectionStatus)
    (herror : e'.info.lastConnectionError = e.info.lastConnectionError) :
  UpConsistent e'
  := by
  constructor
  · rw [hstatus, hconn]
    apply h.connected
  · rw [hstatus, herror]
    apply h.noError

theorem upConsistent_stoppedEntry (e : DmlPppIfFull) :
  UpConsistent (stoppedEntry b e)
  := by
  apply upConsistent_of_down <;> rw [stoppedEntry] <;> split_ifs <;> rintro ⟨⟩

theorem UpConsistent.switchEntry (h : UpConsistent e) (msg : IpcPppEventMsg) (uptime : ULong)
    (id : Option ULong) :
  UpConsistent (PppManager.switchEntry msg uptime id e)
  := by
  have hafter := switchEntry_status msg uptime id e
  cases hstate : msg.pppState with
  | interfaceUp =>
      rw [PppManager.switchEntry, hstate]
      have hup : UpConsistent (((e.setStatus .up .connected).setLastConnectionError
          .none).setLastChange uptime) := ⟨iff_of_true rfl rfl, fun _ => rfl⟩
      cases id with
      | none => apply hup
      | some id => exact hup.congr rfl rfl rfl
  | lcpAuthCompleted =>
      rw [PppManager.switchEntry, hstate]
      dsimp only
      split_ifs <;> exact h.congr rfl rfl rfl
  | _ =>
      rw [hstate] at hafter
      obtain ⟨hstatus, hconn⟩ := Prod.mk.inj hafter
      apply upConsistent_of_down
      · rw [hstatus]
        rintro ⟨⟩
      · rw [hconn]
        rintro ⟨⟩

/-- Every change an entry point makes to an entry keeps the fields consistent. -/
theorem UpConsistent.change {S : Prop} {M : IpcPppEventMsg → Prop} {i : ℕ} (h : UpConsistent e)
    (hchange : EntryChange b S M i e e') :
  UpConsistent e'
  := by
  cases hchange with
  | data e' hdata =>
      have hfields := congrArg (fun v => v.2.2.1) hdata.vital
      obtain ⟨hstatus, hrest⟩ := Prod.mk.inj hfields
      obtain ⟨hconn, herror⟩ := Prod.mk.inj hrest
      apply h.congr hstatus hconn herror
  | numbered | enabled | addressed | identified => exact h.congr rfl rfl rfl
  | stopped => apply upConsistent_stoppedEntry
  | restarted => exact (upConsistent_stoppedEntry e).congr rfl rfl rfl
  | switched msg uptime id => apply h.switchEntry
  | attempted _ e' he | launched _ e' pid w v he =>
      obtain ⟨u, p, -, rfl⟩ := he
      exact h.congr rfl rfl rfl

end

/-! ### Runs -/

/-- Loading the table leaves no interface up or connected. -/
theorem upConsistent_of_initialize {b : Build} {t : Thread} {ω : Answers} {psm : CStr → Option CStr}
    {k : ℕ} {s : Sys}
    (hrun : (machine t).exec ω (backEndManagerInitialize b) 0 (Sys.blank psm) = .ok ((), s, k)) :
  ∀ i, UpConsistent (s.table i)
  := by
  intro i
  have hunset : (s.table i).info.status = .unset ∧ (s.table i).info.connectionStatus = .unset := by
    apply entries_of_initialize (I := fun e => e.info.status = .unset ∧
      e.info.connectionStatus = .unset) (LoadStable.keeps _) _ _ _ hrun
    · intro e e' hkept he
      have hfields := congrArg (fun v => v.2.1) hkept
      obtain ⟨hstatus, hrest⟩ := Prod.mk.inj hfields
      obtain ⟨hconn, -⟩ := Prod.mk.inj hrest
      exact ⟨hstatus.trans he.1, hconn.trans he.2⟩
    · intro v e he
      exact e.loadSessionID_cases v he (fun _ => he)
    · intro n e he
      apply he
    · exact ⟨rfl, rfl⟩
  apply upConsistent_of_down
  · rw [hunset.1]
    nofun
  · rw [hunset.2]
    nofun

/-- In every state the manager reaches from the one its table is loaded in, every interface is up
exactly if it is connected, and then has no error. -/
theorem up_iff_connected {b : Build} {t : Thread} {ω : Answers} {psm : CStr → Option CStr} {k : ℕ}
    {ls : List Access} {s s' : Sys}
    (hinit : (machine t).exec ω (backEndManagerInitialize b) 0 (Sys.blank psm) = .ok ((), s, k))
    (hrun : run (Access.next b) ls s = some s') (i : ℕ) :
  UpConsistent (s'.table i)
  := by
  have hstart := upConsistent_of_initialize hinit
  have hend : ∀ i, UpConsistent (s'.table i) := by
    apply run_invariant (G := fun _ _ => True) _ hstart (throughout_of_forall fun _ _ _ => trivial)
      hrun
    intro l s₁ s₂ h _ hnext i
    have hends := l.ends (A := Unrestricted) (fun _ _ _ => trivial) hnext
    apply (h i).change (hends.entryChange i)
  apply hend

/-- The interface 1, whose pid is 0 before it is started, is loaded, and its client reports that its
link is up. -/
theorem up_iff_connected_reportUp :
  ∃ s s' k, (machine .dataModel).exec (workingOutside 1 none []).answers
      (backEndManagerInitialize (plainBuild false)) 0 (Sys.blank (freshState 1).psm) =
        .ok ((), s, k) ∧
    run (Access.next (plainBuild false))
      [⟨.message (stateMessage 0 .interfaceUp), (workingOutside 1 none []).answers⟩] s = some s' ∧
    (s'.table 0).info.status = .up ∧ UpConsistent (s'.table 0)
  := by
  have hend : (((machine .dataModel).exec (workingOutside 1 none []).answers
      (backEndManagerInitialize (plainBuild false)) 0 (Sys.blank (freshState 1).psm)).toOption.bind
        fun r => (run (Access.next (plainBuild false))
          [⟨.message (stateMessage 0 .interfaceUp), (workingOutside 1 none []).answers⟩] r.2.1).map
            fun s' => (s'.table 0).info.status) = some .up := by
    decide +kernel
  obtain ⟨⟨_, s, k⟩, hinit, hrest⟩ := Option.bind_eq_some_iff.mp hend
  obtain ⟨s', hrun, hup⟩ := Option.map_eq_some_iff.mp hrest
  have hinit := eq_ok_of_toOption hinit
  exact ⟨s, s', k, hinit, hrun, hup, up_iff_connected hinit hrun 0⟩

end PppManager
