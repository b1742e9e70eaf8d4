import PppManager.Manager.Mapped
import Mathlib.Data.Nat.Find

/-!
# Whom a message is for

`PppMgr_getIfaceDataWithPid` looks for the pid of a message among the pids of the entries, and an
entry without a client has the pid 0.  So it identifies a client for every pid but those, 0 or
negative, that an entry without a client has (`identifiesClient_iff`).
-/

namespace PppManager

open Effect Effect.Program CText

/-- The interface has a client with the pid. -/
def HasClient (s : Sys) (pid : ℤ) (i : ℕ) : Prop :=
  0 < (s.table i).info.pppPid ∧ (s.table i).info.pppPid = pid

/-- The number is the instance of the first interface that has a client with the pid, or -1 where
none has. -/
def IdentifiesClient (s : Sys) (pid n : ℤ) : Prop :=
  (∃ i < s.pppIfCount.toNat, HasClient s pid i ∧ (∀ j < i, ¬ HasClient s pid j) ∧
      n = (i + 1 : ℕ)) ∨
    (∀ i < s.pppIfCount.toNat, ¬ HasClient s pid i) ∧ n = -1

section

variable {s : Sys} {pid n : ℤ} {i : ℕ}

/-- An interface has a positive pid exactly if it is that of its client. -/
theorem hasClient_iff (hpid : 0 < pid) :
  HasClient s pid i ↔ (s.table i).info.pppPid = pid
  := by
  constructor
  · intro h
    apply h.2
  · intro h
    use h.symm ▸ hpid, h

/-- No interface has a client with a pid that is not positive. -/
theorem not_hasClient (hpid : ¬ 0 < pid) :
  ¬ HasClient s pid i
  := by
  rintro ⟨hpos, rfl⟩
  apply hpid hpos

/-- Where an interface has the pid, there is a first one. -/
theorem HasPid.first (h : HasPid s pid) :
  ∃ i < s.pppIfCount.toNat, FirstWithPid s pid i
  := by
  have hex : ∃ i, (s.table i).info.pppPid = pid := by
    obtain ⟨i, -, hi⟩ := h
    use i
  refine ⟨Nat.find hex, ?_, Nat.find_spec hex, ?_⟩
  · obtain ⟨i, hcount, hi⟩ := h
    apply Nat.lt_of_le_of_lt (Nat.find_min' hex hi) hcount
  · intro j hj
    apply Nat.find_min hex hj

/-- The search for a pid gives the instance of the first interface that has it, or -1. -/
theorem exec_getIfaceDataWithPid_cases {ω : Answers} (hs : AtRest s)
    (hreads : ∀ k, ω k (.psmGet psmPppManagerPppIfCount) = true) (pid : ℤ) (k : ℕ) :
  ∃ n k', (machine .event).exec ω (getIfaceDataWithPid pid) k s = .ok (n, s, k') ∧
    ((∃ i < s.pppIfCount.toNat, FirstWithPid s pid i ∧ n = (i + 1 : ℕ)) ∨
      ¬ HasPid s pid ∧ n = -1)
  := by
  by_cases hpid : HasPid s pid
  · obtain ⟨i, hi, hfirst⟩ := hpid.first
    obtain ⟨k', hloop⟩ := exec_getIfaceDataWithPidLoop_first (n := 0) (k := k + 1)
      (c := s.pppIfCount.toNat) hs hreads hi hfirst (Nat.zero_le i)
      (by rw [Nat.zero_add]; apply hi)
    refine ⟨(i + 1 : ℕ), k', ?_, .inl ⟨i, hi, hfirst, rfl⟩⟩
    rw [getIfaceDataWithPid, Machine.exec_bind, exec_dmlGetTotalNoOfPPPInterfaces,
      if_pos (hreads k)]
    dsimp only [Except.bind]
    rw [toInt_pppIfCount hs.count_le, Int.toNat_natCast]
    apply hloop
  · obtain ⟨n, k', hexec, rfl | ⟨i, hi, heq, -⟩⟩ :=
      exec_getIfaceDataWithPid (t := .event) (ω := ω) (k := k) hs pid
    · exact ⟨-1, k', hexec, .inr ⟨hpid, rfl⟩⟩
    · apply absurd ⟨i, hi, heq⟩ hpid

end

/-- In every state the manager reaches, the search for a pid identifies a client exactly if the pid is
positive, or no interface has it. -/
theorem identifiesClient_iff {b : Build} {ls : List Access} {s₀ s : Sys} (hs₀ : Initial s₀)
    (hrun : run (Access.next b) ls s₀ = some s) {ω : Answers}
    (hreads : ∀ k, ω k (.psmGet psmPppManagerPppIfCount) = true) (pid : ℤ) (k : ℕ) :
  ∃ n k', (machine .event).exec ω (getIfaceDataWithPid pid) k s = .ok (n, s, k') ∧
    (IdentifiesClient s pid n ↔ 0 < pid ∨ ∀ i < s.pppIfCount.toNat, (s.table i).info.pppPid ≠ pid)
  := by
  obtain ⟨n, k', hexec, hn⟩ := exec_getIfaceDataWithPid_cases (atRest_of_run hs₀ hrun) hreads pid k
  refine ⟨n, k', hexec, ?_⟩
  rcases hn with ⟨i, hi, hfirst, rfl⟩ | ⟨hnone, rfl⟩
  · constructor
    · rintro (⟨j, -, hclient, -, -⟩ | ⟨-, hn⟩)
      · left
        rw [← hclient.2]
        apply hclient.1
      · omega
    · rintro (hpid | hnone)
      · left
        refine ⟨i, hi, (hasClient_iff hpid).mpr hfirst.1, ?_, rfl⟩
        intro j hj h
        apply hfirst.2 j hj h.2
      · apply absurd hfirst.1 (hnone i hi)
  · have hnone : ∀ i < s.pppIfCount.toNat, (s.table i).info.pppPid ≠ pid := by
      intro i hi h
      apply hnone ⟨i, hi, h⟩
    apply iff_of_true _ (.inr hnone)
    right
    refine ⟨?_, rfl⟩
    intro i hi h
    apply hnone i hi h.2

/-- The second interface is enabled, and its client started. -/
def startSecond : List Access :=
  [.setter (.interfaceBool 1 "Enable".toList true), .takeEvent].map fun point =>
    ⟨point, (workingOutside 2 none [pppdProcess 8]).answers⟩

/-- The client of the second interface is identified, where the first one has none. -/
theorem identifiesClient_iff_second :
  ∃ s k', run (Access.next (plainBuild false)) startSecond (freshState 2) = some s ∧
    (machine .event).exec (workingOutside 2 none []).answers (getIfaceDataWithPid 8) 0 s =
      .ok (2, s, k') ∧
    IdentifiesClient s 8 2
  := by
  have hend : (run (Access.next (plainBuild false)) startSecond (freshState 2)).map
      (fun s => ((machine .event).exec (workingOutside 2 none []).answers (getIfaceDataWithPid 8) 0
        s).toOption.map Prod.fst) = some (some 2) := by
    decide +kernel
  obtain ⟨s, hrun, hfound⟩ := Option.map_eq_some_iff.mp hend
  obtain ⟨n, k', hexec, hiff⟩ := identifiesClient_iff (initial_freshState (by decide +kernel)) hrun
    (ω := (workingOutside 2 none []).answers) (fun _ => rfl) 8 0
  rw [hexec] at hfound
  obtain rfl : n = 2 := Option.some.inj hfound
  refine ⟨s, k', hrun, hexec, hiff.mpr (.inl ?_)⟩
  decide

/-- A message with the pid 0 is for the first interface that has no client. -/
theorem idle_interface_identified :
  ∃ n k', (machine .event).exec (workingOutside 1 none []).answers (getIfaceDataWithPid 0) 0
      (freshState 1) = .ok (n, freshState 1, k') ∧ ¬ IdentifiesClient (freshState 1) 0 n
  := by
  have hs : AtRest (freshState 1) := (initial_freshState (by decide +kernel)).atRest
  obtain ⟨n, k', hexec, ⟨i, -, -, rfl⟩ | ⟨hnone, -⟩⟩ := exec_getIfaceDataWithPid_cases
    (ω := (workingOutside 1 none []).answers) hs (fun _ => rfl) 0 0
  · refine ⟨_, k', hexec, ?_⟩
    rintro (⟨j, -, hclient, -⟩ | ⟨-, hn⟩)
    · apply not_hasClient (by decide) hclient
    · omega
  · apply absurd _ hnone
    refine ⟨0, ?_, rfl⟩
    decide +kernel

end PppManager
