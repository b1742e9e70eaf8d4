import PppManager.Manager.Outside
import PppManager.Manager.Points

/-!
# Interfaces do not disturb each other

A state message changes the entry it is found for and queues events for its instance, and a start, a
stop, a request to start or stop and a reset do so for the instance they are called with.  All other
entries stay as they are, and no event is queued for another instance (`isolated`).
-/

namespace PppManager

open Effect CText

/-- Only the entry of the instance `n` changes, and events are queued for this instance only. -/
structure OnlyInstance (n : ℕ) (s s' : Sys) : Prop where
  table : ∀ i, n ≠ i + 1 → s'.table i = s.table i
  queue : ∃ evs, s'.queue = s.queue ++ evs ∧ ∀ ev ∈ evs, ev.pppIfInstance = n

/-- The table and the queue stay as they are. -/
def Undisturbed (s s' : Sys) : Prop :=
  s'.table = s.table ∧ s'.queue = s.queue

/-- What an entry point disturbs: a state message the entry that is the first to have its pid, or
nothing if none has it or the message is of another type; a call for an instance this instance. -/
def Isolated (s s' : Sys) : EntryPoint → Prop
  | .message m =>
    (m.msgType = .pppStateChange ∧ HasPid s m.pppEventMsg.pid →
      ∃ i < s.pppIfCount.toNat, FirstWithPid s m.pppEventMsg.pid i ∧ OnlyInstance (i + 1) s s') ∧
    (¬ (m.msgType = .pppStateChange ∧ HasPid s m.pppEventMsg.pid) → Undisturbed s s')
  | .start n | .stop n | .enable n _ | .reset n =>
    1 ≤ n → n ≤ s.pppIfCount.toNat → OnlyInstance n s s'
  | _ => True

section

variable {b : Build} {s s' : Sys} {n : ℕ}

theorem onlyInstance_of_changes {S : Prop} {M : IpcPppEventMsg → Prop}
    (htable : TableChange b S M n s s') (hsends : SendsFor n s s') :
  OnlyInstance n s s'
  where
    table := by
      intro i hi
      apply htable.table_of_ne hi
    queue := by
      obtain ⟨evs, hevs, hinstance⟩ := hsends
      use evs, hevs.queue
      intro ev hev
      apply (hinstance ev hev).1

/-- A message that is handed to an entry disturbs the entry that is the first to have its pid. -/
theorem PppStateEnds.isolatedMessage (hs : Numbered s) {m : IpcMsgPayload} {q : AnscStatus}
    (h : PppStateEnds CountKnown b s m q s') :
  Isolated s s' (.message m)
  := by
  have hread : ¬ CountKnown (.psmGet psmPppManagerPppIfCount) false :=
    fun h => Bool.false_ne_true (h rfl)
  cases h with
  | ignored hnone =>
      constructor
      · rintro ⟨htype, hpid⟩
        apply absurd hpid (hnone htype hread hs)
      · intro _
        exact ⟨rfl, rfl⟩
  | dispatched i hi hcount hpid hfirst h htype =>
      have hnumber : (toInt (s.table i).cfg.instanceNumber).toNat = i + 1 := by
        rw [hs.toInt_instanceNumber hcount]
        apply Int.toNat_natCast
      have htable := h.tableChange (S := False) (M := fun _ => True) trivial
      rw [hnumber] at htable
      constructor
      · intro _
        use i, hcount, hfirst hread
        apply onlyInstance_of_changes htable (h.sendsFor hs hcount)
      · intro hignored
        apply absurd ⟨htype, ⟨i, hcount, hpid⟩⟩ hignored

/-- Where the number of interfaces can be read, and the table is numbered, a message and a call for
an instance disturb no other interface. -/
theorem isolated (hs : Numbered s) {l : Access} (hl : l.Allowed CountKnown)
    (hrun : l.next b s = some s') :
  Isolated s s' l.point
  := by
  have hends := l.ends hl hrun
  cases hpoint : l.point with
  | message m =>
      rw [hpoint] at hends
      cases hends with
      | quiet _ hp => cases hp
      | message h => apply h.isolatedMessage hs
  | start n =>
      rw [hpoint] at hends
      intro _ _
      cases hends with
      | quiet _ hp => cases hp
      | start h =>
          apply onlyInstance_of_changes (h.tableChange (M := fun _ => False) trivial)
          exact ⟨[], h.sends, nofun⟩
  | stop n =>
      rw [hpoint] at hends
      intro _ _
      cases hends with
      | quiet _ hp => cases hp
      | stop h => apply onlyInstance_of_changes (h.tableChange (S := False) (M := fun _ => False)) (h.sendsFor hs)
  | enable n v =>
      rw [hpoint] at hends
      intro _ _
      cases hends with
      | quiet _ hp => cases hp
      | enable h => apply onlyInstance_of_changes (h.tableChange (S := False) (M := fun _ => False)) (h.sendsFor hs)
  | reset n =>
      rw [hpoint] at hends
      intro _ _
      cases hends with
      | quiet _ hp => cases hp
      | reset h => apply onlyInstance_of_changes (h.tableChange (S := False) (M := fun _ => False)) (h.sendsFor hs)
  | _ => trivial

end

/-- Two interfaces have the pid 0; a message with it disturbs the first. -/
theorem isolated_reportUp :
  ∃ s', Access.next (plainBuild false)
      ⟨.message (stateMessage 0 .interfaceUp), (workingOutside 1 none []).answers⟩ (freshState 2) =
        some s' ∧
    (s'.table 0).info.status = .up ∧
    ∃ i < (freshState 2).pppIfCount.toNat, FirstWithPid (freshState 2) 0 i ∧
      OnlyInstance (i + 1) (freshState 2) s'
  := by
  have hend : (Access.next (plainBuild false)
      ⟨.message (stateMessage 0 .interfaceUp), (workingOutside 1 none []).answers⟩
      (freshState 2)).map (fun s' => (s'.table 0).info.status) = some .up := by
    decide +kernel
  obtain ⟨s', hrun, hup⟩ := Option.map_eq_some_iff.mp hend
  use s', hrun, hup
  have hisolated := isolated (initial_freshState (by decide)).toNumbered
    (Outside.allowed_countKnown rfl) hrun
  apply hisolated.1
  exact ⟨rfl, 0, by decide, rfl⟩

end PppManager
