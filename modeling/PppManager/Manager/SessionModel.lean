import PppManager.Effect.Traces
import Mathlib.Data.List.Lemmas

/-!
# The session of an interface

What the manager is there for, as the WAN manager sees it.  The link of an interface goes up and down;
over the link the client and its peer agree on parameters, once by IPCP and once by IPv6CP, which
they may also fail to do; and a stop ends all of it.  The WAN manager is told of each of these
things as it happens, and the DUID is kept in its file as long as IPv6CP is up.
-/

namespace PppManager

open Effect

/-- Where a link is: while it is on its way up or down, the WAN manager is told nothing. -/
inductive LinkPhase where
  | down
  | changing
  | up
  deriving DecidableEq

/-- The state of a session, with parameters in `P` if IPCP is up. -/
structure Session (P : Type) where
  link : LinkPhase
  parameters : Option P

/-- What happens to a session. -/
inductive Happening (P : Type) where
  | linkChanges
  | linkUp
  | linkDown
  | ipcpUp (parameters : P)
  | ipcpDown
  | ipv6cpUp
  | ipv6cpDown
  | stop

/-- What the manager does for those that rely on a session: it tells the WAN manager a status, and
keeps or removes the DUID. -/
inductive Report where
  | lcp (isUp : Bool)
  | link (isUp : Bool)
  | ipcp (isUp : Bool)
  | ipv6cp (isUp : Bool)
  | duid (isKept : Bool)
  deriving DecidableEq

variable {P : Type}

namespace Session

/-- The session before anything happens. -/
def idle : Session P where
  link := .down
  parameters := none

/-- The session after something happens. -/
def next (x : Session P) : Happening P → Session P
  | .linkChanges => { x with link := .changing }
  | .linkUp => { x with link := .up }
  | .linkDown => { x with link := .down }
  | .ipcpUp parameters => { x with parameters := some parameters }
  | .ipcpDown => { x with parameters := none }
  | .ipv6cpUp => x
  | .ipv6cpDown => x
  | .stop => idle

end Session

/-- The reports of what happens. -/
def Happening.reports : Happening P → List Report
  | .linkChanges => []
  | .linkUp => [.lcp true, .link true]
  | .linkDown => [.lcp false, .link false]
  | .ipcpUp _ => [.ipcp true]
  | .ipcpDown => [.ipcp false]
  | .ipv6cpUp => [.duid true, .ipv6cp true]
  | .ipv6cpDown => [.duid false, .ipv6cp false]
  | .stop => [.lcp false, .ipcp false, .ipv6cp false]

/-- Sessions with their reports. -/
def sessions : Transducer (Session P) (Happening P) Report where
  next := fun h x => x.next h
  output := fun h _ => h.reports

theorem outputs_sessions (hs : List (Happening P)) (x : Session P) :
  sessions.outputs hs x = hs.flatMap Happening.reports
  := by
  induction hs generalizing x with
  | nil => rfl
  | cons h hs ih =>
      rw [Transducer.outputs, ih]
      rfl

/-! ### The last report of a kind -/

/-- The last value that `f` gives on a list. -/
def lastOf {α β : Type} (f : α → Option β) (l : List α) : Option β :=
  (l.filterMap f).getLast?

theorem lastOf_append {α β : Type} (f : α → Option β) (l l' : List α) :
  lastOf f (l ++ l') = (lastOf f l').or (lastOf f l)
  := by
  rw [lastOf, List.filterMap_append, List.getLast?_append, lastOf, lastOf]

/-- The IPCP status a report tells. -/
def Report.ipcp? : Report → Option Bool
  | .ipcp isUp => some isUp
  | _ => none

/-- The IPv6CP status a report tells. -/
def Report.ipv6cp? : Report → Option Bool
  | .ipv6cp isUp => some isUp
  | _ => none

/-- Whether a report keeps the DUID. -/
def Report.duid? : Report → Option Bool
  | .duid isKept => some isKept
  | _ => none

/-- The WAN manager was told last that IPCP is up exactly if there are parameters. -/
theorem parameters_iff_ipcp (hs : List (Happening P)) :
  lastOf Report.ipcp? (sessions.outputs hs .idle) = some true ↔
    (sessions.after hs .idle).parameters ≠ none
  := by
  rw [← List.nil_append (sessions.outputs hs .idle)]
  apply sessions.after_induction (I := fun out x =>
    lastOf Report.ipcp? out = some true ↔ x.parameters ≠ none)
  · intro h _ out x ih
    rw [lastOf_append]
    cases h with
    | ipcpUp => apply iff_of_true rfl (Option.some_ne_none _)
    | ipcpDown | stop =>
        apply iff_of_false
        · rintro ⟨⟩
        · intro h
          apply h rfl
    | _ => apply ih
  · apply iff_of_false
    · rintro ⟨⟩
    · intro h
      apply h rfl

/-- The parameters are the last ones that were agreed on. -/
theorem mem_of_parameters {hs : List (Happening P)} {parameters : P}
    (h : (sessions.after hs .idle).parameters = some parameters) :
  .ipcpUp parameters ∈ hs
  := by
  have hmem : ∀ p, (sessions.after hs .idle).parameters = some p → .ipcpUp p ∈ hs := by
    apply sessions.after_induction
      (I := fun _ x => ∀ p, x.parameters = some p → .ipcpUp p ∈ hs)
    · intro h hh out x ih p hp
      cases h with
      | ipcpUp p' =>
          obtain rfl := Option.some.inj hp
          apply hh
      | ipcpDown | stop => cases hp
      | _ => apply ih p hp
    · apply []
    · rintro p ⟨⟩
  apply hmem parameters h

/-- As long as the WAN manager was told last that IPv6CP is up, the DUID is kept. -/
theorem duid_of_ipv6cp {hs : List (Happening P)}
    (h : lastOf Report.ipv6cp? (sessions.outputs hs .idle) = some true) :
  lastOf Report.duid? (sessions.outputs hs .idle) = some true
  := by
  revert h
  rw [← List.nil_append (sessions.outputs hs .idle)]
  apply sessions.after_induction (I := fun out _ =>
    lastOf Report.ipv6cp? out = some true → lastOf Report.duid? out = some true)
  · intro h _ out x ih
    rw [lastOf_append, lastOf_append]
    cases h with
    | ipv6cpUp =>
        intro _
        rfl
    | ipv6cpDown | stop => rintro ⟨⟩
    | _ => apply ih
  · rintro ⟨⟩

end PppManager
