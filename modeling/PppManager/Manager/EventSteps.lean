import PppManager.Manager.Calls

/-!
# The steps of an event

What the handling of a queue event performs: an event that sets a parameter looks up an entry and
writes to the bus (`only_processPppEvent_busSet`), and a start, once it has found the entry of its
interface, works on that entry, asks the bus and the host, and runs commands
(`launchStep_launchPppClient`).
-/

namespace PppManager

open Effect Effect.Program CText

/-! ### Setting a parameter -/

/-- The operations of an event that sets a parameter. -/
theorem only_processPppEvent_busSet {P : Op → Prop} (hget : P (.psmGet psmPppManagerPppIfCount))
    (hlock : ∀ i, P (.lock i)) (hload : ∀ i, P (.load i)) (hunlock : ∀ i, P (.unlock i))
    (hset : ∀ component bus name value, P (.busSet component bus name value)) {b : Build}
    {ev : PppEventQData} (haction : ev.action = .busSet) :
  Only P (processPppEvent b ev)
  := by
  apply only_ite
  · intro _
    apply only_pure
  · intro _
    rw [haction]
    cases ev.keyPath with
    | none => apply only_pure
    | some keyPath =>
        cases ev.comPath with
        | none => apply only_pure
        | some comPath =>
            cases ev.busPath with
            | none => apply only_pure
            | some busPath =>
                apply only_bind
                · apply only_bind (only_getIfaceDataLocked hget hlock)
                  rintro (_ | i)
                  · apply only_pure
                  · apply only_bind (reads_op (hload i))
                    intro pEntry
                    apply only_bind (reads_op (hunlock i))
                    intro _
                    apply only_pure
                · intro pair
                  apply only_bind (reads_op (hset _ _ _ _))
                  intro r
                  apply only_ite <;> intro _ <;> apply only_pure

/-! ### Starting a client -/

/-- The operation belongs to the start of the client of the entry `i`, once the entry is found, or to
the search of the WAN manager before. -/
def Op.IsLaunchStep (i : ℕ) : Op → Prop
  | .load j => j = i
  | .store j _ => j = i
  | .unlock j => j = i
  | .busGet _ _ _ => True
  | .system _ => True
  | .undefined u => u = .bufferOverflow
  | o => o.IsHostRead

/-- The operation belongs to the start of the client of the entry `i`, and looks at no processes. -/
def Op.IsSetupStep (i : ℕ) : Op → Prop
  | .popen _ => False
  | .readProc => False
  | o => o.IsLaunchStep i

section

variable {i : ℕ} {b : Build}

theorem Op.IsSetupStep.isLaunchStep {o : Op} (ho : o.IsSetupStep i) :
  o.IsLaunchStep i
  := by
  cases o <;> first | apply ho | apply ho.elim

theorem setupStep_load :
  Only (Op.IsSetupStep i) (load i)
  := reads_op (P := Op.IsSetupStep i) (o := .load i) rfl

theorem setupStep_store (f : DmlPppIfFull → DmlPppIfFull) :
  Only (Op.IsSetupStep i) (store i f)
  := reads_op (P := Op.IsSetupStep i) (o := .store i f) rfl

theorem setupStep_system (command : CStr) :
  Only (Op.IsSetupStep i) (system command)
  := reads_op (P := Op.IsSetupStep i) (o := .system command) trivial

theorem setupStep_release (q : AnscStatus) :
  Only (Op.IsSetupStep i) (do getIfaceDataRelease i; pure q)
  := by
  apply only_bind (reads_op (P := Op.IsSetupStep i) (o := .unlock i) rfl)
  intro _
  apply only_pure

theorem setupStep_systemIfFits (text : CStr) :
  Only (Op.IsSetupStep i) (systemIfFits text)
  := by
  apply only_ite
  · intro _
    apply setupStep_system
  · intro _
    apply only_pure

theorem setupStep_sendPadt (vlan : CStr) (e : DmlPppIfFull) :
  Only (Op.IsSetupStep i) (sendPadt vlan e)
  := by
  apply only_bind (reads_op (P := Op.IsSetupStep i) (o := .readFile _) trivial)
  rintro (_ | text)
  · apply only_pure
  · apply only_ite
    · intro _
      apply setupStep_systemIfFits
    · intro _
      apply reads_undefined (P := Op.IsSetupStep i) rfl

theorem setupStep_configureClient (e : DmlPppIfFull) :
  Only (Op.IsSetupStep i) (configureClient b e)
  := by
  rw [configureClient]
  cases e.cfg.linkType with
  | unset | other v => apply only_pure
  | pppoa =>
      apply only_ite
      · intro _
        apply only_pure
      · intro _
        apply only_bind (setupStep_systemIfFits _)
        intro _
        apply only_pure
  | pppoe =>
      apply only_ite
      · intro _
        apply only_pure
      · intro _
        apply only_bind (only_dmlPppMgrGetParamValues (P := Op.IsSetupStep i) rfl trivial _ _)
        rintro (_ | vlanInterfaceName)
        · apply only_pure
        · apply only_bind (setupStep_systemIfFits _)
          intro _
          apply only_bind (setupStep_sendPadt _ _)
          intro _
          apply only_pure

theorem setupStep_getCredentialsFromHal :
  Only (Op.IsSetupStep i) (getCredentialsFromHal i)
  := only_getCredentialsFromHal trivial trivial fun _ => rfl

theorem launchStep_of_setup {α : Type} {p : Code α} (hp : Only (Op.IsSetupStep i) p) :
  Only (Op.IsLaunchStep i) p
  := hp.mono (fun _ => Op.IsSetupStep.isLaunchStep)

theorem launchStep_launchPppClient (w v : ℤ) :
  Only (Op.IsLaunchStep i) (launchPppClient b i w v)
  := by
  have hrest : Only (Op.IsLaunchStep i) (launchConfigured b i w v) := by
    apply only_bind (launchStep_of_setup setupStep_load)
    intro pEntry
    apply only_ite
    · intro _
      apply only_bind (launchStep_of_setup (setupStep_configureClient pEntry))
      rintro (_ | command)
      · apply launchStep_of_setup (setupStep_release _)
      · apply only_bind (launchStep_of_setup (setupStep_system command))
        intro _
        apply only_bind (only_getPppPid (P := Op.IsLaunchStep i) trivial none)
        intro pid
        apply only_bind (launchStep_of_setup (setupStep_store _))
        intro _
        apply only_bind (launchStep_of_setup (setupStep_store _))
        intro _
        apply launchStep_of_setup (setupStep_release _)
    · intro _
      apply launchStep_of_setup (setupStep_release _)
  apply only_bind (launchStep_of_setup (setupStep_store _))
  intro _
  apply only_ite
  · intro _
    apply hrest
  · intro _
    apply only_bind (launchStep_of_setup setupStep_getCredentialsFromHal)
    intro _
    apply hrest

end

end PppManager
