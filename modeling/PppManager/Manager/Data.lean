import PppManager.Manager.Operations
import PppManager.CText.Scan

/-!
# The interface table

`GetNumOfInstance` and `DmlGetTotalNoOfPPPInterfaces` of `pppmgr_dml_ppp_apis.c`, and
`PppMgr_GetIfaceData_locked` and `PppMgr_GetIfaceData_release` of `pppmgr_data.c`.  A pointer to an
entry is its index in the table.
-/

namespace PppManager

open CText

/-- `PSM_PPPMANAGER_PPPIFCOUNT`. -/
def psmPppManagerPppIfCount : CStr := "dmsb.pppmanager.pppifcount".toList

/-- `GetNumOfInstance`: the value `*count` has after it. -/
def getNumOfInstance (count : ℤ) : Code ℤ := do
  match ← psmGet psmPppManagerPppIfCount with
  | none => pure count
  | some paramValue => pure ((sscanfD paramValue).getD count)

/-- `DmlGetTotalNoOfPPPInterfaces`. -/
def dmlGetTotalNoOfPPPInterfaces : Code ULong := do
  let pppIfCount ← getNumOfInstance 0
  pure (ULong.ofLong pppIfCount)

/-- `PppMgr_GetIfaceData_locked`. -/
def getIfaceDataLocked (pppIfaceInstance : ℕ) : Code (Option ℕ) := do
  if pppIfaceInstance = 0 then
    pure none
  else
    let total ← dmlGetTotalNoOfPPPInterfaces
    if total.toNat < pppIfaceInstance then
      pure none
    else
      lock (pppIfaceInstance - 1)
      pure (some (pppIfaceInstance - 1))

/-- `PppMgr_GetIfaceData_release`. -/
def getIfaceDataRelease (i : ℕ) : Code Unit :=
  unlock i

end PppManager
