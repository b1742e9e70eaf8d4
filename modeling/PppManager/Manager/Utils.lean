import PppManager.Manager.Data

/-!
# Utilities

The functions of `pppmgr_utils.c` that look up sessions, processes and interfaces.
-/

namespace PppManager

open CText

/-! ### Session ids -/

/-- `ntohs` on a little-endian host. -/
def ntohs (id : ULong) : ULong :=
  ((id &&& 0xff) <<< 8) ||| ((id >>> 8) &&& 0xff)

/-- The session id the rows of `/proc/net/pppoe` leave: that of the last row that has one. -/
def pppoeSessionId (rows : List CStr) : Option ULong :=
  rows.foldl
    (fun found buf =>
      if (strstr "Id".toList buf).isSome then found
      else
        match sscanf08lX buf with
        | some id => some (ntohs id)
        | none => found)
    none

/-- `get_ppp_ip_addr`. -/
def getPppIpAddr : Code (BitVec 32) := do
  match ← syscfgGet "wan_proto".toList with
  | none => pure 0
  | some output =>
    if !"pppoe".toList.isPrefixOf output then
      pure 0
    else
      match ← syseventGet "ppp_status".toList with
      | none => pure 0
      | some buf =>
        if !"up".toList.isPrefixOf buf then pure 0 else getIfAddr "ppp0".toList

/-- The session id the last line of `pppd` about a session in the log leaves. -/
def pppoaSessionId (lines : List CStr) : Option ULong :=
  let isSession := fun buf =>
    (strstr "pppd".toList buf).isSome && (strstr "PPP session is".toList buf).isSome
  match (lines.filter isSession).getLast? with
  | none => none
  | some result =>
    match strstr "PPP session is".toList result with
    | none => none
    | some p => (sscanfD (p.drop "PPP session is".length)).map ULong.ofLong

/-- `get_session_id` on the entry `i`: the id it stores, if it finds one. -/
def findSessionId (i : ℕ) : Code (Option ULong) := do
  let pEntry ← load i
  match pEntry.cfg.linkType with
  | .pppoe =>
    match ← readFile "/proc/net/pppoe".toList with
    | none => pure none
    | some text => pure (pppoeSessionId (fgets 1023 text))
  | .pppoa =>
    let addr ← getPppIpAddr
    if addr = 0 then
      pure none
    else
      match ← readFile "/var/log/messages".toList with
      | none => pure none
      | some text => pure (pppoaSessionId (fgets 1023 text))
  | _ => pure none

/-- `get_session_id` with the `SessionID` of the entry `i` as its output. -/
def getSessionId (i : ℕ) : Code Unit := do
  match ← findSessionId i with
  | none => pure ()
  | some id => store i (fun e => { e with info := { e.info with sessionID := id } })

/-! ### Processes -/

/-- The command that lists the processes named `pppd`. -/
def psPppd : CStr := "ps | grep pppd | grep -v grep | awk '{print $1}'".toList

/-- `PppMgr_checkPidExist`. -/
def checkPidExist (pppPid : ℤ) : Code AnscStatus := do
  if pppPid = 0 then
    pure .failure
  else
    match ← popen psPppd with
    | none => pure .failure
    | some text =>
      if (fgets 64 text).any (fun line => toInt (strtoul line) = pppPid) then pure .success
      else pure .failure

/-- `find_strstr` from the position `j` of `substr` on. -/
def findStrstrFrom (substr : List Char) : List Char → ℕ → Bool
  | [], _ => false
  | b :: bs, j =>
      if substr[j]? = some b then
        if j + 1 = substr.length then true else findStrstrFrom substr bs (j + 1)
      else
        findStrstrFrom substr bs 0

/-- `find_strstr`. -/
def findStrstr (basestr substr : List Char) : Bool :=
  if basestr.length ≤ substr.length then false else findStrstrFrom substr basestr 0

/-- `strtol64` in base ten, for a text that is not empty. -/
def strtol64 (str : CStr) : Option ℤ :=
  match scanInt str with
  | some (val, []) => if clampLong val = val then some val else none
  | _ => none

/-- What `fscanf` with the format `%d (%255s %c ` reads from a file `stat`: the process name, and
the state if it gets so far. -/
def scanStat (text : CStr) : CStr × Option Char :=
  match scanInt text with
  | none => ([], none)
  | some (_, rest) =>
    match rest.dropWhile isSpace with
    | '(' :: rest =>
      let rest := rest.dropWhile isSpace
      let name := (rest.takeWhile (fun c => !isSpace c)).take 255
      if name = [] then ([], none)
      else (name, ((rest.drop name.length).dropWhile isSpace).head?)
    | _ => ([], none)

/-- The process name with the closing parenthesis removed. -/
def stripParen (processName : CStr) : CStr :=
  if processName.getLast? = some ')' then processName.dropLast else processName

/-- The search of `check_proc_entry_for_pid` through a listing; `status` is the state the last file
read has left. -/
def checkProcEntries (name : CStr) (args : Option CStr) : Char → List ProcDirent → ℤ
  | _, [] => 0
  | status, dent :: dents =>
      match (if dent.isDir then strtol64 dent.dName else none), dent.stat with
      | some pid, some text =>
          let processName := stripParen (scanStat text).1
          let status := (scanStat text).2.getD status
          if processName = name && (status = 'R' || status = 'S') then
            match args with
            | none => toInt pid
            | some args =>
              match dent.cmdline with
              | none => checkProcEntries name (some args) status dents
              | some text =>
                let cmdline := text.take 511
                if cmdline ≠ [] &&
                    findStrstr (cmdline ++ List.replicate (512 - cmdline.length) '\x00') args then
                  toInt pid
                else
                  checkProcEntries name (some args) status dents
          else
            checkProcEntries name args status dents
      | _, _ => checkProcEntries name args status dents

/-- `check_proc_entry_for_pid`. -/
def checkProcEntryForPid (name : CStr) (args : Option CStr) : Code ℤ := do
  match ← readProc with
  | none => pure 0
  | some dents => pure (checkProcEntries name args '\x00' dents)

/-- The loop of `PppMgr_getPppPid` with `k` attempts left. -/
def getPppPidLoop (ifname : Option CStr) : ℕ → Code ℤ
  | 0 => pure 0
  | k + 1 => do
      let pid ← checkProcEntryForPid "pppd".toList ifname
      if pid ≠ 0 then pure pid else getPppPidLoop ifname k

/-- `GET_PPPID_ATTEMPT`. -/
def getPppIdAttempt : ℕ := 5

/-- `PppMgr_getPppPid`. -/
def getPppPid (ifname : Option CStr) : Code ℤ :=
  getPppPidLoop ifname (getPppIdAttempt + 1)

/-! ### Interfaces -/

/-- The loop of `PppMgr_getIfaceDataWithPid` from the instance `i` on, with `k` instances left. -/
def getIfaceDataWithPidLoop (pid : ℤ) : ℕ → ℕ → Code ℤ
  | _, 0 => pure (-1)
  | i, k + 1 => do
      match ← getIfaceDataLocked i with
      | none => getIfaceDataWithPidLoop pid (i + 1) k
      | some idx =>
        let pEntry ← load idx
        if pEntry.info.pppPid = pid then
          getIfaceDataRelease idx
          pure (toInt pEntry.cfg.instanceNumber)
        else
          getIfaceDataRelease idx
          getIfaceDataWithPidLoop pid (i + 1) k

/-- `PppMgr_getIfaceDataWithPid`. -/
def getIfaceDataWithPid (pid : ℤ) : Code ℤ := do
  let total ← dmlGetTotalNoOfPPPInterfaces
  getIfaceDataWithPidLoop pid 1 (toInt total.toInt).toNat

end PppManager
