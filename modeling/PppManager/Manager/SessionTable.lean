import PppManager.Manager.Getters
import Mathlib.Data.List.Induction

/-!
# Session tables

What `get_session_id` finds in `/proc/net/pppoe`.  It takes the last row without the letters `Id`,
whatever the device of the interface is (`pppoeSessionId_fgets`); so an interface has the session id
of the row of its device exactly if that row, or one with the same id, is the last one it takes
(`usesSession_iff`).
-/

namespace PppManager

open Effect CText

/-! ### The file -/

/-- A row of `/proc/net/pppoe`: the id of a live session, the address of the peer, and the device. -/
structure SessionRow where
  sid : BitVec 16
  address : Fin 6 → BitVec 8
  device : CStr
  device_ne_nil : device ≠ []
  device_plain : ∀ c ∈ device, isSpace c = false

namespace SessionRow

/-- The session id in network byte order, as a little-endian host reads it. -/
def networkSid (r : SessionRow) : BitVec 16 :=
  (r.sid <<< 8) ||| (r.sid >>> 8)

/-- The characters of the address. -/
def addressText (r : SessionRow) : CStr :=
  (List.finRange 6).flatMap fun j =>
    (if j = 0 then [] else [':']) ++ hexDigits Nat.digitChar 2 (r.address j).toNat

/-- The characters of a row before the device. -/
def front (r : SessionRow) : CStr :=
  ' ' :: (r.addressText ++ ' ' :: List.replicate (8 - r.device.length) ' ')

/-- The characters of a row, without the line end. -/
def body (r : SessionRow) : CStr :=
  hexDigits upperDigit 8 r.networkSid.toNat ++ (r.front ++ r.device)

/-- The characters of a row. -/
def text (r : SessionRow) : CStr :=
  r.body ++ ['\n']

/-- The session id as a parameter of an interface. -/
def sessionId (r : SessionRow) : ULong :=
  r.sid.zeroExtend 64

/-- The name of the device does not have the letters `Id`. -/
def isTaken (r : SessionRow) : Bool :=
  !(strstr "Id".toList r.device).isSome

end SessionRow

/-- A content of `/proc/net/pppoe`: a header line, and a row for each live session. -/
structure SessionTable where
  header : CStr
  rows : List SessionRow
  header_id : "Id".toList <:+: header
  header_line : '\n' ∉ header
  header_short : header.length + 1 < 1023
  rows_short : ∀ r ∈ rows, r.text.length < 1023
  devices_distinct : (rows.map SessionRow.device).Nodup

namespace SessionTable

/-- The characters of the file. -/
def text (d : SessionTable) : CStr :=
  (d.header :: d.rows.map SessionRow.body).flatMap (· ++ ['\n'])

/-- The last row that is not taken for the header. -/
def lastTaken (d : SessionTable) : Option SessionRow :=
  (d.rows.filter SessionRow.isTaken).getLast?

/-- The session id of an interface after `get_session_id`, with the id it had before. -/
def foundId (d : SessionTable) (old : ULong) : ULong :=
  (d.lastTaken.map SessionRow.sessionId).getD old

/-- The row that is taken last has the session id of the row `r`; or no row is taken, and `r` has the id
the interface had before. -/
def Leaves (d : SessionTable) (r : SessionRow) (old : ULong) : Prop :=
  (∃ l, d.lastTaken = some l ∧ l.sid = r.sid) ∨ d.lastTaken = none ∧ old = r.sessionId

end SessionTable

/-! ### Reading the file -/

/-- The low byte of a number. -/
theorem getLsbD_and_byte (v : BitVec 64) (j : ℕ) :
  (v &&& 0xff).getLsbD j = (v.getLsbD j && decide (j < 8))
  := by
  have hbyte : (0xff : BitVec 64) = (BitVec.allOnes 8).setWidth 64 := by
    decide
  rw [BitVec.getLsbD_and, hbyte, BitVec.getLsbD_setWidth, BitVec.getLsbD_allOnes]
  by_cases hj : j < 8
  · rw [decide_eq_true (lt_trans hj (by decide : 8 < 64)), Bool.true_and]
  · rw [decide_eq_false hj, Bool.and_false]

/-- The two bytes of a number of 16 bits are swapped back. -/
theorem ntohs_swapped (x : BitVec 16) :
  ntohs (BitVec.ofNat 64 ((x <<< 8) ||| (x >>> 8)).toNat) = x.zeroExtend 64
  := by
  apply BitVec.eq_of_getLsbD_eq
  intro j hj
  simp only [ntohs, BitVec.getLsbD_or, BitVec.getLsbD_shiftLeft, getLsbD_and_byte,
    BitVec.getLsbD_ushiftRight, BitVec.ofNat_toNat, BitVec.getLsbD_setWidth]
  rcases Nat.lt_or_ge j 8 with h8 | h8
  · -- a bit of the low byte comes from the high one
    have hover : x.getLsbD (8 + (8 + j)) = false := by
      apply BitVec.getLsbD_of_ge
      omega
    simp [h8, hj, hover, show 8 + j < 64 by omega, show 8 + j < 16 by omega]
  · rcases Nat.lt_or_ge j 16 with h16 | h16
    · simp [h8, hj, show j - 8 < 8 by omega, show j - 8 < 64 by omega, show j - 8 < 16 by omega,
        Nat.not_lt.mpr h8]
    · have hover : x.getLsbD j = false := by
        apply BitVec.getLsbD_of_ge _ _ h16
      simp [hj, hover, Nat.not_lt.mpr h8, show ¬ j - 8 < 8 by omega]

namespace SessionRow

variable (r : SessionRow)

/-- `ntohs` gives the session id back. -/
theorem ntohs_networkSid :
  ntohs (BitVec.ofNat 64 r.networkSid.toNat) = r.sessionId
  := ntohs_swapped r.sid

/-- The number in a row is the session id. -/
theorem sscanf08lX_text :
  (sscanf08lX r.text).map ntohs = some r.sessionId
  := by
  have hlt : r.networkSid.toNat < 16 ^ 8 := lt_trans r.networkSid.isLt (by decide)
  rw [text, body, List.append_assoc, sscanf08lX_hexDigits hlt, Option.map_some, ntohs_networkSid]

/-- The characters of a row before the device are digits, blanks and colons. -/
theorem not_mem_front {c : Char} (hupper : ∀ d < 16, c ≠ upperDigit d)
    (hlower : ∀ d < 16, c ≠ Nat.digitChar d) (hblank : c ≠ ' ') (hcolon : c ≠ ':') :
  c ∉ hexDigits upperDigit 8 r.networkSid.toNat ++ r.front
  := by
  intro h
  rcases List.mem_append.mp h with h | h
  · obtain ⟨d, hd, h⟩ := mem_hexDigits h
    apply hupper d hd h
  · rw [front, List.mem_cons, List.mem_append, List.mem_cons] at h
    rcases h with h | h | h | h
    · apply hblank h
    · obtain ⟨j, -, h⟩ := List.mem_flatMap.mp h
      rcases List.mem_append.mp h with h | h
      · split_ifs at h
        · cases h
        · apply hcolon (List.mem_singleton.mp h)
      · obtain ⟨d, hd, h⟩ := mem_hexDigits h
        apply hlower d hd h
    · apply hblank h
    · apply hblank (List.eq_of_mem_replicate h)

/-- A row has the letters `Id` exactly if its device does. -/
theorem isSome_strstr_text :
  (strstr "Id".toList r.text).isSome = !r.isTaken
  := by
  have htext : r.text =
      (hexDigits upperDigit 8 r.networkSid.toNat ++ r.front) ++ (r.device ++ ['\n']) := by
    rw [text, body, List.append_assoc, List.append_assoc, List.append_assoc]
  have hfront := r.not_mem_front (c := 'I') (by decide) (by decide) (by decide) (by decide)
  have hinfix : "Id".toList <:+: r.text ↔ "Id".toList <:+: r.device := by
    rw [htext]
    exact (infix_append_iff_of_not_mem hfront).trans (infix_concat_iff_of_ne (by decide))
  rw [isTaken, Bool.not_not, Bool.eq_iff_iff, isSome_strstr_iff, isSome_strstr_iff, hinfix]

theorem newline_not_mem_body :
  '\n' ∉ r.body
  := by
  intro h
  rw [body, ← List.append_assoc] at h
  rcases List.mem_append.mp h with h | h
  · apply r.not_mem_front (by decide) (by decide) (by decide) (by decide) h
  · cases r.device_plain _ h

end SessionRow

theorem fgets_sessionTable (d : SessionTable) :
  fgets 1023 d.text = (d.header ++ ['\n']) :: d.rows.map SessionRow.text
  := by
  rw [SessionTable.text, fgets_lines]
  · rw [List.map_cons, List.map_map]
    rfl
  · rw [List.forall_mem_cons]
    use ⟨d.header_line, d.header_short⟩
    intro v hv
    obtain ⟨r, hr, rfl⟩ := List.mem_map.mp hv
    use r.newline_not_mem_body
    have hshort := d.rows_short r hr
    rw [SessionRow.text, List.length_append, List.length_singleton] at hshort
    apply hshort

/-- The session id that rows leave is that of the last row that is taken. -/
theorem pppoeSessionId_rows {header : CStr} (hheader : "Id".toList <:+: header)
    (rows : List SessionRow) :
  pppoeSessionId (header :: rows.map SessionRow.text) =
    ((rows.filter SessionRow.isTaken).getLast?).map SessionRow.sessionId
  := by
  induction rows using List.reverseRecOn with
  | nil =>
      rw [pppoeSessionId, List.map_nil, List.foldl_cons, List.foldl_nil, isSome_strstr hheader]
      rfl
  | append_singleton rows r ih =>
      rw [pppoeSessionId] at ih ⊢
      rw [List.map_append, ← List.cons_append, List.foldl_append, ih, List.map_singleton,
        List.foldl_cons, List.foldl_nil, r.isSome_strstr_text, List.filter_append,
        List.filter_singleton]
      cases htaken : r.isTaken with
      | false =>
          rw [cond_false, List.append_nil]
          rfl
      | true =>
          obtain ⟨id, hid, hsid⟩ := Option.map_eq_some_iff.mp r.sscanf08lX_text
          rw [cond_true, List.getLast?_concat, Option.map_some, hid, ← hsid]
          rfl

/-- `get_session_id` takes the id of the last row without the letters of the header. -/
theorem pppoeSessionId_fgets (d : SessionTable) :
  pppoeSessionId (fgets 1023 d.text) = d.lastTaken.map SessionRow.sessionId
  := by
  rw [fgets_sessionTable]
  apply pppoeSessionId_rows
  apply d.header_id.trans (List.prefix_append _ _).isInfix

/-! ### Interfaces -/

/-- The file has the content whenever it is read. -/
def SessionTable.IsRead (d : SessionTable) (ω : Answers) : Prop :=
  ∀ k, ω k (.readFile "/proc/net/pppoe".toList) = some d.text

/-- The session id is the one that `get_session_id` stores for the entry `i`, so that the next start
terminates that session; the one a read of `SessionID` reports; and the one that is persisted when
the link comes up. -/
structure UsesSession (ω : Answers) (k : ℕ) (s : Sys) (i : ℕ) (id : ULong) : Prop where
  stored : ∀ t, ∃ s' k', (machine t).exec ω (getSessionId i) k s = .ok ((), s', k') ∧
    (s'.table i).info.sessionID = id ∧
    ∀ vlan mac, padtCommand vlan mac (s'.table i) =
      printf "pppoe -I %s -e %ld:%s -k".toList [.str vlan, .int id.toLong, .str mac]
  reported : s.locks i = [] → ∀ t, ∃ s' k',
    (machine t).exec ω (pppoeGetParamUlongValue i "SessionID".toList) k s = .ok (some id, s', k')
  persisted : ∀ t msg, msg.pppState = .interfaceUp → ∀ q s' k',
    (machine t).exec ω (switchPppState i msg) k s = .ok (q, s', k') →
      s'.psm = s.psm ∧ (∃ k v, ω k (.psmSet psmPppSessionid v) = false) ∨
        s'.psm = (s.setRecord psmPppSessionid (sessionIdText id)).psm

section

variable {t : Thread} {ω : Answers} {i k : ℕ} {s : Sys} {d : SessionTable}

theorem exec_getSessionId (hω : d.IsRead ω) (hi : i < pppTableLength)
    (hlink : (s.table i).cfg.linkType = .pppoe) :
  ∃ k', (machine t).exec ω (getSessionId i) k s =
    .ok ((), s.setEntry i ((s.table i).setSessionID (d.foundId (s.table i).info.sessionID)), k')
  := by
  have hread : (machine t).exec ω (readSessionId .pppoe) (k + 1) s =
      .ok (d.lastTaken.map SessionRow.sessionId, s, k + 1 + 1) := by
    have hfile : (machine t).exec ω (readFile "/proc/net/pppoe".toList) (k + 1) s =
        .ok (some d.text, s, k + 1 + 1) := by
      rw [← hω]
      apply Machine.exec_perform
      rfl
    rw [readSessionId, Machine.exec_bind, hfile]
    dsimp only [Except.bind]
    rw [pppoeSessionId_fgets]
    rfl
  rw [getSessionId, findSessionId_eq, Machine.exec_bind, Machine.exec_bind, exec_load hi]
  dsimp only [Except.bind]
  rw [hlink, hread, SessionTable.foundId]
  dsimp only [Except.bind]
  cases d.lastTaken with
  | none =>
      use k + 2
      rw [Sys.setEntry_self]
      · rfl
      · rfl
  | some l => exact ⟨_, exec_store hi⟩

/-- `PPPoE_GetParamUlongValue` reports the id it finds. -/
theorem exec_reportSessionId (hω : d.IsRead ω) (hi : i < pppTableLength)
    (hlink : (s.table i).cfg.linkType = .pppoe) (hfree : s.locks i = []) :
  ∃ s' k', (machine t).exec ω (pppoeGetParamUlongValue i "SessionID".toList) k s =
    .ok (some (d.foundId (s.table i).info.sessionID), s', k')
  := by
  obtain ⟨k', hfound⟩ := exec_getSessionId (t := t) (k := k + 2)
    (s := (s.setLock i [t]).setEntry i (s.table i).fillIfInfo) hω hi (by
      rw [Sys.setEntry_table, Function.update_self]
      apply hlink)
  rw [Sys.setEntry_table, Function.update_self, Sys.setEntry_setEntry] at hfound
  rw [pppoeGetParamUlongValue_eq, if_pos rfl]
  apply exec_locked (v := .ok (some (d.foundId (s.table i).info.sessionID))) hi hfree
  use (s.setLock i [t]).setEntry i
    ((s.table i).fillIfInfo.setSessionID (d.foundId (s.table i).info.sessionID)), k' + 1, rfl
  rw [Machine.exec_bind, pppDmlGetIfInfo, exec_store_bind hi, Sys.setLock_table, hfound]
  dsimp only [Except.bind]
  rw [Machine.exec_bind, exec_load hi, Sys.setEntry_table, Function.update_self]
  rfl

/-- The rule of `get_session_id` where the content of the file is known. -/
theorem wp_storesFoundId {A : (o : Op) → o.Ans → Prop} {F : Prop}
    (hA : ∀ x, A (.readFile "/proc/net/pppoe".toList) x → x = some d.text)
    (hlink : (s.table i).cfg.linkType = .pppoe) {Q : Unit → Sys → Prop}
    (hQ : Q () (s.setEntry i ((s.table i).setSessionID (d.foundId (s.table i).info.sessionID)))) :
  (contract t A F).wp (getSessionId i) Q s
  := by
  rw [getSessionId, findSessionId_eq, Contract.wp_bind, Contract.wp_bind, wp_load]
  intro _
  rw [hlink, readSessionId, Contract.wp_bind, wp_readFile]
  intro x hx
  obtain rfl := hA x hx
  dsimp only
  rw [pppoeSessionId_fgets]
  rw [SessionTable.foundId] at hQ
  cases hlast : d.lastTaken with
  | none =>
      rw [hlast, Sys.setEntry_self] at hQ
      · apply hQ
      · rfl
  | some l =>
      rw [hlast] at hQ
      apply (wp_store i _ Q).mpr
      intro _
      apply hQ

/-- The id it finds is persisted when the link comes up, unless the database refuses the record. -/
theorem wp_switchPppState_up {A : (o : Op) → o.Ans → Prop} {F : Prop}
    (hA : ∀ x, A (.readFile "/proc/net/pppoe".toList) x → x = some d.text)
    (hlink : (s.table i).cfg.linkType = .pppoe) {msg : IpcPppEventMsg}
    (hup : msg.pppState = .interfaceUp) :
  (contract t A F).wp (switchPppState i msg) (fun _ s' => s'.psm = s.psm ∧
      (∃ v, A (.psmSet psmPppSessionid v) false) ∨
    s'.psm = (s.setRecord psmPppSessionid (sessionIdText (d.foundId (s.table i).info.sessionID))).psm) s
  := by
  apply wp_switchPppState_interfaceUp hup
  intro uptime _
  apply wp_storesFoundId hA
  · rw [Sys.setEntry_table, Function.update_self, switchEntry, hup]
    apply hlink
  · rintro (_ | _) hw
    · exact .inl ⟨rfl, _, hw rfl⟩
    · right
      simp only [Sys.setEntry_table, Function.update_self, switchEntry, hup]
      rfl

theorem foundId_eq_iff {r : SessionRow} {old : ULong} :
  d.foundId old = r.sessionId ↔ d.Leaves r old
  := by
  have hinj : ∀ l : SessionRow, l.sessionId = r.sessionId ↔ l.sid = r.sid := by
    intro l
    constructor
    · intro h
      have hsid := congrArg (BitVec.setWidth 16) h
      rw [SessionRow.sessionId, SessionRow.sessionId] at hsid
      simpa using hsid
    · intro h
      rw [SessionRow.sessionId, h, SessionRow.sessionId]
  rw [SessionTable.foundId, SessionTable.Leaves]
  cases d.lastTaken with
  | none => simp
  | some l => simp [hinj]

/-- The session id an interface uses is the one that is found. -/
theorem foundId_of_usesSession (hω : d.IsRead ω) (hi : i < pppTableLength)
    (hlink : (s.table i).cfg.linkType = .pppoe) {id : ULong} (h : UsesSession ω k s i id) :
  d.foundId (s.table i).info.sessionID = id
  := by
  obtain ⟨s', k', hexec, hid, -⟩ := h.stored .dataModel
  obtain ⟨k₁, hfound⟩ := exec_getSessionId (t := .dataModel) (k := k) hω hi hlink
  obtain ⟨-, hstate⟩ := Prod.mk.inj (Except.ok.inj (hexec.symm.trans hfound))
  obtain ⟨rfl, -⟩ := Prod.mk.inj hstate
  rw [Sys.setEntry_table, Function.update_self] at hid
  apply hid

/-- For every content of `/proc/net/pppoe`, every row of it and every PPPoE interface, whose session may
be that of the row, the interface uses the session id of the row exactly if the last row without the
letters `Id` has that session id, or there is no such row, and the interface had that session id
before. -/
theorem usesSession_iff (hω : d.IsRead ω) (hi : i < pppTableLength)
    (hlink : (s.table i).cfg.linkType = .pppoe) :
  ∀ r ∈ d.rows, UsesSession ω k s i r.sessionId ↔ d.Leaves r (s.table i).info.sessionID
  := by
  intro r _
  rw [← foundId_eq_iff]
  constructor
  · apply foundId_of_usesSession hω hi hlink
  · intro hid
    constructor
    · intro t
      obtain ⟨k₁, hfound⟩ := exec_getSessionId (t := t) (k := k) hω hi hlink
      rw [hid] at hfound
      have hstored : (s.setEntry i ((s.table i).setSessionID r.sessionId)).table i =
          (s.table i).setSessionID r.sessionId := by
        rw [Sys.setEntry_table, Function.update_self]
      refine ⟨_, k₁, hfound, ?_⟩
      rw [hstored]
      exact ⟨rfl, fun _ _ => rfl⟩
    · intro hfree t
      rw [← hid]
      apply exec_reportSessionId hω hi hlink hfree
    · intro t msg hup q s' k' hexec
      have hA : ∀ x : Option CStr, (∃ k, ω k (.readFile "/proc/net/pppoe".toList) = x) →
          x = some d.text := by
        rintro x ⟨k, rfl⟩
        apply hω
      have hends := Contract.wp_exec_ok
        (C := contract t (fun o (x : o.Ans) => ∃ k, ω k o = x) True) (fun k _ _ => ⟨k, rfl⟩)
        (wp_switchPppState_up hA hlink hup) hexec
      rw [← hid]
      rcases hends with ⟨hpsm, v, k, hrefused⟩ | hpsm
      · exact .inl ⟨hpsm, k, v, hrefused⟩
      · exact .inr hpsm

end

/-! ### Two sessions -/

/-- A row for a session on the device `eth` with a number. -/
def ethRow (sid : BitVec 16) (digits : CStr) (hdigits : digits.all Char.isDigit = true) :
    SessionRow where
  sid := sid
  address := fun _ => 0x53
  device := "eth".toList ++ digits
  device_ne_nil := List.cons_ne_nil _ _
  device_plain := by
    have heth : "eth".toList.all (fun c => !isSpace c) = true := rfl
    intro c hc
    rcases List.mem_append.mp hc with hc | hc
    · rw [← Bool.not_eq_true']
      apply List.all_eq_true.mp heth c hc
    · apply not_isSpace_of_isDigit (List.all_eq_true.mp hdigits c hc)

/-- The session 1 on `eth2`, and the session 2 on `eth3`. -/
def twoSessions : SessionTable where
  header := "Id       Address              Device".toList
  rows := [ethRow 1 "2".toList rfl, ethRow 2 "3".toList rfl]
  header_id := ⟨[], _, rfl⟩
  header_line := by decide
  header_short := by decide
  rows_short := by decide +kernel
  devices_distinct := by decide

/-- The answers of an outside with the two sessions. -/
def twoSessionsAnswers : Answers :=
  { workingOutside 1 none [] with file := fun _ => some twoSessions.text }.answers

theorem lastTaken_twoSessions :
  twoSessions.lastTaken = some (ethRow 2 "3".toList rfl)
  := by
  rw [SessionTable.lastTaken, List.filter_eq_self.mpr]
  · rfl
  · intro r hr
    rcases List.mem_pair.mp hr with rfl | rfl <;> rfl

/-- The interface whose session is on `eth3` uses it. -/
theorem usesSession_iff_eth3 :
  UsesSession twoSessionsAnswers 0 (freshState 1) 0 (ethRow 2 "3".toList rfl).sessionId
  := by
  apply (usesSession_iff (d := twoSessions) _ _ _ _ _).mpr
  · exact .inl ⟨_, lastTaken_twoSessions, rfl⟩
  · intro k
    rfl
  · decide
  · rfl
  · apply List.mem_cons_of_mem _ List.mem_cons_self

/-- The interface whose session is on `eth2` uses the one on `eth3` as well. -/
theorem other_session_used :
  ¬ ∀ (d : SessionTable) (ω : Answers) (i k : ℕ) (s : Sys), d.IsRead ω → i < pppTableLength →
    (s.table i).cfg.linkType = .pppoe → ∀ r ∈ d.rows, UsesSession ω k s i r.sessionId
  := by
  intro h
  have hω : twoSessions.IsRead twoSessionsAnswers := fun _ => rfl
  have huses := h twoSessions twoSessionsAnswers 0 0 (freshState 1) hω (by decide) rfl _
    List.mem_cons_self
  have hid := foundId_of_usesSession hω (by decide) rfl huses
  rw [SessionTable.foundId, lastTaken_twoSessions] at hid
  revert hid
  decide

end PppManager
