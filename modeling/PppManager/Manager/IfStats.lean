import PppManager.Manager.Outside
import Mathlib.Data.List.Nodup

/-!
# Interface counters

What `CosaUtilGetIfStats` reads from `/proc/net/dev`.  It takes the first line that mentions the
name of the interface anywhere, and cuts the counters at the greatest `long`
(`getIfStatsLoop_lines`); so it fills in the counters of the line of the interface exactly when the
first line that mentions the name has the same counters, none of them cut
(`cosaUtilGetIfStats_exact_iff`).
-/

namespace PppManager

open Effect CText

/-! ### The file -/

/-- The characters of a counter in a line: its value, after one blank and some more. -/
def devColumn (blanks value : ℕ) : CStr :=
  List.replicate (blanks + 1) ' ' ++ dec value

/-- A line of `/proc/net/dev`: the name of an interface and its sixteen counters, with the number
of blanks before the name and of those before each counter, but one. -/
structure DevLine where
  indent : ℕ
  name : CStr
  blanks : Fin 16 → ℕ
  counters : Fin 16 → ℕ
  name_ne_nil : name ≠ []
  name_plain : ∀ c ∈ name, c ≠ ':' ∧ isSpace c = false

namespace DevLine

/-- The columns of a line with its counters. -/
def columns (l : DevLine) : List (ℕ × ℕ) :=
  (List.finRange 16).map fun j => (l.blanks j, l.counters j)

/-- The characters of a line after its colon. -/
def columnsText (l : DevLine) : CStr :=
  l.columns.flatMap fun p => devColumn p.1 p.2

/-- The characters of a line, without the line end. -/
def body (l : DevLine) : CStr :=
  (List.replicate l.indent ' ' ++ l.name) ++ ':' :: l.columnsText

/-- The characters of a line. -/
def text (l : DevLine) : CStr :=
  l.body ++ ['\n']

/-- The line has the string somewhere in it. -/
def mentions (ifname : CStr) (l : DevLine) : Bool :=
  (strstr ifname l.text).isSome

end DevLine

/-- A content of `/proc/net/dev`: two header lines, and a line for each interface. -/
structure NetDev where
  header₁ : CStr
  header₂ : CStr
  lines : List DevLine
  header_line : '\n' ∉ header₁ ∧ '\n' ∉ header₂
  header_short : header₁.length < 1023 ∧ header₂.length < 1023
  line_short : ∀ l ∈ lines, l.text.length ≤ 1023
  names_distinct : (lines.map DevLine.name).Nodup

/-- The characters of the file. -/
def NetDev.text (d : NetDev) : CStr :=
  (d.header₁ :: d.header₂ :: d.lines.map DevLine.body).flatMap (· ++ ['\n'])

/-! ### The counters -/

/-- The greatest `long`. -/
def longMax : ℕ := 2 ^ 63 - 1

/-- The columns that are stored, each with the field that is to hold it. -/
def DmlIfStats.stored (stats : DmlIfStats) : List (Fin 16 × ULong) :=
  [(0, stats.bytesReceived), (1, stats.packetsReceived), (2, stats.errorsReceived),
    (3, stats.discardPacketsReceived), (8, stats.bytesSent), (9, stats.packetsSent),
    (10, stats.errorsSent), (11, stats.discardPacketsSent)]

/-- The columns that are stored. -/
def storedColumns : List (Fin 16) := [0, 1, 2, 3, 8, 9, 10, 11]

namespace DevLine

/-- The fields hold the counters of the line. -/
def Fills (l : DevLine) (stats : DmlIfStats) : Prop :=
  ∀ p ∈ stats.stored, p.2.toNat = l.counters p.1

/-- The value `%ld` reads for a counter. -/
def scannedCounter (l : DevLine) (j : Fin 16) : ULong :=
  ULong.ofLong (clampLong (l.counters j))

/-- The fields after the line is read. -/
def scanned (l : DevLine) : DmlIfStats where
  bytesReceived := l.scannedCounter 0
  packetsReceived := l.scannedCounter 1
  errorsReceived := l.scannedCounter 2
  discardPacketsReceived := l.scannedCounter 3
  bytesSent := l.scannedCounter 8
  packetsSent := l.scannedCounter 9
  errorsSent := l.scannedCounter 10
  discardPacketsSent := l.scannedCounter 11

theorem scannedCounter_toNat (l : DevLine) (j : Fin 16) :
  (l.scannedCounter j).toNat = min (l.counters j) longMax
  := by
  rw [scannedCounter, BitVec.toNat_ofInt, clampLong, longMax]
  omega

/-- The fields after a line is read hold the counters of a line exactly if those are the counters of
the first, cut at the greatest `long`. -/
theorem fills_scanned_iff {l f : DevLine} :
  l.Fills f.scanned ↔ ∀ j ∈ storedColumns, min (f.counters j) longMax = l.counters j
  := by
  simp only [Fills, scanned, DmlIfStats.stored, storedColumns, List.forall_mem_cons,
    List.not_mem_nil, false_implies, implies_true, scannedCounter_toNat]

end DevLine

/-! ### Reading the file -/

theorem isSpace_of_mem_replicate {n : ℕ} {c : Char} (h : c ∈ List.replicate n ' ') :
  isSpace c = true
  := by
  rw [List.eq_of_mem_replicate h]
  rfl

/-- The numbers of a row of columns are read one after the other. -/
theorem scanNumbers_columns {n : ℕ} {ps : List (ℕ × ℕ)} (hn : n ≤ ps.length) :
  scanNumbers n (ps.flatMap (fun p => devColumn p.1 p.2) ++ ['\n']) =
    (ps.take n).map (fun p => ULong.ofLong (clampLong p.2))
  := by
  induction ps generalizing n with
  | nil =>
      obtain rfl := Nat.le_zero.mp hn
      rfl
  | cons p ps ih =>
      cases n with
      | zero => rfl
      | succ n =>
          have hrest : (ps.flatMap (fun p => devColumn p.1 p.2) ++ ['\n']).takeWhile
              Char.isDigit = [] := by
            cases ps <;> rfl
          have hscan : scanInt ((p :: ps).flatMap (fun p => devColumn p.1 p.2) ++ ['\n']) =
              some ((p.2 : ℤ), ps.flatMap (fun p => devColumn p.1 p.2) ++ ['\n']) := by
            rw [List.flatMap_cons, devColumn, List.append_assoc, List.append_assoc,
              (scanInt_field (fun _ => isSpace_of_mem_replicate)
                (fun _ => isDigit_of_mem_dec_ofNat) Nat.toDigits_ne_nil hrest).1]
            show some (((Nat.ofDigitChars 10 (Nat.toDigits 10 p.2) 0 : ℕ) : ℤ), _) = _
            rw [Nat.ofDigitChars_ten_toDigits]
          rw [scanNumbers, hscan]
          dsimp only
          rw [ih (Nat.le_of_succ_le_succ hn), List.take_succ_cons, List.map_cons]

theorem statsOfLine_columnsText (l : DevLine) :
  statsOfLine (l.columnsText ++ ['\n']) = (l.scanned, true)
  := by
  rw [statsOfLine, DevLine.columnsText, scanNumbers_columns (Nat.le_add_right 12 4)]
  rfl

theorem strstr_colon (l : DevLine) :
  strstr ":".toList l.text = some (':' :: (l.columnsText ++ ['\n']))
  := by
  rw [DevLine.text, DevLine.body, List.append_assoc, List.cons_append]
  apply strstr_char
  intro h
  rcases List.mem_append.mp h with h | h
  · cases List.eq_of_mem_replicate h
  · apply (l.name_plain ':' h).1 rfl

/-- A line mentions the name it begins with. -/
theorem mentions_name (l : DevLine) :
  l.mentions l.name = true
  := by
  apply isSome_strstr
  rw [DevLine.text, DevLine.body, List.append_assoc, List.append_assoc]
  apply List.infix_append'

/-- The loop takes the first line that mentions the name. -/
theorem getIfStatsLoop_lines (ifname : CStr) (lines : List DevLine) (pStats : DmlIfStats) :
  getIfStatsLoop ifname (lines.map DevLine.text) pStats =
    match lines.find? (DevLine.mentions ifname) with
    | none => (0, pStats)
    | some f => (1, f.scanned)
  := by
  induction lines with
  | nil => rfl
  | cons l lines ih =>
      rw [List.map_cons, getIfStatsLoop, strstr_colon]
      dsimp only
      rw [List.drop_succ_cons, List.drop_zero, statsOfLine_columnsText, List.find?_cons]
      rw [DevLine.mentions]
      cases (strstr ifname l.text).isSome with
      | true => rfl
      | false => apply ih

theorem newline_not_mem_body (l : DevLine) :
  '\n' ∉ l.body
  := by
  intro h
  rcases List.mem_append.mp h with h | h
  · rcases List.mem_append.mp h with h | h
    · cases List.eq_of_mem_replicate h
    · cases (l.name_plain '\n' h).2
  · rcases List.mem_cons.mp h with h | h
    · cases h
    · obtain ⟨p, -, h⟩ := List.mem_flatMap.mp h
      rcases List.mem_append.mp h with h | h
      · cases List.eq_of_mem_replicate h
      · cases isDigit_of_mem_dec_ofNat h

theorem fgets_netDev (d : NetDev) :
  (fgets 1024 d.text).drop 2 = d.lines.map DevLine.text
  := by
  rw [NetDev.text, fgets_lines]
  · rw [List.map_cons, List.map_cons, List.drop_succ_cons, List.drop_succ_cons, List.drop_zero,
      List.map_map]
    rfl
  · simp only [List.forall_mem_cons]
    refine ⟨⟨d.header_line.1, ?_⟩, ⟨d.header_line.2, ?_⟩, ?_⟩
    · apply Nat.succ_lt_succ d.header_short.1
    · apply Nat.succ_lt_succ d.header_short.2
    · intro v hv
      obtain ⟨l, hl, rfl⟩ := List.mem_map.mp hv
      use newline_not_mem_body l
      have hshort := d.line_short l hl
      rw [DevLine.text, List.length_append, List.length_singleton] at hshort
      apply Nat.lt_succ_of_le hshort

/-! ### The result -/

section

variable {t : Thread} {ω : (machine t).Oracle} {k : ℕ} {s : Sys} {d : NetDev} {ifname : CStr}
  {pStats : DmlIfStats}

/-- The result is that of the line named `ifname`: the counters of that line, and where there is
none, 0 and counters that are not changed. -/
def ExactStats (d : NetDev) (ifname : CStr) (pStats : DmlIfStats) (r : ℤ × DmlIfStats) : Prop :=
  (∀ l ∈ d.lines, l.name = ifname → l.Fills r.2) ∧
    ((∀ l ∈ d.lines, l.name ≠ ifname) → r = (0, pStats))

theorem exec_cosaUtilGetIfStats (hω : ω k (.readFile "/proc/net/dev".toList) = some d.text) :
  (machine t).exec ω (cosaUtilGetIfStats ifname pStats) k s =
    .ok (match d.lines.find? (DevLine.mentions ifname) with
      | none => (0, pStats)
      | some f => (1, f.scanned), s, k + 1)
  := by
  have hread : (machine t).exec ω (readFile "/proc/net/dev".toList) k s =
      .ok (some d.text, s, k + 1) := by
    rw [← hω]
    apply Machine.exec_perform
    rfl
  rw [cosaUtilGetIfStats, Machine.exec_bind, hread]
  dsimp only [Except.bind]
  rw [Machine.exec_pure, fgets_netDev, getIfStatsLoop_lines]

/-- `CosaUtilGetIfStats` fills in the counters of the interface exactly if the first line that
mentions its name, if there is one, has the counters of the line with that name when they are cut at
the greatest `long`. -/
theorem cosaUtilGetIfStats_exact_iff
    (hω : ω k (.readFile "/proc/net/dev".toList) = some d.text) :
  (∃ r, (machine t).exec ω (cosaUtilGetIfStats ifname pStats) k s = .ok (r, s, k + 1) ∧
      ExactStats d ifname pStats r) ↔
    ∀ f, d.lines.find? (DevLine.mentions ifname) = some f →
      ∃ l ∈ d.lines, l.name = ifname ∧
        ∀ j ∈ storedColumns, min (f.counters j) longMax = l.counters j
  := by
  rw [exec_cosaUtilGetIfStats hω]
  cases hfind : d.lines.find? (DevLine.mentions ifname) with
  | none =>
      apply iff_of_true
      · refine ⟨_, rfl, ?_, fun _ => rfl⟩
        intro l hl hname
        cases (List.find?_eq_none.mp hfind l hl) (hname ▸ mentions_name l)
      · intro f hf
        cases hf
  | some f =>
      constructor
      · rintro ⟨r, hr, hfills, hnone⟩ f' hf
        obtain rfl := Option.some.inj hf
        obtain ⟨rfl, -⟩ := Prod.mk.inj (Except.ok.inj hr)
        by_contra hno
        have hother : ∀ l ∈ d.lines, l.name ≠ ifname := by
          intro l hl hname
          apply hno
          use l, hl, hname
          apply DevLine.fills_scanned_iff.mp (hfills l hl hname)
        cases hnone hother
      · intro h
        obtain ⟨l, hl, hname, hcounters⟩ := h f rfl
        refine ⟨_, rfl, ?_, ?_⟩
        · intro l' hl' hname'
          obtain rfl := List.inj_on_of_nodup_map d.names_distinct hl' hl (hname'.trans hname.symm)
          apply DevLine.fills_scanned_iff.mpr hcounters
        · intro hother
          apply absurd hname (hother l hl)

end

/-- The line of the interface `ppp` with a number, with the same value in all its counters. -/
def pppLine (digits : CStr) (hdigits : digits.all Char.isDigit = true) (value : ℕ) : DevLine where
  indent := 2
  name := "ppp".toList ++ digits
  blanks := fun _ => 0
  counters := fun _ => value
  name_ne_nil := List.cons_ne_nil _ _
  name_plain := by
    intro c hc
    rcases List.mem_append.mp hc with hc | hc
    · rw [List.eq_of_mem_replicate (n := 3) hc]
      exact ⟨by decide, rfl⟩
    · have hdigit := List.all_eq_true.mp hdigits c hc
      use fun h => absurd hdigit (by rw [h]; decide), not_isSpace_of_isDigit hdigit

/-- The file with the lines of two interfaces, `ppp01` with the value 1 and `ppp0` with the value 2
in all counters, in one order or the other. -/
def twoLines (nested : Bool) : NetDev where
  header₁ := "Inter-|   Receive                            |  Transmit".toList
  header₂ := " face |bytes    packets errs drop |bytes    packets errs drop".toList
  lines :=
    if nested then [pppLine "01".toList rfl 1, pppLine "0".toList rfl 2]
    else [pppLine "0".toList rfl 2, pppLine "01".toList rfl 1]
  header_line := by decide +kernel
  header_short := by decide +kernel
  line_short := by
    cases nested <;> decide +kernel
  names_distinct := by
    cases nested <;> decide +kernel

/-- The answers of an outside with a content of `/proc/net/dev`. -/
def netDevAnswers (d : NetDev) : Answers :=
  { workingOutside 0 none [] with file := fun _ => some d.text }.answers

theorem cosaUtilGetIfStats_exact_iff_ppp0 :
  (∃ r, (machine .dataModel).exec (netDevAnswers (twoLines false))
      (cosaUtilGetIfStats "ppp0".toList DmlIfStats.zero) 0 (freshState 1) =
        .ok (r, freshState 1, 1) ∧
      ExactStats (twoLines false) "ppp0".toList DmlIfStats.zero r) ↔
    ∀ f, (twoLines false).lines.find? (DevLine.mentions "ppp0".toList) = some f →
      ∃ l ∈ (twoLines false).lines, l.name = "ppp0".toList ∧
        ∀ j ∈ storedColumns, min (f.counters j) longMax = l.counters j
  := cosaUtilGetIfStats_exact_iff rfl

/-- The counters of `ppp01` are given for those of `ppp0`. -/
theorem longer_name_found_first :
  ¬ ∀ (d : NetDev) (ifname : CStr) (pStats : DmlIfStats) (t : Thread) (ω : (machine t).Oracle)
    (k : ℕ) (s : Sys), ω k (.readFile "/proc/net/dev".toList) = some d.text → ifname.length ≤ 9 →
    ∃ r, (machine t).exec ω (cosaUtilGetIfStats ifname pStats) k s = .ok (r, s, k + 1) ∧
      ExactStats d ifname pStats r
  := by
  intro h
  obtain ⟨r, hr, hfills, -⟩ := h (twoLines true) "ppp0".toList DmlIfStats.zero .dataModel
    (netDevAnswers (twoLines true)) 0 (freshState 1) rfl (by decide)
  have hfind : (twoLines true).lines.find? (DevLine.mentions "ppp0".toList) =
      some (pppLine "01".toList rfl 1) := by
    apply List.find?_cons_of_pos
    decide +kernel
  rw [exec_cosaUtilGetIfStats rfl, hfind] at hr
  obtain ⟨rfl, -⟩ := Prod.mk.inj (Except.ok.inj hr)
  have hcounters := DevLine.fills_scanned_iff.mp
    (hfills (pppLine "0".toList rfl 2) (List.mem_cons_of_mem _ List.mem_cons_self) rfl) 0
    List.mem_cons_self
  revert hcounters
  decide

end PppManager
