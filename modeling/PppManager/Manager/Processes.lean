import Mathlib.Data.List.Nodup
import PppManager.Manager.Outside

/-!
# The search for a process by name

`check_proc_entry_for_pid` reads the name of a process up to the first blank of its file `stat`, so a
name with a blank in it may be read as another.  The search finds the first process with a name unless
a process whose name is misread comes before it (`checkProcEntryForPid_finds_iff`).
-/

namespace PppManager

open Effect Effect.Program CText

/-! ### The first entry of a list -/

section

variable {α : Type} {l : List α} {f g : α → Bool}

/-- The first entries with two properties, one of which implies the other, are the same unless an entry
that only has the weaker one comes before all that have the stronger. -/
theorem find?_eq_find?_iff (h : ∀ x, f x = true → g x = true) :
  l.find? g = l.find? f ↔
    ∀ before x after, l = before ++ x :: after → g x = true → f x = false →
      ∃ y ∈ before, f y = true
  := by
  induction l with
  | nil => simp
  | cons y l ih =>
      cases hf : f y with
      | true =>
          rw [List.find?_cons_of_pos hf, List.find?_cons_of_pos (h y hf)]
          apply iff_of_true rfl
          intro before x after heq _ hx
          cases before with
          | nil =>
              obtain ⟨rfl, -⟩ := List.cons.inj heq
              rw [hf] at hx
              cases hx
          | cons z before =>
              obtain ⟨rfl, -⟩ := List.cons.inj heq
              exact ⟨y, List.mem_cons_self, hf⟩
      | false =>
          have hskipf : (y :: l).find? f = l.find? f := by
            rw [List.find?_cons, hf]
          rw [hskipf]
          cases hg : g y with
          | true =>
              rw [List.find?_cons_of_pos hg]
              apply iff_of_false
              · intro heq
                have hy := List.find?_some heq.symm
                rw [hf] at hy
                cases hy
              · intro hall
                obtain ⟨z, hz, -⟩ := hall [] y l rfl hg hf
                cases hz
          | false =>
              have hskipg : (y :: l).find? g = l.find? g := by
                rw [List.find?_cons, hg]
              rw [hskipg, ih]
              constructor
              · intro hall before x after heq hgx hfx
                cases before with
                | nil =>
                    obtain ⟨rfl, -⟩ := List.cons.inj heq
                    rw [hg] at hgx
                    cases hgx
                | cons z before =>
                    obtain ⟨-, hl⟩ := List.cons.inj heq
                    obtain ⟨w, hw, hfw⟩ := hall before x after hl hgx hfx
                    exact ⟨w, List.mem_cons_of_mem _ hw, hfw⟩
              · intro hall before x after heq hgx hfx
                obtain ⟨w, hw, hfw⟩ := hall (y :: before) x after (congrArg _ heq) hgx hfx
                rcases List.mem_cons.mp hw with rfl | hmem
                · rw [hf] at hfw
                  cases hfw
                · exact ⟨w, hmem, hfw⟩

end

/-! ### Processes -/

/-- A process in a listing of `/proc`; `rest` is what its file `stat` says after the state. -/
structure Process where
  pid : ℕ
  comm : CStr
  state : Char
  rest : CStr
  cmdline : Option CStr
  pid_pos : 0 < pid
  pid_lt : pid < 2 ^ 31
  comm_ne : comm ≠ []
  comm_le : comm.length ≤ 15
  letter : state.isAlpha = true

namespace Process

/-- The file `stat`. -/
def stat (p : Process) : CStr :=
  dec p.pid ++ (" (".toList ++ (p.comm ++ (") ".toList ++ p.state :: p.rest)))

/-- The entry of the listing. -/
def dirent (p : Process) : ProcDirent where
  dName := dec p.pid
  isDir := true
  stat := some p.stat
  cmdline := p.cmdline

/-- The process runs or sleeps under a name. -/
def Is (p : Process) (name : CStr) : Prop :=
  p.comm = name ∧ (p.state = 'R' ∨ p.state = 'S')

instance (p : Process) (name : CStr) : Decidable (p.Is name) :=
  inferInstanceAs (Decidable (_ ∧ _))

end Process

/-- An entry of a listing of `/proc` that the search skips: no directory, none named by a number, or
none with a `stat` that can be opened. -/
structure SkippedDirent where
  dirent : ProcDirent
  skipped : dirent.isDir = false ∨ strtol64 dirent.dName = none ∨ dirent.stat = none

/-- A listing of `/proc`. -/
structure ProcListing where
  entries : List (Process ⊕ SkippedDirent)
  nodup : ((entries.filterMap Sum.getLeft?).map Process.pid).Nodup

namespace ProcListing

/-- The processes in the order of the listing. -/
def processes (L : ProcListing) : List Process :=
  L.entries.filterMap Sum.getLeft?

/-- The entries as the directory gives them. -/
def dirents (L : ProcListing) : List ProcDirent :=
  L.entries.map (Sum.elim Process.dirent SkippedDirent.dirent)

/-- The pid of the first process that runs or sleeps under a name, or 0. -/
def pidOf (L : ProcListing) (name : CStr) : ℤ :=
  ((L.processes.find? (fun p => p.Is name)).map (fun p => (p.pid : ℤ))).getD 0

end ProcListing

/-- Text of blanks. -/
def Blank (s : CStr) : Prop :=
  ∀ c ∈ s, isSpace c = true

/-- Text without blanks. -/
def NoBlank (s : CStr) : Prop :=
  ∀ c ∈ s, isSpace c = false

theorem noBlank_of_all {s : CStr} (h : s.all (fun c => !isSpace c) = true) :
  NoBlank s
  := by
  intro c hc
  apply (Bool.not_eq_true' _).mp (List.all_eq_true.mp h c hc)

/-- A process that runs or sleeps, or seems to, is taken to have the name although it has another: it
has blanks in front of the name, or a blank after the name and then an R or S. -/
inductive Misread (name : CStr) : CStr → Char → Prop
  | leading {bs : CStr} {state : Char} (hbs : Blank bs) (hne : bs ≠ [])
      (hstate : state = 'R' ∨ state = 'S') : Misread name (bs ++ name) state
  | inside {bs word bs' t : CStr} {c state : Char} (hbs : Blank bs) (hword : NoBlank word)
      (hne : word ≠ []) (hname : stripParen word = name) (hbs' : Blank bs') (hne' : bs' ≠ [])
      (hc : c = 'R' ∨ c = 'S') : Misread name (bs ++ (word ++ (bs' ++ c :: t))) state

/-! ### What the search reads -/

/-- The longest front of a text with a property of characters. -/
theorem exists_front (f : Char → Bool) (s : CStr) :
  ∃ u v, s = u ++ v ∧ (∀ c ∈ u, f c = true) ∧ (v = [] ∨ ∃ c t, v = c :: t ∧ f c = false)
  := by
  induction s with
  | nil => exact ⟨[], [], rfl, nofun, .inl rfl⟩
  | cons c s ih =>
      cases hc : f c with
      | false => exact ⟨[], c :: s, rfl, nofun, .inr ⟨c, s, rfl, hc⟩⟩
      | true =>
          obtain ⟨u, v, rfl, hu, hv⟩ := ih
          refine ⟨c :: u, v, rfl, ?_, hv⟩
          intro d hd
          rcases List.mem_cons.mp hd with rfl | hmem
          · apply hc
          · apply hu d hmem

theorem not_isSpace_of_isAlpha {c : Char} (h : c.isAlpha = true) :
  isSpace c = false
  := by
  apply not_isSpace_of_zero_le
  delta Char.isAlpha Char.isUpper Char.isLower at h
  rw [Bool.or_eq_true, Bool.and_eq_true] at h
  rcases h with hupper | ⟨hlower, -⟩
  · have hzero : '0'.val ≤ 'A'.val := by
      decide
    apply UInt32.le_trans hzero (of_decide_eq_true hupper).1
  · have hzero : '0'.val ≤ 'a'.val := by
      decide
    apply UInt32.le_trans hzero (of_decide_eq_true hlower)

/-- What the search reads of a process with a name and a state. -/
inductive StatReading : CStr → Char → CStr → Char → Prop
  | whole {bs u : CStr} {state : Char} (hbs : Blank bs) (hu : NoBlank u) :
      StatReading (bs ++ u) state u state
  | inside {bs word bs' t : CStr} {c state : Char} (hbs : Blank bs) (hword : NoBlank word)
      (hne : word ≠ []) (hbs' : Blank bs') (hne' : bs' ≠ []) (hc : isSpace c = false) :
      StatReading (bs ++ (word ++ (bs' ++ c :: t))) state (stripParen word) c
  | trailing {bs word bs' : CStr} {state : Char} (hbs : Blank bs) (hword : NoBlank word)
      (hne : word ≠ []) (hbs' : Blank bs') (hne' : bs' ≠ []) :
      StatReading (bs ++ (word ++ bs')) state (stripParen word) ')'

section

variable {bs word bs' comm name rest : CStr} {c state : Char} {pid : ℕ}

/-- The word after the parenthesis and what comes after the blanks behind it. -/
theorem scanStat_word (hbs : Blank bs) (hword : NoBlank word) (hne : word ≠ [])
    (hlength : word.length ≤ 255) (hrest : rest.takeWhile (fun c => !isSpace c) = []) :
  scanStat (dec pid ++ (" (".toList ++ (bs ++ (word ++ rest)))) =
    (word, (rest.dropWhile isSpace).head?)
  := by
  have hint : scanInt (dec pid ++ (" (".toList ++ (bs ++ (word ++ rest)))) =
      some ((pid : ℤ), " (".toList ++ (bs ++ (word ++ rest))) :=
    scanInt_dec_append pid rfl
  have hspace : (bs ++ (word ++ rest)).dropWhile isSpace = word ++ rest := by
    rw [List.dropWhile_append_of_pos hbs]
    obtain ⟨c, word, rfl⟩ := List.exists_cons_of_ne_nil hne
    apply List.dropWhile_cons_of_neg
    rw [hword c List.mem_cons_self]
    exact Bool.false_ne_true
  have htake : ((word ++ rest).takeWhile (fun c => !isSpace c)).take 255 = word := by
    rw [List.takeWhile_append_of_pos, hrest, List.append_nil, List.take_of_length_le hlength]
    intro c hc
    rw [hword c hc]
    rfl
  have hparen : (" (".toList ++ (bs ++ (word ++ rest))).dropWhile isSpace =
      '(' :: (bs ++ (word ++ rest)) := rfl
  simp only [scanStat, hint, hparen, hspace, htake]
  rw [if_neg hne, List.drop_left]

/-- The search reads something of every process. -/
theorem exists_statReading (comm : CStr) (state : Char) :
  ∃ name c, StatReading comm state name c
  := by
  obtain ⟨bs, u, rfl, hbs, hu⟩ := exists_front isSpace comm
  rcases hu with rfl | ⟨c, t, rfl, hc⟩
  · exact ⟨_, _, .whole hbs nofun⟩
  · obtain ⟨word, v, hsplit, hnot, hv⟩ := exists_front (fun c => !isSpace c) (c :: t)
    have hword : NoBlank word := by
      intro d hd
      apply (Bool.not_eq_true' _).mp (hnot d hd)
    rw [hsplit]
    rcases hv with rfl | ⟨d, t', rfl, hd⟩
    · rw [List.append_nil]
      exact ⟨_, _, .whole hbs hword⟩
    · have hne : word ≠ [] := by
        rintro rfl
        obtain ⟨rfl, -⟩ := List.cons.inj hsplit
        rw [hc] at hd
        cases hd
      obtain ⟨bs', v', hsplit', hbs', hv'⟩ := exists_front isSpace (d :: t')
      have hne' : bs' ≠ [] := by
        rintro rfl
        rw [List.nil_append] at hsplit'
        rcases hv' with rfl | ⟨d', t'', rfl, hd'⟩
        · cases hsplit'
        · obtain ⟨rfl, -⟩ := List.cons.inj hsplit'
          rw [hd'] at hd
          cases hd
      rw [hsplit']
      rcases hv' with rfl | ⟨d', t'', rfl, hd'⟩
      · rw [List.append_nil]
        exact ⟨_, _, .trailing hbs hword hne hbs' hne'⟩
      · exact ⟨_, _, .inside hbs hword hne hbs' hne' hd'⟩

/-- A word with blanks and another character behind it. -/
theorem scanStat_words (hbs : Blank bs) (hword : NoBlank word) (hne : word ≠ [])
    (hlength : word.length ≤ 255) (hbs' : Blank bs') (hne' : bs' ≠ []) (hc : isSpace c = false) :
  scanStat (dec pid ++ (" (".toList ++ (bs ++ (word ++ (bs' ++ c :: rest))))) = (word, some c)
  := by
  have htake : (bs' ++ c :: rest).takeWhile (fun c => !isSpace c) = [] := by
    obtain ⟨b, bs', rfl⟩ := List.exists_cons_of_ne_nil hne'
    apply List.takeWhile_cons_of_neg
    rw [hbs' b List.mem_cons_self]
    exact Bool.false_ne_true
  have hdrop : (bs' ++ c :: rest).dropWhile isSpace = c :: rest := by
    rw [List.dropWhile_append_of_pos hbs', List.dropWhile_cons, hc]
    rfl
  rw [scanStat_word hbs hword hne hlength htake, hdrop]
  rfl

/-- What the search reads of a process. -/
theorem StatReading.scan (h : StatReading comm state name c) (hlength : comm.length ≤ 15)
    (hstate : isSpace state = false) :
  stripParen (scanStat (dec pid ++ (" (".toList ++ (comm ++ (") ".toList ++ state :: rest))))).1 =
      name ∧
    (scanStat (dec pid ++ (" (".toList ++ (comm ++ (") ".toList ++ state :: rest))))).2 = some c
  := by
  have hparen : isSpace ')' = false := rfl
  cases h with
  | @whole bs =>
      rename_i hbs hu
      have hword : NoBlank (name ++ [')']) := by
        intro d hd
        rcases List.mem_append.mp hd with hmem | hmem
        · apply hu d hmem
        · rw [List.mem_singleton.mp hmem]
          rfl
      have htext : bs ++ name ++ (") ".toList ++ c :: rest) =
          bs ++ (name ++ [')'] ++ ([' '] ++ c :: rest)) := by
        simp
      have hblank : Blank [' '] := by
        intro d hd
        rw [List.mem_singleton.mp hd]
        rfl
      rw [htext, scanStat_words hbs hword (by simp) (by simp at hlength ⊢; omega) hblank
        (List.cons_ne_nil ' ' []) hstate, stripParen, if_pos (by simp)]
      simp
  | @inside bs word bs' t =>
      rename_i hbs hword hne hbs' hne' hc
      have htext : bs ++ (word ++ (bs' ++ c :: t)) ++ (") ".toList ++ state :: rest) =
          bs ++ (word ++ (bs' ++ c :: (t ++ (") ".toList ++ state :: rest)))) := by
        simp
      rw [htext, scanStat_words hbs hword hne (by simp at hlength; omega) hbs' hne' hc]
      exact ⟨rfl, rfl⟩
  | @trailing bs word bs' =>
      rename_i hbs hword hne hbs' hne'
      have htext : bs ++ (word ++ bs') ++ (") ".toList ++ state :: rest) =
          bs ++ (word ++ (bs' ++ ')' :: ([' '] ++ state :: rest))) := by
        simp
      rw [htext, scanStat_words hbs hword hne (by simp at hlength; omega) hbs' hne' hparen]
      exact ⟨rfl, rfl⟩

/-- A process that is read to run or sleep under a name has it, or is misread. -/
theorem StatReading.is_or_misread (h : StatReading comm state name c) (hc : c = 'R' ∨ c = 'S') :
  comm = name ∧ (state = 'R' ∨ state = 'S') ∨ Misread name comm state
  := by
  cases h with
  | @whole bs =>
      rename_i hbs hu
      by_cases hne : bs = []
      · subst hne
        exact .inl ⟨rfl, hc⟩
      · exact .inr (.leading hbs hne hc)
  | inside hbs hword hne hbs' hne' => exact .inr (.inside hbs hword hne rfl hbs' hne' hc)
  | trailing => simp at hc

theorem Misread.statReading (h : Misread name comm state) (hname : NoBlank name) :
  ∃ c, (c = 'R' ∨ c = 'S') ∧ StatReading comm state name c
  := by
  cases h with
  | leading hbs hne hstate => exact ⟨state, hstate, .whole hbs hname⟩
  | inside hbs hword hne hread hbs' hne' hc =>
      subst hread
      refine ⟨_, hc, .inside hbs hword hne hbs' hne' ?_⟩
      rcases hc with rfl | rfl <;> rfl

/-- A name without blanks is not misread as itself. -/
theorem Misread.ne (h : Misread name comm state) (hname : NoBlank name) :
  comm ≠ name
  := by
  intro hcomm
  cases h with
  | leading hbs hne hstate => apply hne (List.append_left_eq_self.mp hcomm)
  | @inside bs word bs' t c =>
      rename_i hbs hword hne hread hbs' hne' hc
      obtain ⟨b, bs', rfl⟩ := List.exists_cons_of_ne_nil hne'
      have hblank := hbs' b List.mem_cons_self
      have hnot := hname b (by rw [← hcomm]; simp)
      rw [hblank] at hnot
      cases hnot

end

/-! ### The search -/

/-- The search takes a process to run or sleep under a name. -/
def Process.ReadAs (p : Process) (name : CStr) : Prop :=
  stripParen (scanStat p.stat).1 = name ∧
    ((scanStat p.stat).2 = some 'R' ∨ (scanStat p.stat).2 = some 'S')

instance (p : Process) (name : CStr) : Decidable (p.ReadAs name) :=
  inferInstanceAs (Decidable (_ ∧ _))

section

variable {name : CStr} {p : Process}

theorem readAs_of_statReading {c : Char} (h : StatReading p.comm p.state name c)
    (hc : c = 'R' ∨ c = 'S') :
  p.ReadAs name
  := by
  obtain ⟨hread, hstate⟩ := h.scan p.comm_le (not_isSpace_of_isAlpha p.letter)
  use hread
  rw [Process.stat, hstate]
  apply hc.imp (congrArg some) (congrArg some)

/-- The search takes a process to have a name if it has it or is misread. -/
theorem readAs_iff (hname : NoBlank name) :
  p.ReadAs name ↔ p.Is name ∨ Misread name p.comm p.state
  := by
  constructor
  · rintro ⟨hread, hrun⟩
    obtain ⟨name', c, h⟩ := exists_statReading p.comm p.state
    obtain ⟨hread', hstate⟩ := h.scan p.comm_le (not_isSpace_of_isAlpha p.letter)
    obtain rfl := hread'.symm.trans hread
    apply h.is_or_misread
    rw [Process.stat, hstate, Option.some.injEq, Option.some.injEq] at hrun
    apply hrun
  · rintro (⟨hcomm, hrun⟩ | hmis)
    · have h : StatReading p.comm p.state name p.state := by
        rw [hcomm]
        apply @StatReading.whole [] name p.state nofun hname
      apply readAs_of_statReading h hrun
    · obtain ⟨c, hc, h⟩ := hmis.statReading hname
      apply readAs_of_statReading h hc

/-- The name of the entry of a process is its pid. -/
theorem strtol64_dec {pid : ℕ} (h : pid < 2 ^ 31) :
  strtol64 (dec pid) = some (pid : ℤ)
  := by
  have hclamp : clampLong pid = pid := by
    rw [clampLong]
    omega
  rw [strtol64, scanInt_dec]
  apply if_pos hclamp

/-- The search finds the first process it takes to have the name. -/
theorem checkProcEntries_eq {entries : List (Process ⊕ SkippedDirent)} {status : Char} :
  checkProcEntries name none status (entries.map (Sum.elim Process.dirent SkippedDirent.dirent)) =
    (((entries.filterMap Sum.getLeft?).find? (fun p => p.ReadAs name)).map
      (fun p => (p.pid : ℤ))).getD 0
  := by
  induction entries generalizing status with
  | nil => rfl
  | cons entry entries ih =>
      cases entry with
      | inr d =>
          rw [List.map_cons, Sum.elim_inr, checkProcEntries, List.filterMap_cons, Sum.getLeft?_inr]
          have hskip : (if d.dirent.isDir then strtol64 d.dirent.dName else none) = none ∨
              d.dirent.stat = none := by
            rcases d.skipped with hdir | hname | hstat
            · rw [hdir]
              exact .inl rfl
            · rw [hname]
              exact .inl (ite_self none)
            · exact .inr hstat
          rcases hskip with hpid | hstat
          · rw [hpid]
            apply ih
          · rw [hstat]
            split
            · rename_i heq
              cases heq
            · apply ih
      | inl p =>
          have hpid : (if p.dirent.isDir then strtol64 p.dirent.dName else none) = some (p.pid : ℤ) :=
            strtol64_dec p.pid_lt
          rw [List.map_cons, Sum.elim_inl, checkProcEntries, List.filterMap_cons, Sum.getLeft?_inl,
            hpid, List.find?_cons]
          dsimp only [Process.dirent]
          obtain ⟨name', c, h⟩ := exists_statReading p.comm p.state
          have hstate : (scanStat p.stat).2 = some c :=
            (h.scan p.comm_le (not_isSpace_of_isAlpha p.letter)).2
          have hreads : p.ReadAs name ↔
              stripParen (scanStat p.stat).1 = name ∧ (c = 'R' ∨ c = 'S') := by
            rw [Process.ReadAs, hstate, Option.some.injEq, Option.some.injEq]
          rw [hstate, Option.getD_some]
          by_cases hread : p.ReadAs name
          · rw [decide_eq_true hread, if_pos (by simpa using hreads.mp hread)]
            apply toInt_of_lt
            · omega
            · exact Int.ofNat_lt.mpr p.pid_lt
          · rw [decide_eq_false hread, if_neg (by simpa using mt hreads.mpr hread)]
            apply ih

/-- The pid tells the processes of a listing apart. -/
theorem map_pid_getD_inj {L : ProcListing} {f g : Process → Bool} :
  ((L.processes.find? g).map (fun p => (p.pid : ℤ))).getD 0 =
      ((L.processes.find? f).map (fun p => (p.pid : ℤ))).getD 0 ↔
    L.processes.find? g = L.processes.find? f
  := by
  constructor
  · intro heq
    cases hg : L.processes.find? g with
    | none =>
        cases hf : L.processes.find? f with
        | none => rfl
        | some q =>
            rw [hg, hf] at heq
            have hpos := q.pid_pos
            change (0 : ℤ) = q.pid at heq
            omega
    | some p =>
        cases hf : L.processes.find? f with
        | none =>
            rw [hg, hf] at heq
            have hpos := p.pid_pos
            change (p.pid : ℤ) = 0 at heq
            omega
        | some q =>
            rw [hg, hf] at heq
            have hpid : p.pid = q.pid := Int.ofNat_inj.mp heq
            have hinj := List.inj_on_of_nodup_map L.nodup
            rw [hinj (List.mem_of_find?_eq_some hg) (List.mem_of_find?_eq_some hf) hpid]
  · intro heq
    rw [heq]

/-- The search of a listing for a name gives the pid of the first process that runs or sleeps under
it. -/
def FindsByName (t : Thread) (ω : Answers) (L : ProcListing) (name : CStr) (k : ℕ) (s : Sys) : Prop :=
  (machine t).exec ω (checkProcEntryForPid name none) k s = .ok (L.pidOf name, s, k + 1)

/-- The search finds the process unless one that is misread comes before it. -/
theorem checkProcEntryForPid_finds_iff {t : Thread} {ω : Answers} {L : ProcListing} {k : ℕ} {s : Sys}
    (hname : NoBlank name) (hω : ω k .readProc = some L.dirents) :
  FindsByName t ω L name k s ↔
    ∀ before p after, L.processes = before ++ p :: after → Misread name p.comm p.state →
      ∃ q ∈ before, q.Is name
  := by
  have hread : (machine t).exec ω readProc k s = .ok (some L.dirents, s, k + 1) := by
    rw [← hω]
    apply Machine.exec_perform
    rfl
  have hexec : (machine t).exec ω (checkProcEntryForPid name none) k s =
      .ok (((L.processes.find? (fun p => p.ReadAs name)).map (fun p => (p.pid : ℤ))).getD 0,
        s, k + 1) := by
    rw [checkProcEntryForPid, Machine.exec_bind, hread]
    dsimp only [Except.bind]
    rw [ProcListing.dirents, checkProcEntries_eq]
    rfl
  rw [FindsByName, hexec, Except.ok.injEq, Prod.mk.injEq, and_iff_left rfl, ProcListing.pidOf,
    map_pid_getD_inj, find?_eq_find?_iff]
  · constructor
    · intro h before p after hsplit hmis
      have hread := (readAs_iff hname).mpr (.inr hmis)
      have hnot : ¬ p.Is name := fun his => hmis.ne hname his.1
      obtain ⟨q, hq, his⟩ := h before p after hsplit (decide_eq_true hread) (decide_eq_false hnot)
      exact ⟨q, hq, of_decide_eq_true his⟩
    · intro h before p after hsplit hread hnot
      rcases (readAs_iff hname).mp (of_decide_eq_true hread) with his | hmis
      · apply absurd his (of_decide_eq_false hnot)
      · obtain ⟨q, hq, his⟩ := h before p after hsplit hmis
        exact ⟨q, hq, decide_eq_true his⟩
  · intro p hp
    apply decide_eq_true
    apply (readAs_iff hname).mpr (.inl (of_decide_eq_true hp))

end

/-- A stopped process whose name goes on with a blank and an R after the name of the client. -/
def stoppedProcess : Process where
  pid := 5
  comm := "pppd R".toList
  state := 'T'
  rest := " 1 ".toList
  cmdline := none
  pid_pos := by decide
  pid_lt := by decide
  comm_ne := by decide
  comm_le := by decide
  letter := rfl

/-- A listing with only that process. -/
def stoppedListing : ProcListing where
  entries := [.inl stoppedProcess]
  nodup := List.nodup_singleton 5

theorem checkProcEntryForPid_finds_iff_stopped :
  FindsByName .event (workingOutside 1 none stoppedListing.dirents).answers stoppedListing
      "pppd".toList 0 (freshState 1) ↔
    ∀ before p after, stoppedListing.processes = before ++ p :: after →
      Misread "pppd".toList p.comm p.state → ∃ q ∈ before, q.Is "pppd".toList
  := checkProcEntryForPid_finds_iff (noBlank_of_all rfl) rfl

/-- No process of the listing has the name `pppd`, but the search finds one. -/
theorem stopped_process_found :
  ¬ FindsByName .event (workingOutside 1 none stoppedListing.dirents).answers stoppedListing
      "pppd".toList 0 (freshState 1)
  := by
  intro h
  have hpid : ((machine .event).exec (workingOutside 1 none stoppedListing.dirents).answers
      (checkProcEntryForPid "pppd".toList none) 0 (freshState 1)).toOption.map (·.1) = some 5 := by
    decide +kernel
  rw [h] at hpid
  have hnone : stoppedListing.pidOf "pppd".toList = 0 := by
    decide +kernel
  change some (stoppedListing.pidOf "pppd".toList) = some 5 at hpid
  rw [hnone] at hpid
  cases hpid

end PppManager
