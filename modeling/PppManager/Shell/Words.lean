import PppManager.Effect.Runs
import Mathlib.Algebra.Order.Ring.Int
import Mathlib.Data.List.Basic

/-!
# Words of a shell command

How a POSIX shell splits a text into words: blanks end a word, and backslashes, single quotes and
double quotes keep characters from having a meaning.  The scanner reads the text one character at a
time; it gives up at an expansion, so that the words it gives are made of characters of the text.

`Splits s ws` states that the text is one simple command of the words `ws`, without an operator or
an end of line.  A line of words some of which stand between single quotes splits into these words
exactly if none of those has a single quote (`splits_commandLine_iff`).
-/

namespace Shell

open Effect

/-- What a character of a word stands in. -/
inductive Quote where
  | plain
  | escape
  | single
  | double
  | doubleEscape

/-- What the scanner is in: between words, after a backslash there, in a comment, or in a word. -/
inductive Mode where
  | gap
  | gapEscape
  | comment
  | word (q : Quote) (w : List Char)

/-- A token of the shell. -/
inductive Token where
  | word (w : List Char)
  | newline
  | operator (c : Char)
  deriving DecidableEq

/-- The tokens read so far, and what the scanner is in. -/
structure Scan where
  tokens : List Token
  mode : Mode

/-- A character that separates words. -/
def isBlank (c : Char) : Bool :=
  c ∈ [' ', '\t']

/-- The first character of an operator. -/
def isOperator (c : Char) : Bool :=
  c ∈ [';', '&', '|', '<', '>', '(', ')']

/-- The first character of an expansion. -/
def isExpansion (c : Char) : Bool :=
  c ∈ ['$', '\x60']

/-- A character of a word, after its part `w`, that ends no word. -/
def readUnquoted (c : Char) (w : List Char) : Option Mode :=
  if c = '\'' then some (.word .single w)
  else if c = '"' then some (.word .double w)
  else if isExpansion c then none
  else some (.word .plain (w ++ [c]))

/-- The scanner reads a character. -/
def step (c : Char) (st : Scan) : Option Scan :=
  match st.mode with
  | .gap =>
    if isBlank c then some st
    else if c = '\n' then some { st with tokens := st.tokens ++ [.newline] }
    else if isOperator c then some { st with tokens := st.tokens ++ [.operator c] }
    else if c = '\\' then some { st with mode := .gapEscape }
    else if c = '#' then some { st with mode := .comment }
    else (readUnquoted c []).map (fun mode => { st with mode := mode })
  | .gapEscape =>
    if c = '\n' then some { st with mode := .gap }
    else some { st with mode := .word .plain [c] }
  | .comment =>
    if c = '\n' then some { tokens := st.tokens ++ [.newline], mode := .gap }
    else some st
  | .word .plain w =>
    if isBlank c then some { tokens := st.tokens ++ [.word w], mode := .gap }
    else if c = '\n' then some { tokens := st.tokens ++ [.word w, .newline], mode := .gap }
    else if isOperator c then some { tokens := st.tokens ++ [.word w, .operator c], mode := .gap }
    else if c = '\\' then some { st with mode := .word .escape w }
    else (readUnquoted c w).map (fun mode => { st with mode := mode })
  | .word .escape w =>
    if c = '\n' then some { st with mode := .word .plain w }
    else some { st with mode := .word .plain (w ++ [c]) }
  | .word .single w =>
    if c = '\'' then some { st with mode := .word .plain w }
    else some { st with mode := .word .single (w ++ [c]) }
  | .word .double w =>
    if c = '"' then some { st with mode := .word .plain w }
    else if c = '\\' then some { st with mode := .word .doubleEscape w }
    else if isExpansion c then none
    else some { st with mode := .word .double (w ++ [c]) }
  | .word .doubleEscape w =>
    if c = '\n' then some { st with mode := .word .double w }
    else if isExpansion c || c = '"' || c = '\\' then
      some { st with mode := .word .double (w ++ [c]) }
    else some { st with mode := .word .double (w ++ ['\\', c]) }

/-- The tokens at the end of the text, unless a quote is open. -/
def finish (st : Scan) : Option (List Token) :=
  match st.mode with
  | .gap => some st.tokens
  | .comment => some st.tokens
  | .word .plain w => some (st.tokens ++ [.word w])
  | _ => none

/-- The tokens of a text. -/
def tokens (s : List Char) : Option (List Token) :=
  (run step s ⟨[], .gap⟩).bind finish

/-- The text is one simple command of the words `ws`. -/
def Splits (s : List Char) (ws : List (List Char)) : Prop :=
  ws ≠ [] ∧ tokens s = some (ws.map .word)

instance (s : List Char) (ws : List (List Char)) : Decidable (Splits s ws) :=
  inferInstanceAs (Decidable (_ ∧ _))

/-! ### What a text can be split into -/

/-- The number of characters that are no single quotes. -/
def unquotes (w : List Char) : ℕ :=
  w.countP (fun c => c ≠ '\'')

/-- The word has a single quote. -/
def hasQuote (w : List Char) : Bool :=
  '\'' ∈ w

/-- The number of characters a token takes at least, apart from single quotes. -/
def Token.size : Token → ℕ
  | .word w => unquotes w + 1
  | _ => 0

/-- The token has a single quote. -/
def Token.hasQuote : Token → Bool
  | .word w => Shell.hasQuote w
  | _ => false

/-- The number of characters that have been read to get into the mode and are in no word. -/
def Mode.weight : Mode → ℕ
  | .gapEscape => 1
  | .word .escape _ => 1
  | .word .double _ => 1
  | .word .doubleEscape _ => 2
  | _ => 0

/-- The part of the word that is being read. -/
def Mode.part : Mode → List Char
  | .word _ w => w
  | _ => []

/-- A word read so far has a single quote. -/
def Scan.hasQuote (st : Scan) : Bool :=
  st.tokens.any Token.hasQuote || Shell.hasQuote st.mode.part

/-- The number of characters that have been read at least, apart from single quotes: those of the
words, one blank for each of them, and one that has kept a single quote if there is one. -/
def Scan.size (st : Scan) : ℕ :=
  (st.tokens.map Token.size).sum + unquotes st.mode.part +
    max st.mode.weight st.hasQuote.toNat

theorem unquotes_append (v w : List Char) :
  unquotes (v ++ w) = unquotes v + unquotes w
  := List.countP_append

theorem unquotes_quote :
  unquotes ['\''] = 0
  := by
  decide

theorem unquotes_of_ne {c : Char} (h : c ≠ '\'') :
  unquotes [c] = 1
  := by
  rw [unquotes, List.countP_singleton, if_pos (decide_eq_true h)]

theorem unquotes_cons (c : Char) (w : List Char) :
  unquotes (c :: w) = unquotes [c] + unquotes w
  := unquotes_append [c] w

section

variable {ts : List Token} {mode mode' : Mode} {k : ℕ}

theorem size_mk :
  (Scan.mk ts mode).size = (ts.map Token.size).sum + unquotes mode.part +
    max mode.weight (Scan.mk ts mode).hasQuote.toNat
  := rfl

/-- A transition that writes `l` to the word, where `k` characters are read. -/
theorem size_write {l : List Char} (hpart : mode'.part = mode.part ++ l)
    (hfree : unquotes l + mode'.weight ≤ mode.weight + k)
    (hheld : unquotes l + max mode'.weight 1 ≤ max mode.weight 1 + k)
    (hquote : '\'' ∈ l → unquotes l + 1 ≤ mode.weight + k) :
  (Scan.mk ts mode').size ≤ (Scan.mk ts mode).size + k
  := by
  have hheld' := Bool.toNat_le (Scan.mk ts mode).hasQuote
  have hwritten : (Scan.mk ts mode').hasQuote = ((Scan.mk ts mode).hasQuote || hasQuote l) := by
    simp only [Scan.hasQuote, hasQuote, hpart, List.mem_append, Bool.decide_or, Bool.or_assoc]
  rw [size_mk, size_mk, hwritten, hpart, unquotes_append]
  by_cases hmem : '\'' ∈ l
  · have hroom := hquote hmem
    rw [hasQuote, decide_eq_true hmem, Bool.or_true, Bool.toNat_true]
    omega
  · rw [hasQuote, decide_eq_false hmem, Bool.or_false]
    omega

/-- A transition that writes nothing. -/
theorem size_turn (hpart : mode'.part = mode.part) (hweight : mode'.weight ≤ mode.weight + k) :
  (Scan.mk ts mode').size ≤ (Scan.mk ts mode).size + k
  := by
  apply size_write (l := [])
  · rw [hpart, List.append_nil]
  · rw [unquotes, List.countP_nil, Nat.zero_add]
    apply hweight
  · rw [unquotes, List.countP_nil]
    omega
  · intro h
    cases h

/-- Leaving a word, or what stands between words, with tokens that are no words. -/
theorem size_leave {us : List Token} (hsize : (us.map Token.size).sum = 0)
    (hquote : us.any Token.hasQuote = false) :
  (Scan.mk (ts ++ us) .gap).size ≤ (Scan.mk ts mode).size
  := by
  have hleft : (Scan.mk (ts ++ us) .gap).hasQuote.toNat ≤ (Scan.mk ts mode).hasQuote.toNat := by
    simp only [Scan.hasQuote, List.any_append, hquote, Mode.part, hasQuote, List.not_mem_nil,
      decide_false, Bool.or_false]
    cases ts.any Token.hasQuote
    · apply Nat.zero_le
    · apply Nat.le_refl
  have hsum : ((ts ++ us).map Token.size).sum = (ts.map Token.size).sum := by
    rw [List.map_append, List.sum_append, hsize, Nat.add_zero]
  rw [size_mk, size_mk, hsum]
  have hheld : max Mode.gap.weight (Scan.mk (ts ++ us) .gap).hasQuote.toNat =
      (Scan.mk (ts ++ us) .gap).hasQuote.toNat := Nat.zero_max _
  have hpart : unquotes Mode.gap.part = 0 := rfl
  omega

/-- The end of a word, which takes a character. -/
theorem size_close {w : List Char} :
  (Scan.mk (ts ++ [.word w]) .gap).size ≤ (Scan.mk ts (.word .plain w)).size + 1
  := by
  have hquote : (Scan.mk (ts ++ [.word w]) .gap).hasQuote =
      (Scan.mk ts (.word .plain w)).hasQuote := by
    simp only [Scan.hasQuote, Token.hasQuote, Mode.part, List.any_append, List.any_cons,
      List.any_nil, Bool.or_false]
    apply Bool.or_false
  rw [size_mk, size_mk, hquote, List.map_append, List.sum_append]
  apply Nat.le_of_eq
  simp only [List.map_cons, List.map_nil, List.sum_cons, List.sum_nil, Token.size, Mode.part,
    Mode.weight, unquotes, List.countP_nil]
  omega

theorem size_readUnquoted {m m' : Mode} {c : Char} (h : readUnquoted c m.part = some m')
    (hweight : m.weight = 0) :
  (Scan.mk ts m').size ≤ (Scan.mk ts m).size + unquotes [c]
  := by
  rw [readUnquoted] at h
  split_ifs at h with hsingle hdouble
  · obtain rfl := Option.some.inj h
    apply size_turn
    · rfl
    · apply Nat.zero_le
  · obtain rfl := Option.some.inj h
    apply size_turn
    · rfl
    · rw [unquotes_of_ne hsingle, hweight]
      apply Nat.le_refl
  · obtain rfl := Option.some.inj h
    apply size_write (l := [c])
    · rfl
    · rw [hweight, Nat.zero_add]
      apply Nat.le_refl
    · rw [hweight, Nat.add_comm]
      apply Nat.le_refl
    · intro h
      apply absurd (List.mem_singleton.mp h).symm hsingle

/-- A character that is read and kept, where what is left to keep one is there. -/
theorem size_keep {c : Char} (hpart : mode'.part = mode.part ++ [c])
    (hweight : mode'.weight ≤ mode.weight) (hquote : c = '\'' → 1 ≤ mode.weight) :
  (Scan.mk ts mode').size ≤ (Scan.mk ts mode).size + unquotes [c]
  := by
  apply size_write hpart
  · omega
  · omega
  · intro h
    have hheld := hquote (List.mem_singleton.mp h).symm
    omega

/-- A character read between words takes no more than its place. -/
theorem size_step_gap {c : Char} {st' : Scan} (h : step c ⟨ts, .gap⟩ = some st') :
  st'.size ≤ (Scan.mk ts .gap).size + unquotes [c]
  := by
  have hemit : ∀ t : Token, t.size = 0 → t.hasQuote = false →
      (Scan.mk (ts ++ [t]) .gap).size ≤ (Scan.mk ts .gap).size + unquotes [c] := by
    intro t hsize hquote
    apply Nat.le_trans _ (Nat.le_add_right _ _)
    apply size_leave
    · simp [hsize]
    · simp [hquote]
  dsimp only [step] at h
  split_ifs at h with hblank hline hop hescape hcomment
  · obtain rfl := Option.some.inj h
    apply Nat.le_add_right
  · obtain rfl := Option.some.inj h
    apply hemit <;> rfl
  · obtain rfl := Option.some.inj h
    apply hemit <;> rfl
  · obtain rfl := Option.some.inj h
    obtain rfl := hescape
    apply size_turn
    · rfl
    · apply Nat.le_refl
  · obtain rfl := Option.some.inj h
    apply size_turn
    · rfl
    · apply Nat.zero_le
  · obtain ⟨mode, hread, rfl⟩ := Option.map_eq_some_iff.mp h
    apply size_readUnquoted (m := .gap) hread rfl

/-- A character read in a word outside quotes takes no more than its place. -/
theorem size_step_plain {c : Char} {w : List Char} {st' : Scan}
    (h : step c ⟨ts, .word .plain w⟩ = some st') :
  st'.size ≤ (Scan.mk ts (.word .plain w)).size + unquotes [c]
  := by
  have hclose : ∀ us : List Token, (us.map Token.size).sum = 0 → us.any Token.hasQuote = false →
      c ≠ '\'' →
      (Scan.mk (ts ++ .word w :: us) .gap).size ≤
        (Scan.mk ts (.word .plain w)).size + unquotes [c] := by
    intro us hsize hquote hc
    rw [unquotes_of_ne hc, List.append_cons]
    apply Nat.le_trans (size_leave hsize hquote) size_close
  dsimp only [step] at h
  split_ifs at h with hblank hline hop hescape
  · obtain rfl := Option.some.inj h
    apply hclose [] rfl rfl
    rintro rfl
    cases hblank
  · obtain rfl := Option.some.inj h
    apply hclose [.newline] rfl rfl
    rintro rfl
    cases hline
  · obtain rfl := Option.some.inj h
    apply hclose [.operator c] rfl rfl
    rintro rfl
    cases hop
  · obtain rfl := Option.some.inj h
    obtain rfl := hescape
    apply size_turn
    · rfl
    · apply Nat.le_refl
  · obtain ⟨mode, hread, rfl⟩ := Option.map_eq_some_iff.mp h
    apply size_readUnquoted (m := .word .plain w) hread rfl

/-- A character read takes no more than its place. -/
theorem size_step {c : Char} {st st' : Scan} (h : step c st = some st') :
  st'.size ≤ st.size + unquotes [c]
  := by
  obtain ⟨ts, mode⟩ := st
  rcases mode with _ | _ | _ | ⟨_ | _ | _ | _ | _, w⟩
  · apply size_step_gap h
  · dsimp only [step] at h
    split_ifs at h
    · obtain rfl := Option.some.inj h
      apply size_turn
      · rfl
      · apply Nat.zero_le
    · obtain rfl := Option.some.inj h
      apply size_keep
      · rfl
      · apply Nat.zero_le
      · intro _
        apply Nat.le_refl
  · dsimp only [step] at h
    split_ifs at h
    · obtain rfl := Option.some.inj h
      apply Nat.le_trans _ (Nat.le_add_right _ _)
      apply size_leave <;> rfl
    · obtain rfl := Option.some.inj h
      apply Nat.le_add_right
  · apply size_step_plain h
  · dsimp only [step] at h
    split_ifs at h
    · obtain rfl := Option.some.inj h
      apply size_turn
      · rfl
      · apply Nat.zero_le
    · obtain rfl := Option.some.inj h
      apply size_keep
      · rfl
      · apply Nat.zero_le
      · intro _
        apply Nat.le_refl
  · dsimp only [step] at h
    split_ifs at h with hquote
    · obtain rfl := Option.some.inj h
      apply size_turn
      · rfl
      · apply Nat.zero_le
    · obtain rfl := Option.some.inj h
      apply size_keep
      · rfl
      · apply Nat.le_refl
      · intro h
        apply absurd h hquote
  · dsimp only [step] at h
    split_ifs at h with hquote hescape hexpansion
    · obtain rfl := Option.some.inj h
      apply size_turn
      · rfl
      · apply Nat.zero_le
    · obtain rfl := Option.some.inj h
      obtain rfl := hescape
      apply size_turn
      · rfl
      · apply Nat.le_refl
    · obtain rfl := Option.some.inj h
      apply size_keep
      · rfl
      · apply Nat.le_refl
      · intro _
        apply Nat.le_refl
  · dsimp only [step] at h
    split_ifs at h
    · obtain rfl := Option.some.inj h
      apply size_turn
      · rfl
      · apply Nat.le_add_right_of_le (Nat.le_succ 1)
    · obtain rfl := Option.some.inj h
      apply size_keep
      · rfl
      · apply Nat.le_succ
      · intro _
        apply Nat.le_succ
    · obtain rfl := Option.some.inj h
      apply size_write (l := ['\\', c])
      · rfl
      · rw [unquotes_cons, unquotes_of_ne (by decide)]
        simp only [Mode.weight]
        omega
      · rw [unquotes_cons, unquotes_of_ne (by decide)]
        simp only [Mode.weight]
        omega
      · intro _
        rw [unquotes_cons, unquotes_of_ne (by decide)]
        simp only [Mode.weight]
        omega

end

/-- A text that is read takes no more than its place. -/
theorem size_run {s : List Char} {st st' : Scan} (h : run step s st = some st') :
  st'.size ≤ st.size + unquotes s
  := by
  induction s generalizing st with
  | nil =>
      obtain rfl := Option.some.inj h
      apply Nat.le_add_right
  | cons c s ih =>
      obtain ⟨st₁, hstep, hrun⟩ := Option.bind_eq_some_iff.mp h
      calc
        st'.size ≤ st₁.size + unquotes s := ih hrun
        _ ≤ st.size + unquotes [c] + unquotes s := Nat.add_le_add_right (size_step hstep) _
        _ = st.size + unquotes (c :: s) := by rw [unquotes_cons c s, Nat.add_assoc]

/-! ### Lines of words -/

/-- A character with no meaning to the shell. -/
def isOrdinary (c : Char) : Bool :=
  c.isAlphanum || c = '_' || c = '-' || c = '.' || c = '/'

/-- A word of a line: of ordinary characters, or between single quotes. -/
inductive Piece where
  | bare (w : List Char)
  | quoted (w : List Char)

namespace Piece

/-- The word a piece is for. -/
def word : Piece → List Char
  | bare w => w
  | quoted w => w

/-- The text of a piece. -/
def text : Piece → List Char
  | bare w => w
  | quoted w => '\'' :: w ++ ['\'']

/-- A bare word has only ordinary characters, and some. -/
def WellFormed : Piece → Prop
  | bare w => w ≠ [] ∧ ∀ c ∈ w, isOrdinary c = true
  | quoted _ => True

/-- The piece reads as its word. -/
def Closed : Piece → Prop
  | bare _ => True
  | quoted w => '\'' ∉ w

end Piece

/-- A line of words, each with a blank after it. -/
def commandLine : List Piece → List Char
  | [] => []
  | p :: ps => p.text ++ ' ' :: commandLine ps

section

variable {ts : List Token} {w v : List Char} {c : Char}

theorem ne_of_isOrdinary (h : isOrdinary c = true) {d : Char} (hd : isOrdinary d = false) :
  c ≠ d
  := by
  rintro rfl
  rw [h] at hd
  cases hd

theorem not_mem_of_isOrdinary (h : isOrdinary c = true) {l : List Char}
    (hl : l.all (fun d => !isOrdinary d) = true) :
  ¬ decide (c ∈ l) = true
  := by
  intro hc
  have hnot := List.all_eq_true.mp hl c (of_decide_eq_true hc)
  rw [h] at hnot
  cases hnot

/-- A character without a meaning is read into a word. -/
theorem readUnquoted_of_isOrdinary (h : isOrdinary c = true) :
  readUnquoted c w = some (.word .plain (w ++ [c]))
  := by
  rw [readUnquoted, isExpansion, if_neg (ne_of_isOrdinary h (by decide)),
    if_neg (ne_of_isOrdinary h (by decide)), if_neg (not_mem_of_isOrdinary h (by decide))]

theorem step_plain_of_isOrdinary (h : isOrdinary c = true) :
  step c ⟨ts, .word .plain w⟩ = some ⟨ts, .word .plain (w ++ [c])⟩
  := by
  dsimp only [step]
  rw [isBlank, isOperator, if_neg (not_mem_of_isOrdinary h (by decide)), if_neg (ne_of_isOrdinary h (by decide)),
    if_neg (not_mem_of_isOrdinary h (by decide)), if_neg (ne_of_isOrdinary h (by decide)),
    readUnquoted_of_isOrdinary h, Option.map_some]

theorem step_gap_of_isOrdinary (h : isOrdinary c = true) :
  step c ⟨ts, .gap⟩ = some ⟨ts, .word .plain [c]⟩
  := by
  dsimp only [step]
  rw [isBlank, isOperator, if_neg (not_mem_of_isOrdinary h (by decide)), if_neg (ne_of_isOrdinary h (by decide)),
    if_neg (not_mem_of_isOrdinary h (by decide)), if_neg (ne_of_isOrdinary h (by decide)),
    if_neg (ne_of_isOrdinary h (by decide)), readUnquoted_of_isOrdinary h, Option.map_some,
    List.nil_append]

theorem run_ordinary (h : ∀ c ∈ w, isOrdinary c = true) :
  run step w ⟨ts, .word .plain v⟩ = some ⟨ts, .word .plain (v ++ w)⟩
  := by
  induction w generalizing v with
  | nil => rw [run, List.append_nil]
  | cons c w ih =>
      rw [run, step_plain_of_isOrdinary (h c List.mem_cons_self), Option.bind_some,
        ih (fun d hd => h d (List.mem_cons_of_mem _ hd)), List.append_assoc, List.singleton_append]

theorem run_single (h : '\'' ∉ w) :
  run step w ⟨ts, .word .single v⟩ = some ⟨ts, .word .single (v ++ w)⟩
  := by
  induction w generalizing v with
  | nil => rw [run, List.append_nil]
  | cons c w ih =>
      obtain ⟨hc, hw⟩ := List.ne_and_not_mem_of_not_mem_cons h
      have hstep : step c ⟨ts, .word .single v⟩ = some ⟨ts, .word .single (v ++ [c])⟩ := by
        dsimp only [step]
        rw [if_neg (Ne.symm hc)]
      rw [run, hstep, Option.bind_some, ih hw, List.append_assoc, List.singleton_append]

/-- A piece that reads as its word. -/
theorem run_piece {p : Piece} (hp : p.WellFormed) (hclosed : p.Closed) :
  run step p.text ⟨ts, .gap⟩ = some ⟨ts, .word .plain p.word⟩
  := by
  cases p with
  | bare w =>
      obtain ⟨hne, hordinary⟩ := hp
      obtain ⟨c, w, rfl⟩ := List.exists_cons_of_ne_nil hne
      rw [Piece.text, run, step_gap_of_isOrdinary (hordinary c List.mem_cons_self),
        Option.bind_some, run_ordinary (fun d hd => hordinary d (List.mem_cons_of_mem _ hd))]
      rfl
  | quoted w =>
      have hopen : step '\'' ⟨ts, .gap⟩ = some ⟨ts, .word .single []⟩ := rfl
      rw [Piece.text, List.cons_append, run, hopen, Option.bind_some, run_append,
        run_single hclosed]
      rfl

/-- A line whose pieces read as their words. -/
theorem run_commandLine {ps : List Piece} (hps : ∀ p ∈ ps, p.WellFormed)
    (hclosed : ∀ p ∈ ps, p.Closed) :
  run step (commandLine ps) ⟨ts, .gap⟩ = some ⟨ts ++ ps.map (fun p => .word p.word), .gap⟩
  := by
  induction ps generalizing ts with
  | nil => rw [commandLine, run, List.map_nil, List.append_nil]
  | cons p ps ih =>
      have hblank : step ' ' ⟨ts, .word .plain p.word⟩ = some ⟨ts ++ [.word p.word], .gap⟩ := rfl
      rw [commandLine, run_append,
        run_piece (hps p List.mem_cons_self) (hclosed p List.mem_cons_self), Option.bind_some, run,
        hblank, Option.bind_some, ih (fun q hq => hps q (List.mem_cons_of_mem _ hq))
          (fun q hq => hclosed q (List.mem_cons_of_mem _ hq)), List.map_cons, List.append_assoc,
        List.singleton_append]

/-- The single quotes around the pieces are the only ones that do not count. -/
theorem unquotes_commandLine (ps : List Piece) :
  unquotes (commandLine ps) = (ps.map (fun p => unquotes p.word + 1)).sum
  := by
  induction ps with
  | nil => rfl
  | cons p ps ih =>
      have htext : unquotes p.text = unquotes p.word := by
        cases p with
        | bare w => rfl
        | quoted w =>
            rw [Piece.text, unquotes_append, unquotes_cons, unquotes_quote, Nat.zero_add]
            rfl
      rw [commandLine, unquotes_append, unquotes_cons, unquotes_of_ne (by decide), ih, htext,
        List.map_cons, List.sum_cons, Nat.add_assoc]

theorem commandLine_append (ps qs : List Piece) :
  commandLine (ps ++ qs) = commandLine ps ++ commandLine qs
  := by
  induction ps with
  | nil => rfl
  | cons p ps ih =>
      rw [List.cons_append, commandLine, commandLine, ih, List.append_assoc, List.cons_append]

/-- A line of bare words has ordinary characters and blanks only. -/
theorem mem_commandLine_bare {vs : List (List Char)} (hvs : ∀ v ∈ vs, (Piece.bare v).WellFormed)
    (hc : c ∈ commandLine (vs.map .bare)) :
  isOrdinary c = true ∨ c = ' '
  := by
  induction vs with
  | nil => cases hc
  | cons v vs ih =>
      rcases List.mem_append.mp hc with hc | hc
      · apply Or.inl ((hvs v List.mem_cons_self).2 c hc)
      · rcases List.mem_cons.mp hc with hc | hc
        · apply Or.inr hc
        · apply ih (fun v hv => hvs v (List.mem_cons_of_mem _ hv)) hc

theorem run_double (h : ∀ c ∈ w, isOrdinary c = true ∨ c = ' ') :
  run step w ⟨ts, .word .double v⟩ = some ⟨ts, .word .double (v ++ w)⟩
  := by
  induction w generalizing v with
  | nil => rw [run, List.append_nil]
  | cons c w ih =>
      have hstep : step c ⟨ts, .word .double v⟩ = some ⟨ts, .word .double (v ++ [c])⟩ := by
        obtain hc | rfl := h c List.mem_cons_self
        · dsimp only [step]
          rw [isExpansion, if_neg (ne_of_isOrdinary hc (by decide)),
            if_neg (ne_of_isOrdinary hc (by decide)), if_neg (not_mem_of_isOrdinary hc (by decide))]
        · rfl
      rw [run, hstep, Option.bind_some, ih (fun d hd => h d (List.mem_cons_of_mem _ hd)),
        List.append_assoc, List.singleton_append]

theorem run_comment (h : '\n' ∉ w) :
  run step w ⟨ts, .comment⟩ = some ⟨ts, .comment⟩
  := by
  induction w with
  | nil => rfl
  | cons c w ih =>
      obtain ⟨hc, hw⟩ := List.ne_and_not_mem_of_not_mem_cons h
      have hstep : step c ⟨ts, .comment⟩ = some ⟨ts, .comment⟩ := by
        dsimp only [step]
        rw [if_neg (Ne.symm hc)]
      rw [run, hstep, Option.bind_some, ih hw]

/-- What the scanner can be in after a single quote. -/
theorem step_quote {st st' : Scan} (h : step '\'' st = some st') :
  st'.mode = .comment ∨
    ∃ v, st'.mode = .word .plain v ∨ st'.mode = .word .single v ∨ st'.mode = .word .double v
  := by
  obtain ⟨us, mode⟩ := st
  rcases mode with _ | _ | _ | ⟨_ | _ | _ | _ | _, v⟩ <;> obtain rfl := Option.some.inj h
  · exact .inr ⟨_, .inr (.inl rfl)⟩
  · exact .inr ⟨_, .inl rfl⟩
  · exact .inl rfl
  · exact .inr ⟨_, .inr (.inl rfl)⟩
  · exact .inr ⟨_, .inl rfl⟩
  · exact .inr ⟨_, .inl rfl⟩
  · exact .inr ⟨_, .inr (.inr rfl)⟩
  · exact .inr ⟨_, .inr (.inr rfl)⟩

/-- What a blank and a line of bare words leave after a single quote, if they end outside quotes:
all of it is in a comment, or the words are read after the one the quote is in. -/
theorem run_tail {vs : List (List Char)} (hvs : ∀ v ∈ vs, (Piece.bare v).WellFormed) {st st' : Scan}
    {us : List Token}
    (hmode : st.mode = .comment ∨
      ∃ v, st.mode = .word .plain v ∨ st.mode = .word .single v ∨ st.mode = .word .double v)
    (hrun : run step (' ' :: commandLine (vs.map .bare)) st = some st')
    (hfinish : finish st' = some us) :
  us = st.tokens ∧ st.mode.weight = 0 ∧ st.mode.part = [] ∨
    ∃ v, us = (st.tokens ++ [.word v]) ++ vs.map .word ∧ st' = ⟨us, .gap⟩
  := by
  have hmem : ∀ c ∈ ' ' :: commandLine (vs.map .bare), isOrdinary c = true ∨ c = ' ' := by
    intro c hc
    rcases List.mem_cons.mp hc with hc | hc
    · apply Or.inr hc
    · apply mem_commandLine_bare hvs hc
  have hnot : ∀ d, isOrdinary d = false → d ≠ ' ' → d ∉ ' ' :: commandLine (vs.map .bare) := by
    intro d hd hne hc
    obtain h | h := hmem d hc
    · rw [hd] at h
      cases h
    · apply hne h
  obtain ⟨ts, mode⟩ := st
  obtain rfl | ⟨v, rfl | rfl | rfl⟩ := hmode
  · rw [run_comment (hnot '\n' (by decide) (by decide))] at hrun
    obtain rfl := Option.some.inj hrun
    exact .inl ⟨(Option.some.inj hfinish).symm, rfl, rfl⟩
  · have hbare : ∀ p ∈ vs.map Piece.bare, p.WellFormed := by
      intro p hp
      obtain ⟨v, hv, rfl⟩ := List.mem_map.mp hp
      apply hvs v hv
    have hclosed : ∀ p ∈ vs.map Piece.bare, p.Closed := by
      intro p hp
      obtain ⟨v, -, rfl⟩ := List.mem_map.mp hp
      trivial
    have hblank : step ' ' ⟨ts, .word .plain v⟩ = some ⟨ts ++ [.word v], .gap⟩ := rfl
    rw [run, hblank, Option.bind_some, run_commandLine hbare hclosed, List.map_map] at hrun
    obtain rfl := Option.some.inj hrun
    obtain rfl := Option.some.inj hfinish
    right
    use v, rfl
  · rw [run_single (hnot '\'' (by decide) (by decide))] at hrun
    obtain rfl := Option.some.inj hrun
    cases hfinish
  · rw [run_double hmem] at hrun
    obtain rfl := Option.some.inj hrun
    cases hfinish

/-- The size of a scan that has read words and is in none. -/
theorem size_words {ws : List (List Char)} {mode : Mode} (hweight : mode.weight = 0)
    (hpart : mode.part = []) :
  (Scan.mk (ws.map .word) mode).size =
    (ws.map (fun w => unquotes w + 1)).sum + (ws.any hasQuote).toNat
  := by
  have hquote : (Scan.mk (ws.map .word) mode).hasQuote = ws.any hasQuote := by
    rw [Scan.hasQuote, hpart, List.any_map]
    apply Bool.or_false
  have hempty : unquotes mode.part = 0 := by
    rw [hpart]
    rfl
  rw [size_mk, hweight, hempty, hquote, Nat.zero_max, List.map_map]
  rfl

/-- The words of a line whose size is no more than that of its pieces have no single quote. -/
theorem closed_of_size {ps : List Piece}
    (h : (Scan.mk ((ps.map Piece.word).map .word) .gap).size ≤ unquotes (commandLine ps)) :
  ∀ p ∈ ps, p.Closed
  := by
  rw [size_words rfl rfl, unquotes_commandLine, List.map_map] at h
  have hsum : (ps.map ((fun w => unquotes w + 1) ∘ Piece.word)).sum =
      (ps.map (fun p => unquotes p.word + 1)).sum := rfl
  have hquote : (ps.map Piece.word).any hasQuote = false := by
    rw [← Bool.toNat_eq_zero]
    omega
  rw [List.any_eq_false] at hquote
  intro p hp
  cases p with
  | bare w => trivial
  | quoted w =>
      intro hw
      apply hquote w
      · apply List.mem_map_of_mem hp
      · apply decide_eq_true hw

/-- A line of words of which the last that is quoted is `w`, and the bare words `vs` after it,
splits into as many words, the first of which are those up to `w`, exactly if no quoted word has a
single quote. -/
theorem splits_commandLine_iff {ps : List Piece} {w : List Char} {vs : List (List Char)}
    (hps : ∀ p ∈ ps, p.WellFormed) (hvs : ∀ v ∈ vs, (Piece.bare v).WellFormed) :
  (∃ args : List (List Char), args.length = vs.length ∧
      Splits (commandLine (ps ++ .quoted w :: vs.map .bare)) (ps.map Piece.word ++ w :: args)) ↔
    ∀ p ∈ ps ++ [Piece.quoted w], p.Closed
  := by
  have hwords : (ps ++ Piece.quoted w :: vs.map Piece.bare).map Piece.word =
      ps.map Piece.word ++ w :: vs := by
    have hvs : vs.map (Piece.word ∘ Piece.bare) = vs := List.map_id vs
    rw [List.map_append, List.map_cons, List.map_map, hvs]
    rfl
  constructor
  · rintro ⟨args, hlength, -, htokens⟩
    obtain ⟨st, hrun, hfinish⟩ := Option.bind_eq_some_iff.mp htokens
    have hline : commandLine (ps ++ .quoted w :: vs.map .bare) =
        ((commandLine ps ++ '\'' :: w) ++ ['\'']) ++ ' ' :: commandLine (vs.map .bare) := by
      rw [commandLine_append, commandLine, Piece.text]
      simp only [List.append_assoc, List.cons_append, List.nil_append]
    have hsplit := hrun
    rw [hline, run_append] at hsplit
    obtain ⟨st₁, hquoted, htail⟩ := Option.bind_eq_some_iff.mp hsplit
    have hsize := size_run hquoted
    rw [run_append] at hquoted
    obtain ⟨st₀, -, hlast⟩ := Option.bind_eq_some_iff.mp hquoted
    obtain ⟨st₁', hstep, h⟩ := Option.bind_eq_some_iff.mp hlast
    obtain rfl := Option.some.inj h
    obtain ⟨htokens₁, hweight, hpart⟩ | ⟨v, hwords₁, hst⟩ :=
      run_tail hvs (step_quote hstep) htail hfinish
    · -- The comment would have to start after words that take more than is left of it.
      obtain ⟨ts, mode⟩ := st₁'
      obtain rfl := htokens₁
      have hstart : (Scan.mk [] .gap).size = 0 := rfl
      rw [size_words hweight hpart, hstart, List.map_append, List.map_cons, List.sum_append,
        List.sum_cons, unquotes_append, unquotes_append, unquotes_commandLine, unquotes_cons,
        unquotes_quote, List.map_map] at hsize
      have hsum : (ps.map ((fun w => unquotes w + 1) ∘ Piece.word)).sum =
        (ps.map (fun p => unquotes p.word + 1)).sum := rfl
      omega
    · have hargs : args = vs := by
        rw [List.map_append, List.map_cons, List.append_cons] at hwords₁
        obtain ⟨-, hmap⟩ := List.append_inj' hwords₁ (by simp [hlength])
        apply List.map_injective_iff.mpr _ hmap
        intro v v' h
        apply Token.word.inj h
      rw [hst, hargs, ← hwords] at hrun
      have hclosed := closed_of_size (Nat.le_trans (size_run hrun) (Nat.le_of_eq (Nat.zero_add _)))
      intro p hp
      apply hclosed p
      rw [List.append_cons]
      apply List.mem_append_left _ hp
  · intro hclosed
    have hbare : ∀ p ∈ vs.map Piece.bare, p.WellFormed ∧ p.Closed := by
      intro p hp
      obtain ⟨v, hv, rfl⟩ := List.mem_map.mp hp
      exact ⟨hvs v hv, trivial⟩
    have hall : ∀ p ∈ ps ++ Piece.quoted w :: vs.map Piece.bare, p.WellFormed ∧ p.Closed := by
      intro p hp
      rcases List.mem_append.mp hp with hp | hp
      · exact ⟨hps p hp, hclosed p (List.mem_append_left _ hp)⟩
      · rcases List.mem_cons.mp hp with rfl | hp
        · exact ⟨trivial, hclosed _ (List.mem_append_right _ List.mem_cons_self)⟩
        · apply hbare p hp
    use vs, rfl
    constructor
    · simp
    · rw [tokens, run_commandLine (fun p hp => (hall p hp).1) (fun p hp => (hall p hp).2),
        ← hwords, List.map_map]
      rfl

end

end Shell
