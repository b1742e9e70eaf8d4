import Mathlib.Data.Prod.Lex
import Mathlib.Order.Bounds.Basic
import PppManager.Effect.Checked
import PppManager.Manager.WanAccess

/-!
# The search of the WAN manager

`PppMgr_GetWanIfaceInstance` reads the virtual interfaces of the WAN manager one after another, interface
by interface, until it reads the path of the PPP interface.  So it finds the least pair of numbers whose
value is that path (`getWanIfaceInstance_finds`); a table without interfaces, like a read that fails,
leaves the outputs as they were.
-/

namespace PppManager

open Effect Effect.Program CText

/-! ### Tables -/

section

variable {α : Type}

/-- The entries of the row `i` with their numbers, from `v` on. -/
def rowFrom (i : ℕ) : ℕ → List α → List ((ℕ ×ₗ ℕ) × α)
  | _, [] => []
  | v, x :: row => (toLex (i, v), x) :: rowFrom i (v + 1) row

/-- The entries of the rows with their numbers, from the row `i` on. -/
def entriesFrom : ℕ → List (List α) → List ((ℕ ×ₗ ℕ) × α)
  | _, [] => []
  | i, row :: rows => rowFrom i 1 row ++ entriesFrom (i + 1) rows

variable {i v : ℕ} {row : List α} {rows : List (List α)} {p : ℕ ×ₗ ℕ} {x : α}

theorem mem_rowFrom :
  (p, x) ∈ rowFrom i v row ↔ ∃ c, p = toLex (i, v + c) ∧ row[c]? = some x
  := by
  induction row generalizing v with
  | nil => simp [rowFrom]
  | cons y row ih =>
      rw [rowFrom, List.mem_cons, ih, Prod.mk.injEq]
      constructor
      · rintro (⟨rfl, rfl⟩ | ⟨c, rfl, hx⟩)
        · exact ⟨0, rfl, rfl⟩
        · use c + 1
          rw [Nat.add_right_comm, Nat.add_assoc]
          exact ⟨rfl, hx⟩
      · rintro ⟨c, rfl, hx⟩
        cases c with
        | zero => exact .inl ⟨rfl, (Option.some.inj hx).symm⟩
        | succ c =>
            right
            use c
            rw [Nat.add_right_comm, Nat.add_assoc]
            exact ⟨rfl, hx⟩

theorem mem_entriesFrom :
  (p, x) ∈ entriesFrom i rows ↔
    ∃ a c row, p = toLex (i + a, c + 1) ∧ rows[a]? = some row ∧ row[c]? = some x
  := by
  induction rows generalizing i with
  | nil => simp [entriesFrom]
  | cons row rows ih =>
      rw [entriesFrom, List.mem_append, mem_rowFrom, ih]
      constructor
      · rintro (⟨c, rfl, hx⟩ | ⟨a, c, row', rfl, hrow, hx⟩)
        · use 0, c, row
          rw [Nat.add_comm 1 c]
          exact ⟨rfl, rfl, hx⟩
        · use a + 1, c, row'
          rw [Nat.add_right_comm, Nat.add_assoc]
          exact ⟨rfl, hrow, hx⟩
      · rintro ⟨a, c, row', rfl, hrow, hx⟩
        cases a with
        | zero =>
            left
            obtain rfl := Option.some.inj hrow
            use c
            rw [Nat.add_comm 1 c]
            exact ⟨rfl, hx⟩
        | succ a =>
            right
            use a, c, row'
            rw [Nat.add_right_comm, Nat.add_assoc]
            exact ⟨rfl, hrow, hx⟩

/-- The numbers of a row come in order. -/
theorem pairwise_rowFrom :
  (rowFrom i v row).Pairwise (fun x y => x.1 < y.1)
  := by
  induction row generalizing v with
  | nil => apply List.Pairwise.nil
  | cons x row ih =>
      apply List.Pairwise.cons _ ih
      rintro ⟨p, y⟩ hy
      obtain ⟨c, rfl, -⟩ := mem_rowFrom.mp hy
      apply Prod.Lex.lt_iff.mpr
      right
      use rfl
      show v < v + 1 + c
      omega

/-- The numbers of a table come in order. -/
theorem pairwise_entriesFrom :
  (entriesFrom i rows).Pairwise (fun x y => x.1 < y.1)
  := by
  induction rows generalizing i with
  | nil => apply List.Pairwise.nil
  | cons row rows ih =>
      apply List.pairwise_append.mpr
      refine ⟨pairwise_rowFrom, ih, ?_⟩
      rintro ⟨p, x⟩ hx ⟨q, y⟩ hy
      obtain ⟨c, rfl, -⟩ := mem_rowFrom.mp hx
      obtain ⟨a, c', -, rfl, -⟩ := mem_entriesFrom.mp hy
      apply Prod.Lex.lt_iff.mpr
      left
      show i < i + 1 + a
      omega

/-- The first entry with a property in a list in order is the least. -/
theorem isLeast_of_find? {l : List ((ℕ ×ₗ ℕ) × α)} {f : α → Bool}
    (hl : l.Pairwise (fun x y => x.1 < y.1)) (h : l.find? (fun e => f e.2) = some (p, x)) :
  IsLeast {q | ∃ y, (q, y) ∈ l ∧ f y = true} p
  := by
  obtain ⟨hx, before, after, rfl, hbefore⟩ := List.find?_eq_some_iff_append.mp h
  constructor
  · exact ⟨x, by simp, hx⟩
  · rintro q ⟨y, hy, hfy⟩
    rcases List.mem_append.mp hy with hy | hy
    · have hnot := hbefore _ hy
      rw [hfy] at hnot
      cases hnot
    · rcases List.mem_cons.mp hy with heq | hy
      · cases heq
        apply le_rfl
      · apply le_of_lt
        obtain ⟨-, hrest, -⟩ := List.pairwise_append.mp hl
        apply (List.pairwise_cons.mp hrest).1 _ hy

end

/-! ### The WAN manager -/

/-- The values of `PPP.Interface` of the virtual interfaces of each interface. -/
abbrev WanTable := List (List CStr)

/-- What a read of the bus gives for a value, unless it fails. -/
def Reads (x : Option (Option CStr)) (v : CStr) : Prop :=
  x = none ∨ x = some (some v)

namespace WanTable

variable (T : WanTable)

/-- The virtual interface with the numbers `p` has the value. -/
def Holds (p : ℕ ×ₗ ℕ) (value : CStr) : Prop :=
  ∃ a c row, p = toLex (a + 1, c + 1) ∧ T[a]? = some row ∧ row[c]? = some value

/-- The counts are numbers an `int` can count to, and the values fit the buffer. -/
structure Fits : Prop where
  length : T.length < 2 ^ 31 - 1
  row : ∀ row ∈ T, row.length < 2 ^ 31 - 1
  value : ∀ row ∈ T, ∀ value ∈ row, value.length < 256

/-- The answers are those of a WAN manager with the table, except that reads may fail. -/
structure Serves (b : Build) (ω : Answers) : Prop where
  interfaces : ∀ k, Reads (ω k (.busGet wanComponentName wanDbusPath (wanNoeParamName b)))
    (dec T.length)
  virtualInterfaces : ∀ k a row, T[a]? = some row → Reads
    (ω k (.busGet wanComponentName wanDbusPath
      (printf wanNoOfVirtualIfaceParamName [.int (a + 1 : ℕ)]))) (dec row.length)
  pppInterface : ∀ k a c row value, T[a]? = some row → row[c]? = some value → Reads
    (ω k (.busGet wanComponentName wanDbusPath
      (printf pppWanVirtualIfaceName [.int (a + 1 : ℕ), .int (c + 1 : ℕ)]))) value

/-- The search for the interface `n` ends with `r`, where `fails` says that a read fails and `out` are
the outputs before: with the least pair whose value is the path of the interface, or, if there is
none, with both outputs -1; a table without interfaces and a read that fails leave the outputs as they
were. -/
def Finds (n : ℕ) (fails : Prop) (out : ℤ × ℤ) (r : AnscStatus × ℤ × ℤ) : Prop :=
  (fails ∨ T = [] → r = (.failure, out)) ∧
    (¬ fails → T ≠ [] →
      (∀ p, IsLeast {p | T.Holds p (printf pppIfacePath [.int n])} p →
        r = (.success, ((ofLex p).1 : ℤ), ((ofLex p).2 : ℤ))) ∧
      ((∀ p, ¬ T.Holds p (printf pppIfacePath [.int n])) → r = (.failure, -1, -1)))

end WanTable

/-- A read of the WAN manager fails. -/
def WanFails {α : Type} (t : Thread) (ω : Answers) (p : Code α) (k : ℕ) (s : Sys) : Prop :=
  ∃ name, (machine t).Gets ω p k s (.busGet wanComponentName wanDbusPath name) none

/-- A search of entries for a path ends. -/
inductive SearchEnds (l : List ((ℕ ×ₗ ℕ) × CStr)) (path : CStr) : WanSearch → Prop
  | found (p : ℕ ×ₗ ℕ) (h : l.find? (fun e => e.2 = path) = some (p, path)) :
      SearchEnds l path (.found (ofLex p).1 (ofLex p).2)
  | exhausted (buf : CStr) (h : l.find? (fun e => e.2 = path) = none) :
      SearchEnds l path (.exhausted buf)

/-- The entries a search has passed do not change how it ends. -/
theorem SearchEnds.skip {l l' : List ((ℕ ×ₗ ℕ) × CStr)} {path : CStr} {r : WanSearch}
    (h : l.find? (fun e => e.2 = path) = none) (hr : SearchEnds l' path r) :
  SearchEnds (l ++ l') path r
  := by
  have hskip : (l ++ l').find? (fun e => e.2 = path) = l'.find? (fun e => e.2 = path) := by
    rw [List.find?_append, h]
    rfl
  cases hr with
  | found p h' => exact .found p (hskip.trans h')
  | exhausted buf h' => exact .exhausted buf (hskip.trans h')

/-- A count that an `int` holds fits the buffer. -/
theorem length_dec_count {n : ℕ} (h : n < 2 ^ 31 - 1) :
  (dec (n : ℤ)).length < 256
  := by
  apply Nat.lt_of_le_of_lt (length_dec_wan (by omega)) (by decide)

/-- The path of an interface fits its buffer. -/
theorem snprintf_pppIfacePath {n : ℕ} (h : n < 2 ^ 31) :
  snprintf 128 pppIfacePath [.int (toInt n)] = printf pppIfacePath [.int n]
  := by
  rw [toInt_of_lt (by omega) (by omega), snprintf]
  apply List.take_of_length_le
  have hdec := length_dec_wan h
  have hformat : pppIfacePath.length < 100 := by
    decide
  have hle := length_printf_le pppIfacePath [.int n]
  simp only [List.map_cons, List.map_nil, List.sum_cons, List.sum_nil, Arg.text_int] at hle
  omega

section

variable {t : Thread} {b : Build} {ω : Answers} {k : ℕ} {s : Sys} {name v buf : CStr} {α β : Type}

/-! ### One read -/

theorem wanFails_none {size : ℕ} {f : Option CStr → Code α}
    (hω : ω k (.busGet wanComponentName wanDbusPath name) = none) :
  WanFails t ω (dmlPppMgrGetParamValues wanComponentName wanDbusPath name size buf >>= f) k s
  := by
  use name
  apply Machine.gets_bind.mpr
  left
  apply Machine.gets_bind.mpr
  left
  apply Machine.gets_perform.mpr
  rw [hω]

theorem wanFails_bind {p : Code α} {f : α → Code β} {a : α} {s' : Sys} {k' : ℕ}
    (hexec : (machine t).exec ω p k s = .ok (a, s', k')) :
  WanFails t ω (p >>= f) k s ↔ WanFails t ω p k s ∨ WanFails t ω (f a) k' s'
  := by
  constructor
  · rintro ⟨name, hgets⟩
    rcases Machine.gets_bind.mp hgets with hfirst | ⟨a', s'', k'', hexec', hrest⟩
    · exact .inl ⟨name, hfirst⟩
    · rw [hexec] at hexec'
      cases hexec'
      exact .inr ⟨name, hrest⟩
  · rintro (⟨name, hfirst⟩ | ⟨name, hrest⟩)
    · use name
      apply Machine.gets_bind.mpr (.inl hfirst)
    · use name
      apply Machine.gets_bind.mpr (.inr ⟨a, s', k', hexec, hrest⟩)

theorem wanFails_some {size : ℕ} {f : Option CStr → Code α}
    (hω : ω k (.busGet wanComponentName wanDbusPath name) = some (some v)) (hv : v.length < size) :
  WanFails t ω (dmlPppMgrGetParamValues wanComponentName wanDbusPath name size buf >>= f) k s ↔
    WanFails t ω (f (some v)) (k + 1) s
  := by
  rw [wanFails_bind (exec_dmlPppMgrGetParamValues hω hv)]
  apply or_iff_right
  rintro ⟨name', hgets⟩
  rcases Machine.gets_bind.mp hgets with hget | ⟨r, _, _, hexec, hend⟩
  · have heq := Machine.gets_perform.mp hget
    rw [hω] at heq
    cases heq
  · rw [exec_busGet, hω] at hexec
    cases hexec
    dsimp only at hend
    rw [if_pos hv] at hend
    apply hend.elim

/-! ### The loops -/

/-- A search ends early where a read fails. -/
def Searches (t : Thread) (ω : Answers) (p : Code WanSearch) (l : List ((ℕ ×ₗ ℕ) × CStr))
    (path : CStr) (k : ℕ) (s : Sys) : Prop :=
  ∃ r k', (machine t).exec ω p k s = .ok (r, s, k') ∧
    (WanFails t ω p k s ∧ r = .readFailed ∨ ¬ WanFails t ω p k s ∧ SearchEnds l path r)

/-- The loop over the virtual interfaces of the interface `i` finds the first with the path. -/
theorem searches_wanVirtIfaceLoop {path : CStr} {i n : ℕ} {row : List CStr} (hi : i < 2 ^ 31)
    (hn : n + row.length ≤ 2 ^ 31)
    (hread : ∀ k c value, row[c]? = some value → Reads (ω k (.busGet wanComponentName wanDbusPath
      (printf pppWanVirtualIfaceName [.int i, .int (n + c : ℕ)]))) value)
    (hvalue : ∀ value ∈ row, value.length < 256) :
  Searches t ω (wanVirtIfaceLoop path i n row.length buf) (rowFrom i n row) path k s
  := by
  induction row generalizing n k buf with
  | nil =>
      refine ⟨_, _, rfl, .inr ⟨?_, .exhausted buf rfl⟩⟩
      rintro ⟨name, hgets⟩
      apply hgets.elim
  | cons value row ih =>
      rw [List.length_cons] at hn ⊢
      have hget := hread k 0 value rfl
      rw [Nat.add_zero, ← snprintf_pppWanVirtualIfaceName hi (by omega)] at hget
      rw [wanVirtIfaceLoop]
      rcases hget with hnone | hsome
      · refine ⟨.readFailed, k + 1, ?_, .inl ⟨wanFails_none hnone, rfl⟩⟩
        rw [Machine.exec_bind, exec_dmlPppMgrGetParamValues_none hnone]
        rfl
      · have hvalue₀ := hvalue value List.mem_cons_self
        rw [Searches, wanFails_some hsome hvalue₀, Machine.exec_bind,
          exec_dmlPppMgrGetParamValues hsome hvalue₀]
        dsimp only [Except.bind]
        by_cases hpath : value = path
        · subst hpath
          rw [if_pos rfl]
          refine ⟨_, _, rfl, .inr ⟨?_, ?_⟩⟩
          · rintro ⟨name, hgets⟩
            apply hgets.elim
          · apply SearchEnds.found (toLex (i, n))
            rw [rowFrom, List.find?_cons_of_pos (by simp)]
        · rw [if_neg hpath]
          have hrest : Searches t ω (wanVirtIfaceLoop path i (n + 1) row.length value)
              (rowFrom i (n + 1) row) path (k + 1) s := ih (by omega)
            (by
              intro k c value' hc
              have h := hread k (c + 1) value' hc
              rw [Nat.add_comm c 1, ← Nat.add_assoc] at h
              apply h)
            (fun value' hmem => hvalue value' (List.mem_cons_of_mem _ hmem))
          obtain ⟨r, k', hexec, hends⟩ := hrest
          refine ⟨r, k', hexec, ?_⟩
          apply hends.imp_right
          rintro ⟨hok, hr⟩
          refine ⟨hok, ?_⟩
          apply SearchEnds.skip (l := [(toLex (i, n), value)]) _ hr
          rw [List.find?_cons_of_neg (by simpa using hpath)]
          rfl

/-- The loop over the interfaces finds the first pair with the path. -/
theorem searches_wanIfaceLoop {path : CStr} {i : ℕ} {rows : List (List CStr)}
    (hi : i + rows.length ≤ 2 ^ 31)
    (hcount : ∀ k a row, rows[a]? = some row → Reads (ω k (.busGet wanComponentName wanDbusPath
      (printf wanNoOfVirtualIfaceParamName [.int (i + a : ℕ)]))) (dec row.length))
    (hread : ∀ k a c row value, rows[a]? = some row → row[c]? = some value →
      Reads (ω k (.busGet wanComponentName wanDbusPath
        (printf pppWanVirtualIfaceName [.int (i + a : ℕ), .int (c + 1 : ℕ)]))) value)
    (hrow : ∀ row ∈ rows, row.length < 2 ^ 31 - 1)
    (hvalue : ∀ row ∈ rows, ∀ value ∈ row, value.length < 256) :
  Searches t ω (wanIfaceLoop path i rows.length buf) (entriesFrom i rows) path k s
  := by
  induction rows generalizing i k buf with
  | nil =>
      refine ⟨_, _, rfl, .inr ⟨?_, .exhausted buf rfl⟩⟩
      rintro ⟨name, hgets⟩
      apply hgets.elim
  | cons row rows ih =>
      rw [List.length_cons] at hi ⊢
      have hget := hcount k 0 row rfl
      rw [Nat.add_zero, ← snprintf_wanNoOfVirtualIfaceParamName (by omega)] at hget
      rw [wanIfaceLoop]
      rcases hget with hnone | hsome
      · refine ⟨.readFailed, k + 1, ?_, .inl ⟨wanFails_none hnone, rfl⟩⟩
        rw [Machine.exec_bind, exec_dmlPppMgrGetParamValues_none hnone]
        rfl
      · have hlength := hrow row List.mem_cons_self
        have hshort := length_dec_count hlength
        rw [Searches, wanFails_some hsome hshort, Machine.exec_bind,
          exec_dmlPppMgrGetParamValues hsome hshort]
        dsimp only [Except.bind]
        have hatoi : (atoi (dec row.length)).toNat = row.length := by
          rw [atoi_dec (by omega) (by omega)]
          rfl
        rw [hatoi]
        have hloop : Searches t ω (wanVirtIfaceLoop path i 1 row.length (dec row.length))
            (rowFrom i 1 row) path (k + 1) s :=
          searches_wanVirtIfaceLoop (by omega) (by omega)
            (fun k c value hc => by
              rw [Nat.add_comm 1 c]
              apply hread k 0 c row value rfl hc)
            (hvalue row List.mem_cons_self)
        obtain ⟨r, k', hexec, hends⟩ := hloop
        rw [wanFails_bind hexec, Machine.exec_bind, hexec]
        dsimp only [Except.bind]
        rcases hends with ⟨hfails, rfl⟩ | ⟨hok, hr⟩
        · exact ⟨_, _, rfl, .inl ⟨.inl hfails, rfl⟩⟩
        · cases hr with
          | found p h =>
              refine ⟨_, _, rfl, .inr ⟨?_, .found p ?_⟩⟩
              · rintro (hfails | ⟨_, hgets⟩)
                · apply hok hfails
                · apply hgets.elim
              · rw [entriesFrom, List.find?_append, h]
                rfl
          | exhausted buf' h =>
              have hrest : Searches t ω (wanIfaceLoop path (i + 1) rows.length buf')
                  (entriesFrom (i + 1) rows) path k' s := ih (by omega)
                (by
                  intro k a row' ha
                  have h := hcount k (a + 1) row' ha
                  rw [Nat.add_comm a 1, ← Nat.add_assoc] at h
                  apply h)
                (by
                  intro k a c row' value ha hc
                  have h := hread k (a + 1) c row' value ha hc
                  rw [Nat.add_comm a 1, ← Nat.add_assoc] at h
                  apply h)
                (fun row' hmem => hrow row' (List.mem_cons_of_mem _ hmem))
                (fun row' hmem => hvalue row' (List.mem_cons_of_mem _ hmem))
              obtain ⟨r, k'', hexec', hends'⟩ := hrest
              refine ⟨r, k'', hexec', ?_⟩
              apply hends'.imp
              · rintro ⟨hfails, hr⟩
                exact ⟨.inr hfails, hr⟩
              · rintro ⟨hok', hr⟩
                refine ⟨not_or.mpr ⟨hok, hok'⟩, ?_⟩
                apply SearchEnds.skip h hr

/-! ### The search -/

theorem WanTable.holds_iff {T : WanTable} {p : ℕ ×ₗ ℕ} {value : CStr} :
  T.Holds p value ↔ (p, value) ∈ entriesFrom 1 T
  := by
  rw [mem_entriesFrom]
  apply exists_congr
  intro a
  rw [Nat.add_comm 1 a]

/-- A search of a table for a path that ends without a failed read ends with the least pair that has
it. -/
theorem WanTable.finds_of_searchEnds {T : WanTable} {n : ℕ} {out : ℤ × ℤ} {r : WanSearch}
    {fails : Prop} (hfails : ¬ fails) (hT : T ≠ [])
    (h : SearchEnds (entriesFrom 1 T) (printf pppIfacePath [.int n]) r) :
  T.Finds n fails out
    (match r with
      | .readFailed => (.failure, out)
      | .found i v => (.success, i, v)
      | .exhausted _ => (.failure, -1, -1))
  := by
  constructor
  · rintro (hf | hempty)
    · apply absurd hf hfails
    · apply absurd hempty hT
  · intro _ _
    cases h with
    | found p h =>
        have hleast := isLeast_of_find? (f := fun y => y = printf pppIfacePath [.int n])
          pairwise_entriesFrom h
        have hset : {q | ∃ y, (q, y) ∈ entriesFrom 1 T ∧
            decide (y = printf pppIfacePath [.int n]) = true} =
            {q | T.Holds q (printf pppIfacePath [.int n])} := by
          ext q
          simp [WanTable.holds_iff]
        rw [hset] at hleast
        constructor
        · intro q hq
          rw [hq.unique hleast]
        · intro hnone
          apply absurd hleast.1 (hnone p)
    | exhausted buf h =>
        have hnone : ∀ q, ¬ T.Holds q (printf pppIfacePath [.int n]) := by
          intro q hq
          have hne := List.find?_eq_none.mp h _ (WanTable.holds_iff.mp hq)
          simp at hne
        constructor
        · intro q hq
          apply absurd hq.1 (hnone q)
        · intro _
          rfl

/-- `PppMgr_GetWanIfaceInstance` finds the least pair whose value is the path of the interface. -/
theorem getWanIfaceInstance_finds {T : WanTable} (hT : T.Fits) (hω : T.Serves b ω) {n : ℕ}
    (hn : 1 ≤ n) (hle : n < 2 ^ 31) (out : ℤ × ℤ) :
  ∃ r k', (machine t).exec ω (getWanIfaceInstance b n out) k s = .ok (r, s, k') ∧
    T.Finds n (WanFails t ω (getWanIfaceInstance b n out) k s) out r
  := by
  rw [getWanIfaceInstance, if_neg (Nat.pos_iff_ne_zero.mp hn)]
  rcases hω.interfaces k with hnone | hsome
  · refine ⟨(.failure, out), k + 1, ?_, fun _ => rfl, ?_⟩
    · rw [Machine.exec_bind, exec_dmlPppMgrGetParamValues_none hnone]
      rfl
    · intro hok
      apply absurd (wanFails_none hnone) hok
  · have hshort := length_dec_count hT.length
    have hcount : atoi (dec T.length) = T.length :=
      atoi_dec (by omega) (by have h := hT.length; omega)
    rw [wanFails_some hsome hshort, Machine.exec_bind,
      exec_dmlPppMgrGetParamValues hsome hshort]
    dsimp only [Except.bind]
    rw [hcount]
    by_cases hempty : T = []
    · subst hempty
      refine ⟨(.failure, out), k + 1, rfl, fun _ => rfl, ?_⟩
      intro _ hne
      apply absurd rfl hne
    · have hpos := List.length_pos_iff.mpr hempty
      rw [if_neg (by omega)]
      rw [snprintf_pppIfacePath hle]
      have hloop : Searches t ω (wanIfaceLoop (printf pppIfacePath [.int n]) 1 T.length (dec T.length))
          (entriesFrom 1 T) (printf pppIfacePath [.int n]) (k + 1) s :=
        searches_wanIfaceLoop (by have h := hT.length; omega)
          (fun k a row ha => by
            rw [Nat.add_comm 1 a]
            apply hω.virtualInterfaces k a row ha)
          (fun k a c row value ha hc => by
            rw [Nat.add_comm 1 a]
            apply hω.pppInterface k a c row value ha hc)
          hT.row hT.value
      obtain ⟨r, k', hexec, hends⟩ := hloop
      rw [Int.toNat_natCast, wanFails_bind hexec, Machine.exec_bind, hexec]
      rcases hends with ⟨hfails, rfl⟩ | ⟨hok, hr⟩
      · refine ⟨(.failure, out), k', rfl, fun _ => rfl, ?_⟩
        intro hnot
        apply absurd (.inl hfails) hnot
      · have hend : ∀ r : AnscStatus × ℤ × ℤ, ¬ WanFails t ω (pure r) k' s := by
          rintro r ⟨name, hgets⟩
          apply hgets.elim
        cases hr with
        | found p h =>
            refine ⟨_, k', rfl, ?_⟩
            apply WanTable.finds_of_searchEnds (not_or.mpr ⟨hok, hend _⟩) hempty (.found p h)
        | exhausted buf h =>
            refine ⟨_, k', rfl, ?_⟩
            apply WanTable.finds_of_searchEnds (not_or.mpr ⟨hok, hend _⟩) hempty (.exhausted buf h)

end

/-! ### Tables of equal rows -/

/-- A WAN manager with `i` interfaces that all have `v` virtual interfaces with the same value. -/
def uniformAnswers (i v : ℕ) (value : CStr) : Answers
  | _, .busGet _ _ name =>
      if name[33]? ≠ some '.' then some (some (dec i))
      else if name.getLast? = some 's' then some (some (dec v))
      else some (some value)
  | k, o => (workingOutside 1 none []).answers k o

theorem uniformAnswers_busGet {i v k : ℕ} {value component bus name : CStr} :
  uniformAnswers i v value k (.busGet component bus name) =
    if name[33]? ≠ some '.' then some (some (dec i))
    else if name.getLast? = some 's' then some (some (dec v))
    else some (some value)
  := rfl

theorem serves_uniformAnswers (b : Build) (i v : ℕ) (value : CStr) :
  WanTable.Serves (List.replicate i (List.replicate v value)) b (uniformAnswers i v value)
  := by
  constructor
  · intro k
    right
    have hname : (wanNoeParamName b)[33]? ≠ some '.' := by
      rw [wanNoeParamName]
      split_ifs <;> decide
    rw [List.length_replicate]
    apply if_pos hname
  · intro k a row ha
    right
    have hname : printf wanNoOfVirtualIfaceParamName [.int (a + 1 : ℕ)] =
        "Device.X_RDK_WanManager.Interface.".toList ++
          (dec (a + 1 : ℕ) ++ ".VirtualInterfaceNumberOfEntries".toList) := rfl
    have hlast : (printf wanNoOfVirtualIfaceParamName [.int (a + 1 : ℕ)]).getLast? = some 's' := by
      rw [hname, ← List.append_assoc, List.getLast?_append]
      rfl
    rw [List.eq_of_mem_replicate (List.mem_of_getElem? ha), List.length_replicate]
    have hrow : (printf wanNoOfVirtualIfaceParamName [.int (a + 1 : ℕ)])[33]? = some '.' := by
      rw [hname]
      rfl
    rw [uniformAnswers_busGet, if_neg (not_not.mpr hrow), if_pos hlast]
  · intro k a c row value' ha hc
    right
    have hname : printf pppWanVirtualIfaceName [.int (a + 1 : ℕ), .int (c + 1 : ℕ)] =
        "Device.X_RDK_WanManager.Interface.".toList ++ (dec (a + 1 : ℕ) ++
          (".VirtualInterface.".toList ++ (dec (c + 1 : ℕ) ++ ".PPP.Interface".toList))) := rfl
    have hlast : (printf pppWanVirtualIfaceName [.int (a + 1 : ℕ), .int (c + 1 : ℕ)]).getLast? =
        some 'e' := by
      rw [hname, ← List.append_assoc, ← List.append_assoc, ← List.append_assoc,
        List.getLast?_append]
      rfl
    rw [List.eq_of_mem_replicate (List.mem_of_getElem? ha)] at hc
    rw [List.eq_of_mem_replicate (List.mem_of_getElem? hc)]
    have hrow : (printf pppWanVirtualIfaceName [.int (a + 1 : ℕ), .int (c + 1 : ℕ)])[33]? =
        some '.' := by
      rw [hname]
      rfl
    rw [uniformAnswers_busGet, if_neg (not_not.mpr hrow), hlast, if_neg (by decide)]

/-- No read of a WAN manager with equal rows fails. -/
theorem not_wanFails_uniformAnswers {α : Type} {t : Thread} {i v k : ℕ} {value : CStr}
    {p : Code α} {s : Sys} :
  ¬ WanFails t (uniformAnswers i v value) p k s
  := by
  rintro ⟨name, hgets⟩
  obtain ⟨k', hnone⟩ := Machine.answer_of_gets hgets
  rw [uniformAnswers_busGet] at hnone
  split_ifs at hnone

/-- The path of the interface `n`. -/
abbrev ifacePath (n : ℕ) : CStr :=
  printf pppIfacePath [.int n]

theorem fits_replicate {i v : ℕ} {value : CStr} (hi : i < 2 ^ 31 - 1) (hv : v < 2 ^ 31 - 1)
    (hvalue : value.length < 256) :
  WanTable.Fits (List.replicate i (List.replicate v value))
  where
    length := by
      rw [List.length_replicate]
      apply hi
    row := by
      intro row hrow
      rw [List.eq_of_mem_replicate hrow, List.length_replicate]
      apply hv
    value := by
      intro row hrow value' hmem
      rw [List.eq_of_mem_replicate hrow] at hmem
      rw [List.eq_of_mem_replicate hmem]
      apply hvalue

theorem getWanIfaceInstance_finds_uniform :
  ∃ r k', (machine .event).exec (uniformAnswers 3 2 (ifacePath 1))
      (getWanIfaceInstance (plainBuild false) 1 (5, 7)) 0 (freshState 1) = .ok (r, freshState 1, k') ∧
    WanTable.Finds (List.replicate 3 (List.replicate 2 (ifacePath 1))) 1
      (WanFails .event (uniformAnswers 3 2 (ifacePath 1))
        (getWanIfaceInstance (plainBuild false) 1 (5, 7)) 0 (freshState 1)) (5, 7) r
  := getWanIfaceInstance_finds (fits_replicate (by decide) (by decide) (by decide))
      (serves_uniformAnswers _ _ _ _) (by decide) (by decide) (5, 7)

/-- A search of a table of equal rows for the interface `n` makes no read that fails, and gives `r` from
the outputs 5 and 7. -/
def UniformGives (i v : ℕ) (value : CStr) (n : ℕ) (r : AnscStatus × ℤ × ℤ) : Prop :=
  WanTable.Serves (List.replicate i (List.replicate v value)) (plainBuild false)
      (uniformAnswers i v value) ∧
    ¬ WanFails .event (uniformAnswers i v value)
      (getWanIfaceInstance (plainBuild false) n (5, 7)) 0 (freshState 1) ∧
    ∃ s' k', (machine .event).exec (uniformAnswers i v value)
      (getWanIfaceInstance (plainBuild false) n (5, 7)) 0 (freshState 1) = .ok (r, s', k')

theorem uniformGives_of_exec {i v n : ℕ} {value : CStr} {r : AnscStatus × ℤ × ℤ}
    (h : ((machine .event).exec (uniformAnswers i v value)
      (getWanIfaceInstance (plainBuild false) n (5, 7)) 0 (freshState 1)).toOption.map (·.1) = some r) :
  UniformGives i v value n r
  := by
  use serves_uniformAnswers _ i v value, not_wanFails_uniformAnswers
  obtain ⟨⟨r', s', k'⟩, hexec, rfl⟩ := Option.map_eq_some_iff.mp h
  use s', k'
  apply eq_ok_of_toOption hexec

theorem holds_replicate {i v : ℕ} {value : CStr} (hi : 0 < i) (hv : 0 < v) :
  WanTable.Holds (List.replicate i (List.replicate v value)) (toLex (1, 1)) value
  := ⟨0, 0, _, rfl, List.getElem?_replicate_of_lt hi, List.getElem?_replicate_of_lt hv⟩

/-- A table without interfaces leaves the outputs at 5 and 7, and numbers no `int` holds hide the pair
(1, 1). -/
theorem empty_table_keeps_outputs :
  ((∀ p, ¬ WanTable.Holds [] p (ifacePath 1)) ∧ UniformGives 0 0 [] 1 (.failure, 5, 7)) ∧
    (WanTable.Holds (List.replicate (2 ^ 31) (List.replicate 1 (ifacePath 1))) (toLex (1, 1))
        (ifacePath 1) ∧
      UniformGives (2 ^ 31) 1 (ifacePath 1) 1 (.failure, 5, 7)) ∧
    (WanTable.Holds (List.replicate 1 (List.replicate (2 ^ 31) (ifacePath 1))) (toLex (1, 1))
        (ifacePath 1) ∧
      UniformGives 1 (2 ^ 31) (ifacePath 1) 1 (.failure, -1, -1)) ∧
    (WanTable.Holds (List.replicate 1 (List.replicate 1 (ifacePath (2 ^ 31)))) (toLex (1, 1))
        (ifacePath (2 ^ 31)) ∧
      UniformGives 1 1 (ifacePath (2 ^ 31)) (2 ^ 31) (.failure, -1, -1))
  := by
  refine ⟨⟨?_, ?_⟩, ⟨?_, ?_⟩, ⟨?_, ?_⟩, ?_, ?_⟩
  · rintro p ⟨a, c, row, -, hrow, -⟩
    cases hrow
  · apply uniformGives_of_exec
    decide +kernel
  · apply holds_replicate <;> decide
  · apply uniformGives_of_exec
    decide +kernel
  · apply holds_replicate <;> decide
  · apply uniformGives_of_exec
    decide +kernel
  · apply holds_replicate <;> decide
  · apply uniformGives_of_exec
    decide +kernel

end PppManager
