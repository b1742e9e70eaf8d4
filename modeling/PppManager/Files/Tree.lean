import PppManager.CText.Scan
import Mathlib.Logic.Function.Basic

/-!
# Files

A `Tree` gives what lies at each place, a place being the list of the names from the root down.  A path
names a place (`place`), and the operations on a tree take paths: `stat`, `mkdir`, `fopenWrite` with the
text that is written then, and `remove`.  Each takes whether the system carries it out, and changes
nothing where the tree does not allow it.  There are no links, so `..` leads to the directory above.
-/

namespace Files

open CText Function

/-- The names from the root down to a file or directory. -/
abbrev Place : Type := List CStr

/-- A directory, or a file with its text. -/
inductive Node where
  | directory
  | file (content : CStr)
  deriving DecidableEq

/-- What lies at each place. -/
abbrev Tree : Type := Place → Option Node

/-- The place that a name of a path leads to from a place. -/
def Place.enter (p : Place) (name : CStr) : Place :=
  if name = ['.'] then p
  else if name = ['.', '.'] then p.dropLast
  else p ++ [name]

/-- The place that a path from the root names. -/
def place (path : CStr) : Place :=
  (strtok '/' path).foldl Place.enter []

/-- A name that leads down to a file or directory of that name. -/
structure IsName (name : CStr) : Prop where
  ne_nil : name ≠ []
  no_slash : '/' ∉ name
  ne_dot : name ≠ ['.']
  ne_dots : name ≠ ['.', '.']

namespace Tree

variable (t : Tree)

/-- `stat`: whether the path names a file or directory. -/
def stat (path : CStr) : Bool :=
  (t (place path)).isSome

/-- `mkdir`, if the system can make the directory. -/
def mkdir (can : Bool) (path : CStr) : Tree :=
  if can ∧ t (place path) = none ∧ t (place path).dropLast = some .directory then
    update t (place path) (some .directory)
  else
    t

/-- `fopen` for writing: the place of the file, if the system can open it. -/
def fopenWrite (can : Bool) (path : CStr) : Option Place :=
  if can ∧ path.getLast? ≠ some '/' ∧ t (place path) ≠ some .directory ∧
      t (place path).dropLast = some .directory then
    some (place path)
  else
    none

/-- The file at a place gets a text. -/
def write (p : Place) (content : CStr) : Tree :=
  update t p (some (.file content))

/-- `remove`, if the system can remove what the path names. -/
def remove (can : Bool) (path : CStr) : Tree :=
  if can then update t (place path) none else t

end Tree

/-! ### Places -/

section

variable {name : CStr} {names : List CStr}

theorem IsName.enter (h : IsName name) (p : Place) :
  p.enter name = p ++ [name]
  := by
  rw [Place.enter, if_neg h.ne_dot, if_neg h.ne_dots]

theorem foldl_enter (h : ∀ name ∈ names, IsName name) (p : Place) :
  names.foldl Place.enter p = p ++ names
  := by
  induction names generalizing p with
  | nil => rw [List.foldl_nil, List.append_nil]
  | cons name names ih =>
      rw [List.foldl_cons, (h name List.mem_cons_self).enter,
        ih (fun n hn => h n (List.mem_cons_of_mem _ hn)), List.append_assoc, List.singleton_append]

/-- The text of a path has one name after the other, with a slash before each. -/
def pathOf (names : List CStr) : CStr :=
  names.flatMap ('/' :: ·)

/-- A delimiter at the end makes no difference to the tokens. -/
theorem strtokFrom_append_delim (cur s : CStr) :
  strtokFrom (fun c => c = '/') cur (s ++ ['/']) = strtokFrom (fun c => c = '/') cur s
  := by
  induction s generalizing cur with
  | nil => cases cur <;> rfl
  | cons c s ih =>
      rw [List.cons_append]
      by_cases hc : c = '/'
      · cases cur <;> simp [strtokFrom, hc, ih]
      · rw [strtokFrom_of_not_delim (decide_eq_false hc), strtokFrom_of_not_delim
          (decide_eq_false hc), ih]

theorem strtok_pathOf (h : ∀ name ∈ names, IsName name) :
  strtok '/' (pathOf names) = names
  := by
  have hslash : ∀ s, strtok '/' ('/' :: s) = strtok '/' s := fun _ => rfl
  induction names with
  | nil => rfl
  | cons name names ih =>
      have hname := h name List.mem_cons_self
      have hnames : ∀ n ∈ names, IsName n := fun n hn => h n (List.mem_cons_of_mem _ hn)
      rw [pathOf, List.flatMap_cons, List.cons_append, hslash]
      cases names with
      | nil =>
          rw [List.flatMap_nil, List.append_nil]
          apply strtok_eq_singleton hname.ne_nil hname.no_slash
      | cons name' names =>
          rw [List.flatMap_cons, List.cons_append, strtok_cons hname.ne_nil hname.no_slash]
          congr 1
          apply ih hnames

/-- A path names the place whose names it has. -/
theorem place_pathOf (h : ∀ name ∈ names, IsName name) :
  place (pathOf names) = names
  := by
  rw [place, strtok_pathOf h, foldl_enter h, List.nil_append]

/-- A slash at the end makes no difference to the place. -/
theorem place_append_slash (path : CStr) :
  place (path ++ ['/']) = place path
  := by
  rw [place, strtok, strtokFrom_append_delim]
  rfl

end

/-! ### Operations -/

namespace Tree

variable {t : Tree} {can : Bool} {path : CStr} {p : Place} {content : CStr}

/-- Making a directory changes the tree at its place only, and only where there was nothing. -/
theorem mkdir_of_ne (h : p ≠ place path) :
  t.mkdir can path p = t p
  := by
  rw [mkdir]
  split_ifs
  · rw [update_of_ne h]
  · rfl

theorem mkdir_of_some {n : Node} (h : t p = some n) :
  t.mkdir can path p = some n
  := by
  by_cases hp : p = place path
  · obtain rfl := hp
    rw [mkdir, if_neg, h]
    rintro ⟨-, hnone, -⟩
    rw [h] at hnone
    cases hnone
  · rw [mkdir_of_ne hp, h]

/-- A directory that can be made is there then, unless a file is there. -/
theorem mkdir_place (hparent : t (place path).dropLast = some .directory)
    (hfile : ∀ content, t (place path) ≠ some (.file content)) :
  t.mkdir true path (place path) = some .directory
  := by
  cases hnode : t (place path) with
  | none => rw [mkdir, if_pos ⟨rfl, hnode, hparent⟩, update_self]
  | some n =>
      cases n with
      | directory => apply mkdir_of_some hnode
      | file content => apply absurd hnode (hfile content)

theorem eq_place_of_fopenWrite (h : t.fopenWrite can path = some p) :
  p = place path
  := by
  rw [fopenWrite] at h
  split_ifs at h
  exact (Option.some.inj h).symm

theorem write_self :
  t.write p content p = some (.file content)
  := update_self _ _ _

theorem write_of_ne {q : Place} (h : q ≠ p) :
  t.write p content q = t q
  := update_of_ne h _ _

theorem remove_place :
  t.remove true path (place path) = none
  := by
  rw [remove, if_pos rfl, update_self]

theorem remove_of_ne (h : p ≠ place path) :
  t.remove can path p = t p
  := by
  rw [remove]
  split_ifs
  · rw [update_of_ne h]
  · rfl

end Tree

end Files
