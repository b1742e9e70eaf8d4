import Mathlib.Logic.Function.Basic
import Mathlib.Tactic.Common

/-!
# Writes to fields

A record whose fields are named in `F` is a function that gives each field its value.  What a list of
writes leaves in a field is what the last of them that writes the field writes, or what was there
before (`writeAll_apply`); it leaves a record as it was exactly if the last write of each field
writes the value that was there (`writeAll_eq_self_iff`).
-/

namespace Effect

variable {F : Type} {V : F → Type}

/-- A write of a value to a field. -/
structure Write (V : F → Type) where
  field : F
  value : V field

variable [DecidableEq F]

/-- The record after a write. -/
def Write.apply (w : Write V) (x : ∀ f, V f) : ∀ f, V f :=
  Function.update x w.field w.value

/-- The record after the writes, in their order. -/
def writeAll (ws : List (Write V)) (x : ∀ f, V f) : ∀ f, V f :=
  ws.foldl (fun x w => w.apply x) x

/-- The value the last of the writes to a field writes. -/
def lastWrite (f : F) : List (Write V) → Option (V f)
  | [] => none
  | w :: ws =>
      match lastWrite f ws with
      | some v => some v
      | none => if h : w.field = f then some (h ▸ w.value) else none

variable {ws : List (Write V)} {x : ∀ f, V f}

theorem writeAll_cons (w : Write V) :
  writeAll (w :: ws) x = writeAll ws (w.apply x)
  := rfl

theorem writeAll_append (ws' : List (Write V)) :
  writeAll (ws ++ ws') x = writeAll ws' (writeAll ws x)
  := List.foldl_append

/-- A field has the value of the last write to it, or its value from before. -/
theorem writeAll_apply (f : F) :
  writeAll ws x f = (lastWrite f ws).getD (x f)
  := by
  induction ws generalizing x with
  | nil => rfl
  | cons w ws ih =>
      rw [writeAll_cons, ih, lastWrite]
      cases lastWrite f ws with
      | some v => rfl
      | none =>
          dsimp only
          split_ifs with h
          · obtain ⟨g, v⟩ := w
            obtain rfl : g = f := h
            apply Function.update_self
          · apply Function.update_of_ne (Ne.symm h)

/-- The writes leave the record as it was exactly if the last to each field writes what was there. -/
theorem writeAll_eq_self_iff :
  writeAll ws x = x ↔ ∀ f, ∀ v ∈ lastWrite f ws, v = x f
  := by
  constructor
  · intro h f v hv
    have hf := congrFun h f
    rw [writeAll_apply, hv] at hf
    apply hf
  · intro h
    funext f
    rw [writeAll_apply]
    cases hlast : lastWrite f ws with
    | none => rfl
    | some v => apply h f v hlast

end Effect
