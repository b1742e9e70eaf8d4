import Mathlib.Control.Basic
import Mathlib.Tactic.Common

/-!
# Effectful programs

A program over a signature of operations is a tree: it either returns a value, or performs an
operation and continues as its result says.  The tree says what is asked of the outside and in
which order; it does not say what the operations do (`Effect.Machine`).

`Program.Only P p` states that every operation on every branch of `p` satisfies `P`, and
`Program.AtMost P n p` that at most `n` operations on a branch do.
-/

namespace Effect

/-- A signature: a type of operations, each with a type of results. -/
structure Signature where
  Op : Type
  Res : Op → Type

/-- A program over `E` with values in `α`. -/
inductive Program (E : Signature) (α : Type) where
  | ret (a : α) : Program E α
  | call (o : E.Op) (k : E.Res o → Program E α) : Program E α

namespace Program

variable {E : Signature} {α β : Type}

/-- The program that runs `p` and then `f` at the value of `p`. -/
def bind : Program E α → (α → Program E β) → Program E β
  | .ret a, f => f a
  | .call o k, f => .call o (fun r => (k r).bind f)

instance : Monad (Program E) where
  pure := .ret
  bind := .bind

/-- The program that performs one operation and returns its result. -/
def perform (o : E.Op) : Program E (E.Res o) :=
  .call o .ret

theorem bind_ret (p : Program E α) :
  p.bind .ret = p
  := by
  induction p with
  | ret a => rfl
  | call o k ih =>
      rw [bind]
      congr 1
      funext r
      apply ih

theorem bind_assoc {γ : Type} (p : Program E α) (f : α → Program E β) (g : β → Program E γ) :
  (p.bind f).bind g = p.bind (fun a => (f a).bind g)
  := by
  induction p with
  | ret a => rfl
  | call o k ih =>
      rw [bind, bind, bind]
      congr 1
      funext r
      apply ih

instance : LawfulMonad (Program E) :=
  LawfulMonad.mk' (Program E)
    (fun p => bind_ret p)
    (fun _ _ => rfl)
    (fun p f g => bind_assoc p f g)

/-! ### The operations of a program -/

/-- Every operation on every branch of the program satisfies `P`. -/
def Only (P : E.Op → Prop) : Program E α → Prop
  | .ret _ => True
  | .call o k => P o ∧ ∀ r, (k r).Only P

variable {P : E.Op → Prop}

@[simp]
theorem only_pure (a : α) :
  Only P (pure a : Program E α)
  := trivial

@[simp]
theorem only_perform (o : E.Op) :
  Only P (perform o) ↔ P o
  := by
  constructor
  · rintro ⟨h, -⟩
    apply h
  · intro h
    exact ⟨h, fun _ => trivial⟩

theorem only_of_forall (h : ∀ o, P o) (p : Program E α) :
  Only P p
  := by
  induction p with
  | ret a => trivial
  | call o k ih => exact ⟨h o, ih⟩

/-- A program followed by a program only performs operations that satisfy `P` if both do. -/
theorem only_bind {p : Program E α} {f : α → Program E β} (hp : Only P p)
    (hf : ∀ a, Only P (f a)) :
  Only P (p >>= f)
  := by
  induction p with
  | ret a => apply hf
  | call o k ih =>
      use hp.1
      intro r
      apply ih r (hp.2 r)

theorem only_map {p : Program E α} {f : α → β} (hp : Only P p) :
  Only P (f <$> p)
  := only_bind hp (fun _ => only_pure _)

theorem only_ite {c : Prop} [Decidable c] {p q : Program E α} (hp : c → Only P p)
    (hq : ¬ c → Only P q) :
  Only P (if c then p else q)
  := by
  split_ifs with h
  · apply hp h
  · apply hq h

theorem Only.mono {Q : E.Op → Prop} (hPQ : ∀ o, P o → Q o) {p : Program E α} (hp : Only P p) :
  Only Q p
  := by
  induction p with
  | ret a => trivial
  | call o k ih =>
      use hPQ o hp.1
      intro r
      apply ih r (hp.2 r)

/-! ### How often operations are performed -/

/-- On every branch of the program, at most so many operations satisfy `P`. -/
inductive AtMost (P : E.Op → Prop) : ℕ → Program E α → Prop
  | ret (n : ℕ) (a : α) : AtMost P n (.ret a)
  | other (n : ℕ) (o : E.Op) (k : E.Res o → Program E α) (ho : ¬ P o) (hk : ∀ r, AtMost P n (k r)) :
      AtMost P n (.call o k)
  | counted (n : ℕ) (o : E.Op) (k : E.Res o → Program E α) (hk : ∀ r, AtMost P n (k r)) :
      AtMost P (n + 1) (.call o k)

namespace AtMost

variable {m n : ℕ} {p : Program E α}

theorem mono (hmn : m ≤ n) (hp : AtMost P m p) :
  AtMost P n p
  := by
  induction hp generalizing n with
  | ret m a => apply ret
  | other m o k ho hk ih =>
      apply other n o k ho
      intro r
      apply ih r hmn
  | counted m o k hk ih =>
      obtain ⟨n, rfl⟩ := Nat.exists_eq_add_of_le' (Nat.le_of_add_left_le hmn)
      apply counted n o k
      intro r
      apply ih r (Nat.le_of_add_le_add_right hmn)

/-- Where the operation satisfies `P`, one less is left after it. -/
theorem of_call {o : E.Op} {k : E.Res o → Program E α} (ho : P o) (h : AtMost P n (.call o k)) :
  ∃ m, n = m + 1 ∧ ∀ r, AtMost P m (k r)
  := by
  cases h with
  | other _ _ _ hno => apply absurd ho hno
  | counted m _ _ hk => exact ⟨m, rfl, hk⟩

theorem rest {o : E.Op} {k : E.Res o → Program E α} (h : AtMost P n (.call o k)) (r : E.Res o) :
  AtMost P n (k r)
  := by
  cases h with
  | other _ _ _ _ hk => apply hk r
  | counted m _ _ hk => apply (hk r).mono (Nat.le_succ m)

theorem bind {f : α → Program E β} (hp : AtMost P m p) (hf : ∀ a, AtMost P n (f a)) :
  AtMost P (m + n) (p >>= f)
  := by
  induction hp with
  | ret m a => apply (hf a).mono (Nat.le_add_left n m)
  | other m o k ho hk ih => apply other _ o _ ho ih
  | counted m o k hk ih =>
      rw [Nat.add_right_comm]
      apply counted _ o _ ih

/-- A program none of whose operations satisfies `P`. -/
theorem of_only (hp : Only (fun o => ¬ P o) p) :
  AtMost P n p
  := by
  induction p with
  | ret a => apply ret
  | call o k ih =>
      apply other n o k hp.1
      intro r
      apply ih r (hp.2 r)

theorem bind_of_only {f : α → Program E β} (hp : Only (fun o => ¬ P o) p)
    (hf : ∀ a, AtMost P n (f a)) :
  AtMost P n (p >>= f)
  := by
  have h := (of_only (n := 0) hp).bind hf
  rw [Nat.zero_add] at h
  apply h

theorem bind_one {f : α → Program E β} (hp : AtMost P 1 p) (hf : ∀ a, AtMost P n (f a)) :
  AtMost P (n + 1) (p >>= f)
  := by
  rw [Nat.add_comm]
  apply hp.bind hf

theorem ite {c : Prop} [Decidable c] {p q : Program E α} (hp : c → AtMost P n p)
    (hq : ¬ c → AtMost P n q) :
  AtMost P n (if c then p else q)
  := by
  split_ifs with h
  · apply hp h
  · apply hq h

end AtMost

end Program

end Effect
