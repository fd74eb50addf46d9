import Mathlib.Data.List.Perm.Basic
import Mathlib.Data.Set.Basic

/-! # Parities

Symbols under an operation by which every symbol cancels itself: the combination of a list of
them gives each one back, once the others are combined with it. -/

namespace Parity

variable {α β : Type*} {op : β → β → β} {f : α → β} {x e : β}

/-- The symbols of the elements, combined one after the other with `x`. -/
def combine (op : β → β → β) (f : α → β) (x : β) (l : List α) : β :=
  l.foldl (fun y a => op y (f a)) x

@[simp] theorem combine_nil : combine op f x [] = x := rfl

@[simp] theorem combine_cons (a : α) (l : List α) :
    combine op f x (a :: l) = combine op f (op x (f a)) l := rfl

theorem combine_append (l l' : List α) :
    combine op f x (l ++ l') = combine op f (combine op f x l) l' :=
  List.foldl_append

theorem right_comm (op : β → β → β) [Std.Associative op] [Std.Commutative op] (y a b : β) :
    op (op y a) b = op (op y b) a := by
  have hab : op a b = op b a := Std.Commutative.comm a b
  calc
    op (op y a) b = op y (op a b) := Std.Associative.assoc y a b
    _ = op y (op b a) := by rw [hab]
    _ = op (op y b) a := (Std.Associative.assoc y b a).symm

variable [Std.Associative op] [Std.Commutative op]

theorem combine_op (x b : β) (l : List α) :
    combine op f (op x b) l = op (combine op f x l) b := by
  induction l generalizing x with
  | nil => rfl
  | cons a l ih =>
      rw [combine_cons, right_comm op, ih]
      rfl

/-- A symbol in the middle may as well come first. -/
theorem combine_middle (m : α) (l l' : List α) :
    combine op f x (l ++ m :: l') = combine op f (op x (f m)) (l ++ l') := by
  rw [combine_append, combine_cons, combine_append, combine_op x]

theorem combine_twice (hself : ∀ y b, op (op y b) b = y) (x : β) (l : List α) :
    combine op f (combine op f x l) l = x := by
  induction l generalizing x with
  | nil => rfl
  | cons a l ih =>
      rw [combine_cons, combine_cons, combine_op (combine op f (op x (f a)) l), ih, hself]

/-- The others take a symbol back out of the combination of all. -/
theorem combine_others (hself : ∀ y b, op (op y b) b = y) (m : α) (l l' : List α) :
    combine op f (combine op f x (l ++ m :: l')) (l ++ l') = op x (f m) := by
  rw [combine_middle]
  exact combine_twice hself _ _

end Parity

/-! ## Solving checks one unknown at a time

A check over some unknowns gives the last one of them, once the others are known. -/

namespace Peeling

variable {ι : Type*} {known known' : Set ι} {checks checks' : Set (List ι)} {i : ι}

/-- What is known, and what some check gives after all the others in it. -/
inductive Solved (known : Set ι) (checks : Set (List ι)) : ι → Prop
  | known {i : ι} (h : i ∈ known) : Solved known checks i
  | check {c : List ι} {i : ι} (hc : c ∈ checks) (hi : i ∈ c)
      (hothers : ∀ j ∈ c, j ≠ i → Solved known checks j) : Solved known checks i

theorem Solved.mono (hknown : known ⊆ known') (hchecks : checks ⊆ checks')
    (h : Solved known checks i) : Solved known' checks' i := by
  induction h with
  | known h => exact .known (hknown h)
  | check hc hi _ ih => exact .check (hchecks hc) hi ih

/-- Whoever knows all that is known, and is not left with a single unknown by any check, knows
all that can be solved. -/
theorem Solved.mem_of_closed {s : Set ι} (hknown : known ⊆ s)
    (hclosed : ∀ c ∈ checks, ∀ i ∈ c, (∀ j ∈ c, j ≠ i → j ∈ s) → i ∈ s)
    (h : Solved known checks i) : i ∈ s := by
  induction h with
  | known h => exact hknown h
  | check hc hi _ ih => exact hclosed _ hc _ hi ih

end Peeling
