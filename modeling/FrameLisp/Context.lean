import FrameLisp.Rule

/-!
# Contexts

The settings a node is evaluated under.  A function keeps the context it was made in, and its body
is evaluated under that context whoever calls it.

Beside its settings a context names two cells of the machine: the counter of the nodes that are
being evaluated, one inside the other, and the flag that asks for an interruption.  Contexts that
name the same cells count together and are interrupted together, even if their settings differ.
-/

namespace FrameLisp

/-- The settings a node is evaluated under. -/
structure Context where
  /-- How many nodes may be evaluated one inside the other. -/
  maxDepth : Nat := 512
  /-- Whether every evaluated node is reported. -/
  trace : Bool := false
  /-- The oracle for the shapes of special forms. -/
  oracle : Oracle := Rule.standard
  /-- The cell that counts the nodes being evaluated. -/
  counter : Nat := 0
  /-- The cell that asks for an interruption. -/
  flag : Nat := 0
deriving Inhabited

/-! ### Cells -/

/-- Numbered cells.  The first one is held apart, since most programs have no other. -/
structure Cells (α : Type) where
  /-- The cell with the number zero. -/
  first : α
  /-- The cell with the number that follows. -/
  others : Nat → α
deriving Inhabited

namespace Cells

variable {α : Type}

/-- Cells that all hold the same. -/
def all (a : α) : Cells α :=
  ⟨a, fun _ => a⟩

/-- What a cell holds. -/
def get (cells : Cells α) : Nat → α
  | 0 => cells.first
  | n + 1 => cells.others n

instance : CoeFun (Cells α) fun _ => Nat → α :=
  ⟨get⟩

/-- Puts something in a cell. -/
def set (cells : Cells α) (n : Nat) (a : α) : Cells α :=
  match n with
  | 0 => { cells with first := a }
  | n + 1 => { cells with others := fun m => if m = n then a else cells.others m }

@[ext]
theorem ext {cells cells' : Cells α} (h : ∀ n, cells n = cells' n) : cells = cells' := by
  obtain ⟨first, others⟩ := cells
  obtain ⟨first', others'⟩ := cells'
  obtain rfl : first = first' := h 0
  obtain rfl : others = others' := funext fun n => h (n + 1)
  rfl

@[simp]
theorem get_all (a : α) (n : Nat) : all a n = a := by
  cases n <;> rfl

theorem get_set (cells : Cells α) (n m : Nat) (a : α) :
    cells.set n a m = if m = n then a else cells m := by
  cases n <;> cases m <;> simp [set, get]

@[simp]
theorem get_set_self (cells : Cells α) (n : Nat) (a : α) : cells.set n a n = a := by
  simp [get_set]

@[simp]
theorem set_get (cells : Cells α) (n : Nat) : cells.set n (cells n) = cells := by
  ext m
  by_cases h : m = n <;> simp [get_set, h]

@[simp]
theorem set_set (cells : Cells α) (n : Nat) (a b : α) :
    (cells.set n a).set n b = cells.set n b := by
  ext m
  by_cases h : m = n <;> simp [get_set, h]

end Cells

end FrameLisp
