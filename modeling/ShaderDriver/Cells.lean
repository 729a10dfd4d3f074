namespace ShaderDriver

/-! A value for every number, of which one can be replaced. -/

abbrev Cells (α : Type) : Type := Nat → α

namespace Cells

variable {α : Type}

def set (cells : Cells α) (key : Nat) (value : α) : Cells α :=
  fun other => if other = key then value else cells other

theorem set_apply (cells : Cells α) (key other : Nat) (value : α) :
    cells.set key value other = if other = key then value else cells other := rfl

@[simp] theorem set_self (cells : Cells α) (key : Nat) (value : α) :
    cells.set key value key = value := by
  simp [set]

@[simp] theorem set_other (cells : Cells α) {key other : Nat} (value : α) (distinct : other ≠ key) :
    cells.set key value other = cells other := by
  simp [set, distinct]

@[simp] theorem set_set (cells : Cells α) (key : Nat) (first second : α) :
    (cells.set key first).set key second = cells.set key second := by
  funext other
  by_cases same : other = key <;> simp [set, same]

@[simp] theorem set_present (cells : Cells α) (key : Nat) : cells.set key (cells key) = cells := by
  funext other
  by_cases same : other = key <;> simp [set, same]

end Cells

end ShaderDriver
