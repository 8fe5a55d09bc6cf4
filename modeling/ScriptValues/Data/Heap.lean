/-! Stores of cells that are addressed by their position and never removed.

A new cell gets the next position, so positions are never reused. A position that was never handed
out reads as the default cell. -/

namespace ScriptValues

structure Heap (α : Type) where
  cells : Array α

namespace Heap

variable {α : Type}

def empty : Heap α := ⟨#[]⟩

instance : Inhabited (Heap α) := ⟨empty⟩

def size (h : Heap α) : Nat := h.cells.size

def get? (h : Heap α) (i : Nat) : Option α := h.cells[i]?

def read [Inhabited α] (h : Heap α) (i : Nat) : α := (h.get? i).getD default

/-- The cell added by `push` stands at position `h.size`. -/
def push (h : Heap α) (a : α) : Heap α := ⟨h.cells.push a⟩

def write (h : Heap α) (i : Nat) (a : α) : Heap α := ⟨h.cells.setIfInBounds i a⟩

@[simp] theorem size_push (h : Heap α) (a : α) : (h.push a).size = h.size + 1 := by
  simp [push, size]

@[simp] theorem size_write (h : Heap α) (i : Nat) (a : α) : (h.write i a).size = h.size := by
  simp [write, size]

theorem get?_eq_none_iff (h : Heap α) (i : Nat) : h.get? i = none ↔ h.size ≤ i := by
  simp [get?, size]

theorem get?_push (h : Heap α) (a : α) (i : Nat) :
    (h.push a).get? i = if i = h.size then some a else h.get? i := by
  simp only [push, get?, size, Array.getElem?_push]
  congr

theorem get?_write (h : Heap α) (a : α) (i j : Nat) :
    (h.write i a).get? j = if i = j ∧ j < h.size then some a else h.get? j := by
  simp only [write, get?, size, Array.getElem?_setIfInBounds]
  by_cases hij : i = j
  · subst hij
    by_cases hi : i < h.cells.size <;> simp [hi]
  · simp [hij]

theorem write_beyond (h : Heap α) {i : Nat} (beyond : h.size ≤ i) (a : α) : h.write i a = h :=
  congrArg Heap.mk (Array.setIfInBounds_eq_of_size_le beyond)

theorem write_write (h : Heap α) (i : Nat) (a b : α) : (h.write i a).write i b = h.write i b := by
  simp only [write, Array.setIfInBounds_setIfInBounds]

variable [Inhabited α]

@[simp] theorem read_push_self (h : Heap α) (a : α) : (h.push a).read h.size = a := by
  simp [read, get?_push]

theorem read_push_other (h : Heap α) (a : α) {i : Nat} (old : i ≠ h.size) :
    (h.push a).read i = h.read i := by
  simp [read, get?_push, old]

theorem read_write_self (h : Heap α) (a : α) {i : Nat} (present : i < h.size) :
    (h.write i a).read i = a := by
  simp [read, get?_write, present]

theorem read_write_other (h : Heap α) (a : α) {i j : Nat} (other : i ≠ j) :
    (h.write i a).read j = h.read j := by
  simp [read, get?_write, other]

theorem read_push (h : Heap α) (a : α) (i : Nat) :
    (h.push a).read i = if i = h.size then a else h.read i := by
  rw [read, get?_push]
  split <;> rfl

theorem read_write (h : Heap α) (a : α) (i j : Nat) :
    (h.write i a).read j = if i = j ∧ j < h.size then a else h.read j := by
  rw [read, get?_write]
  split <;> rfl

theorem read_beyond (h : Heap α) {i : Nat} (beyond : h.size ≤ i) : h.read i = default := by
  rw [read, (get?_eq_none_iff h i).mpr beyond]
  rfl

theorem write_read (h : Heap α) (i : Nat) : h.write i (h.read i) = h := by
  have same : ∀ j, (h.write i (h.read i)).get? j = h.get? j := by
    intro j
    rw [get?_write]
    split
    · rename_i here
      obtain ⟨same, present⟩ := here
      subst same
      cases found : h.get? i with
      | none => exact absurd present (Nat.not_lt_of_le ((get?_eq_none_iff h i).mp found))
      | some a =>
          rw [read, found]
          rfl
    · rfl
  exact congrArg Heap.mk (Array.ext_getElem? same)

def Kept (i : Nat) (g h : Heap α) : Prop := i < g.size → i < h.size ∧ h.read i = g.read i

theorem kept_refl (i : Nat) (h : Heap α) : Kept i h h := fun there => ⟨there, rfl⟩

theorem Kept.trans {i : Nat} {f g h : Heap α} (first : Kept i f g) (second : Kept i g h) :
    Kept i f h := by
  intro there
  obtain ⟨still, same⟩ := first there
  obtain ⟨kept, same'⟩ := second still
  exact ⟨kept, same'.trans same⟩

theorem kept_push (i : Nat) (h : Heap α) (a : α) : Kept i h (h.push a) := by
  intro there
  refine ⟨?_, read_push_other h a (Nat.ne_of_lt there)⟩
  rw [size_push]
  exact Nat.lt_succ_of_lt there

theorem kept_write {i j : Nat} (other : j ≠ i) (h : Heap α) (a : α) : Kept i h (h.write j a) := by
  intro there
  refine ⟨?_, read_write_other h a other⟩
  rw [size_write]
  exact there

end Heap

end ScriptValues
