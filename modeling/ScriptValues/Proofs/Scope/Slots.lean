import ScriptValues.Scope.Arena
import Mathlib.Logic.Relation
import Mathlib.Tactic.ByContra

/-! What the operations of the arena do to the space behind an id.

The main statements give `space?` after each operation; no later proof opens an operation. -/

namespace ScriptValues

def Space.place (s : Space) : Option SpaceId × Nat := (s.parent, s.depth)

namespace SpaceId

theorem eq_of_index {x y : SpaceId} (same : x.index = y.index) : x = y := by
  cases x
  cases y
  exact congrArg SpaceId.mk same

end SpaceId

namespace Arena

variable (a : Arena)

/-- Ids that were handed out, whether their spaces are still live or not. -/
def Allocated (id : SpaceId) : Prop := id.index < a.slots.size

instance (id : SpaceId) : Decidable (a.Allocated id) := inferInstanceAs (Decidable (_ < _))

theorem contains_iff (id : SpaceId) : a.contains id = true ↔ ∃ s, a.space? id = some s :=
  Option.isSome_iff_exists

theorem contains_eq_false_iff (id : SpaceId) : a.contains id = false ↔ a.space? id = none := by
  simp [contains]

theorem space?_eq_none_of_not_allocated {id : SpaceId} (beyond : ¬ a.Allocated id) :
    a.space? id = none := by
  rw [space?, Heap.read_beyond a.slots (Nat.le_of_not_lt beyond)]
  rfl

theorem allocated_of_space? {id : SpaceId} {s : Space} (live : a.space? id = some s) :
    a.Allocated id := by
  by_contra beyond
  rw [space?_eq_none_of_not_allocated a beyond] at live
  cases live

theorem mem_live_iff (id : SpaceId) : id ∈ a.live ↔ a.contains id = true := by
  constructor
  · intro member
    exact (List.mem_filter.mp member).2
  · intro live
    obtain ⟨s, found⟩ := (contains_iff a id).mp live
    have known : id ∈ a.allocated := by
      refine List.mem_map.mpr ⟨id.index, ?_, rfl⟩
      exact List.mem_range.mpr (allocated_of_space? a found)
    exact List.mem_filter.mpr ⟨known, live⟩

theorem writable?_eq_some {id : SpaceId} {s : Space} (writable : a.writable? id = some s) :
    id ≠ SpaceId.empty ∧ a.space? id = some s := by
  rw [writable?] at writable
  split at writable
  · cases writable
  · exact ⟨by assumption, writable⟩

/-! Allocation -/

@[simp] theorem allocate_fst (parent : Option SpaceId) (depth : Nat) :
    (a.allocate parent depth).1 = ⟨a.slots.size⟩ := rfl

@[simp] theorem allocate_size (parent : Option SpaceId) (depth : Nat) :
    (a.allocate parent depth).2.slots.size = a.slots.size + 1 :=
  Heap.size_push _ _

theorem space?_allocate (parent : Option SpaceId) (depth : Nat) (id : SpaceId) :
    (a.allocate parent depth).2.space? id =
      if id.index = a.slots.size then some ⟨Table.empty, parent, depth⟩ else a.space? id := by
  simp only [allocate, space?, Heap.read, Heap.get?_push]
  split <;> rfl

/-! Writing a slot -/

@[simp] theorem writeSlot_size (target : SpaceId) (slot : Option Space) :
    (a.writeSlot target slot).slots.size = a.slots.size :=
  Heap.size_write _ _ _

theorem space?_writeSlot (target id : SpaceId) (slot : Option Space) :
    (a.writeSlot target slot).space? id =
      if target = id ∧ a.Allocated id then slot else a.space? id := by
  simp only [writeSlot, space?, Heap.read, Heap.get?_write]
  by_cases same : target = id
  · subst same
    by_cases known : a.Allocated target
    · rw [if_pos ⟨rfl, known⟩, if_pos ⟨rfl, known⟩]
      rfl
    · rw [if_neg (fun h => known h.2), if_neg (fun h => known h.2)]
  · have other : ¬ target.index = id.index := fun h => same (SpaceId.eq_of_index h)
    rw [if_neg (fun h => other h.1), if_neg (fun h => same h.1)]

theorem space?_writeSlot_none (target id : SpaceId) :
    (a.writeSlot target none).space? id = if target = id then none else a.space? id := by
  rw [space?_writeSlot]
  by_cases same : target = id
  · by_cases known : a.Allocated id
    · rw [if_pos ⟨same, known⟩, if_pos same]
    · rw [if_neg (fun h => known h.2), if_pos same, space?_eq_none_of_not_allocated a known]
  · rw [if_neg (fun h => same h.1), if_neg same]

theorem space?_writeSlot_live {target : SpaceId} {s : Space} (live : a.space? target = some s)
    (id : SpaceId) (slot : Option Space) :
    (a.writeSlot target slot).space? id = if target = id then slot else a.space? id := by
  rw [space?_writeSlot]
  by_cases same : target = id
  · rw [if_pos ⟨same, same ▸ allocated_of_space? a live⟩, if_pos same]
  · rw [if_neg (fun h => same h.1), if_neg same]

/-! Releasing -/

theorem release_size (doomed : List SpaceId) :
    (doomed.foldl (fun b id => b.writeSlot id none) a).slots.size = a.slots.size := by
  induction doomed generalizing a with
  | nil => rfl
  | cons head tail ih =>
      rw [List.foldl_cons, ih, writeSlot_size]

theorem release_shared (doomed : List SpaceId) :
    (doomed.foldl (fun b id => b.writeSlot id none) a).selfSpace = a.selfSpace ∧
      (doomed.foldl (fun b id => b.writeSlot id none) a).maxDepth = a.maxDepth := by
  induction doomed generalizing a with
  | nil => exact ⟨rfl, rfl⟩
  | cons head tail ih => exact ih (a.writeSlot head none)

theorem space?_release (doomed : List SpaceId) (id : SpaceId) :
    (doomed.foldl (fun b id => b.writeSlot id none) a).space? id =
      if id ∈ doomed then none else a.space? id := by
  induction doomed generalizing a with
  | nil => simp
  | cons head tail ih =>
      rw [List.foldl_cons, ih, space?_writeSlot_none]
      by_cases later : id ∈ tail
      · rw [if_pos later, if_pos (List.mem_cons_of_mem _ later)]
      · rw [if_neg later]
        by_cases same : head = id
        · rw [if_pos same, if_pos (same ▸ List.mem_cons_self)]
        · have absent : id ∉ head :: tail := by
            intro member
            rcases List.mem_cons.mp member with first | rest
            · exact same first.symm
            · exact later rest
          rw [if_neg same, if_neg absent]

end Arena

end ScriptValues
