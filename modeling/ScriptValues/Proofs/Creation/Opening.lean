import ScriptValues.Proofs.Copy.Allocation
import ScriptValues.Proofs.World.Outcome
import ScriptValues.Proofs.Scope.Building

/-! What it takes to make a new aggregate.

A new aggregate has a new cell and a new space, in which nothing is bound but the aggregate itself.
All that was there before stays as it was. -/

namespace ScriptValues

open World Step

variable {E : Type}

namespace Space

variable {s : Space} {name other : String} {v x : Value}

def put (s : Space) (name : String) (v : Value) : Space :=
  if s.bindings.contains name then s else { s with bindings := s.bindings.insert name v }

theorem place_put (s : Space) (name : String) (v : Value) : (s.put name v).place = s.place := by
  rw [put]
  split <;> rfl

theorem get?_put_self (free : s.bindings.get? name = none) (v : Value) :
    (s.put name v).bindings.get? name = some v := by
  have untaken : s.bindings.contains name = false := by rw [Table.contains, free]; rfl
  rw [put, untaken]
  exact Table.get?_insert_self _ _ _

theorem get?_put_other (apart : other ≠ name) (v : Value) :
    (s.put name v).bindings.get? other = s.bindings.get? other := by
  rw [put]
  split
  · rfl
  · exact Table.get?_insert_other _ _ apart

theorem get?_put_of_bound (bound : s.bindings.get? other = some x) (name : String) (v : Value) :
    (s.put name v).bindings.get? other = some x := by
  by_cases same : other = name
  · subst same
    have taken : s.bindings.contains other = true := by rw [Table.contains, bound]; rfl
    rw [put, if_pos taken]
    exact bound
  · rw [get?_put_other same, bound]

end Space

namespace Arena

variable {a b : Arena} {id : SpaceId}

theorem ne_empty_of_new (first : a.Allocated SpaceId.empty) (new : a.slots.size ≤ id.index) :
    id ≠ SpaceId.empty := by
  rintro rfl
  exact Nat.not_lt_of_le new first

theorem ChangesAt.size (changed : ChangesAt id a b) : b.slots.size = a.slots.size := by
  rcases changed with same | ⟨slot, written⟩
  · rw [same]
  · rw [written, writeSlot_size]

theorem size_allocate (a : Arena) (parent : Option SpaceId) (depth : Nat) :
    (a.allocate parent depth).2.size = a.size + 1 := by
  have ids : (a.allocate parent depth).2.allocated = a.allocated ++ [⟨a.slots.size⟩] := by
    rw [allocated, allocate_size, List.range_succ, List.map_append]
    rfl
  have here : (a.allocate parent depth).2.contains ⟨a.slots.size⟩ = true := by
    rw [contains, space?_allocate, if_pos rfl]
    rfl
  have old : a.allocated.filter (a.allocate parent depth).2.contains = a.live := by
    apply List.filter_congr
    intro id known
    obtain ⟨i, below, rfl⟩ := List.mem_map.mp known
    rw [contains, contains, space?_allocate, if_neg (Nat.ne_of_lt (List.mem_range.mp below))]
  rw [size, live, ids, List.filter_append, old, List.filter_singleton, here]
  exact List.length_append

theorem size_bind (a : Arena) (id : SpaceId) (name : String) (v : Value) :
    (a.bind id name v).2.size = a.size := by
  have bound : a.Rebinds id (a.bind id name v).2 := .bind name v
  have alike : (a.bind id name v).2.contains = a.contains := by
    funext x
    have place := congrArg Option.isSome (bound.place x)
    rw [Option.isSome_map, Option.isSome_map] at place
    exact place
  rw [size, live, allocated, (bind_changesAt a id name v).size, alike]
  rfl

theorem space?_bind {s : Space} (live : a.space? id = some s) (other : id ≠ SpaceId.empty)
    (name : String) (v : Value) : (a.bind id name v).2.space? id = some (s.put name v) := by
  have writable : a.writable? id = some s := by
    rw [writable?, if_neg other]
    exact live
  rw [bind, writable, Space.put]
  by_cases taken : s.bindings.contains name = true
  · simp only [taken, if_true]
    exact live
  · simp only [taken]
    exact (space?_writeSlot_live a live id _).trans (if_pos rfl)

end Arena

namespace World

variable {floor : Nat} {u v w x : World E}

structure ExtendsFrom (floor : Nat) (u w : World E) : Prop extends u.KeepsFrom floor w where
  templates : u.templates.KeepsFrom 0 w.templates
  identities : u.nextIdentity ≤ w.nextIdentity
  selfSpace : w.arena.selfSpace = u.arena.selfSpace
  maxDepth : w.arena.maxDepth = u.arena.maxDepth
  outside : w.outside = u.outside

theorem extendsFrom_refl (floor : Nat) (w : World E) : w.ExtendsFrom floor w :=
  ⟨keepsFrom_refl floor w, Heap.keepsFrom_refl 0 _, Nat.le_refl _, rfl, rfl, rfl⟩

namespace ExtendsFrom

theorem trans (first : u.ExtendsFrom floor v) (second : v.ExtendsFrom floor w) :
    u.ExtendsFrom floor w where
  toKeepsFrom := first.toKeepsFrom.trans second.toKeepsFrom
  templates := first.templates.trans second.templates
  identities := Nat.le_trans first.identities second.identities
  selfSpace := second.selfSpace.trans first.selfSpace
  maxDepth := second.maxDepth.trans first.maxDepth
  outside := second.outside.trans first.outside

theorem mono {higher : Nat} (extended : u.ExtendsFrom floor w) (above : floor ≤ higher) :
    u.ExtendsFrom higher w :=
  { extended with toKeepsFrom := extended.toKeepsFrom.mono above }

theorem bind (extended : u.ExtendsFrom floor w) {id : SpaceId}
    (apart : id.index < floor ∨ u.arena.slots.size ≤ id.index) (name : String) (x : Value) :
    u.ExtendsFrom floor (w.withArena (w.arena.bind id name x).2) where
  toKeepsFrom := extended.toKeepsFrom.changeArena apart (Arena.bind_changesAt _ _ _ _)
  templates := extended.templates
  identities := extended.identities
  selfSpace := (Arena.bind_changesAt _ _ _ _).fixed.1.trans extended.selfSpace
  maxDepth := (Arena.bind_changesAt _ _ _ _).fixed.2.trans extended.maxDepth
  outside := extended.outside

end ExtendsFrom

theorem Allocates.extendsFrom (allocates : u.Allocates w) : u.ExtendsFrom 0 w where
  toKeepsFrom := allocates.keeps
  templates := allocates.templates ▸ Heap.keepsFrom_refl 0 _
  identities := Nat.le_of_eq allocates.nextIdentity.symm
  selfSpace := allocates.selfSpace
  maxDepth := allocates.maxDepth
  outside := allocates.outside

/-- In `u` there is a new aggregate `v`, made in `w` with a new space below `parent`. -/
structure Opens (w u : World E) (ty : Ty) (parent : SpaceId) (p : Payload) (v : Value)
    (space : SpaceId) : Prop where
  extended : w.ExtendsFrom 0 u
  value : v = ⟨w.cells.size⟩
  cells : u.cells.size = w.cells.size + 1
  cell : u.cell v = { ty, mutable := true, backing := .aggregate p space }
  place : space = ⟨w.arena.slots.size⟩
  slots : u.arena.slots.size = w.arena.slots.size + 1
  count : u.arena.size = w.arena.size + 1
  live : w.arena.Allocated SpaceId.empty → ∃ above,
    w.arena.space? parent = some above ∧
      u.arena.space? space = some ⟨Table.empty.insert selfName v, some parent, above.depth + 1⟩

theorem newAggregate_opens {ty : Ty} {parent space : SpaceId} {p : Payload} {v : Value}
    (made : newAggregate ty parent p w = (.ok (v, space), u)) : w.Opens u ty parent p v space := by
  rw [newAggregate_apply] at made
  cases opened : w.arena.newSpace (some parent) with
  | error fault =>
      rw [opened] at made
      cases made
  | ok answer =>
      obtain ⟨id, a⟩ := answer
      rw [opened] at made
      rcases Arena.newSpace_cases opened with ⟨absent, _⟩ | ⟨_, above, same, upper, _, fresh⟩
      · cases absent
      · cases same
        obtain ⟨rfl, rfl⟩ : id = ⟨w.arena.slots.size⟩ ∧
            a = (w.arena.allocate (some parent) (above.depth + 1)).2 :=
          ⟨congrArg Prod.fst fresh, congrArg Prod.snd fresh⟩
        cases made
        have allocated := composes_allocates.trans
          (allocates_allocate w (some parent) (above.depth + 1))
          (allocates_addCell _ ⟨ty, true, .aggregate p ⟨w.arena.slots.size⟩, false, none⟩)
        have fresh : (w.arena.allocate (some parent) (above.depth + 1)).2.space?
            ⟨w.arena.slots.size⟩ = some ⟨Table.empty, some parent, above.depth + 1⟩ := by
          rw [Arena.space?_allocate, if_pos rfl]
        refine
          { extended := allocated.extendsFrom.bind (.inr (Nat.le_refl _)) selfName _
            value := rfl
            cells := Heap.size_push _ _
            cell := Heap.read_push_self _ _
            place := rfl
            slots := (Arena.bind_changesAt _ _ _ _).size.trans (Arena.allocate_size _ _ _)
            count := (Arena.size_bind _ _ _ _).trans (Arena.size_allocate _ _ _)
            live := fun first => ⟨above, upper, ?_⟩ }
        exact Arena.space?_bind fresh (Arena.ne_empty_of_new first (Nat.le_refl _)) selfName _

end World

end ScriptValues
