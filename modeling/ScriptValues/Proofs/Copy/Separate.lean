import ScriptValues.Proofs.Copy.Allocation

/-! Worlds of which one part knows nothing of the other.

`Separate w u` says that `u` has all that `w` has, unchanged, and that whatever is new in `u` refers
only to what is new or absent. A change of something new keeps the two parts separate as long as it
writes references of that kind. -/

namespace ScriptValues

namespace Heap

variable {α : Type} [Inhabited α] {floor : Nat} {P : α → Prop} {h : Heap α}

def AllFrom (floor : Nat) (P : α → Prop) (h : Heap α) : Prop := ∀ i, floor ≤ i → P (h.read i)

theorem allFrom_size (h : Heap α) (unset : P default) : AllFrom h.size P h := by
  intro i beyond
  rw [read_beyond h beyond]
  exact unset

theorem AllFrom.push (all : AllFrom floor P h) {a : α} (new : P a) : AllFrom floor P (h.push a) := by
  intro i above
  by_cases last : i = h.size
  · rw [last, read_push_self]
    exact new
  · rw [read_push_other h a last]
    exact all i above

theorem AllFrom.write (all : AllFrom floor P h) (i : Nat) {a : α} (new : P a) :
    AllFrom floor P (h.write i a) := by
  intro j above
  by_cases hit : i = j ∧ j < h.size
  · rw [read, get?_write, if_pos hit]
    exact new
  · rw [read, get?_write, if_neg hit]
    exact all j above

end Heap

namespace World

variable {E : Type} {w u : World E}

/-- Nothing stands behind `x` in `w`: it is an absent value, or it was not handed out yet. -/
def Vacant (w : World E) (x : Value) : Prop := w.backing x = .absent

def Beyond (w : World E) : Backing E → Prop
  | .aggregate _ space => w.arena.slots.size ≤ space.index
  | .list l => w.lists.size ≤ l.index
  | .set s => w.sets.size ≤ s.index
  | .map m => w.maps.size ≤ m.index
  | _ => True

/-- A slot whose space binds nothing of `w`. -/
def Clear (w : World E) (slot : Option Space) : Prop :=
  ∀ s, slot = some s → ∀ name x, s.bindings.get? name = some x → w.Vacant x

structure Separate (w u : World E) : Prop where
  keeps : w.Keeps u
  cells : u.cells.AllFrom w.cells.size fun c => w.Beyond c.backing
  lists : u.lists.AllFrom w.lists.size fun b => ∀ x ∈ b.items, w.Vacant x
  sets : u.sets.AllFrom w.sets.size fun b => ∀ x ∈ b.items, w.Vacant x
  maps : u.maps.AllFrom w.maps.size fun b =>
    ∀ entry ∈ b.entries, w.Vacant entry.1 ∧ w.Vacant entry.2
  slots : u.arena.slots.AllFrom w.arena.slots.size w.Clear

theorem vacant_of_new {x : Value} (new : w.cells.size ≤ x.index) : w.Vacant x :=
  backing_of_new new

theorem separate_refl (w : World E) : w.Separate w where
  keeps := keepsFrom_refl 0 w
  cells := Heap.allFrom_size _ trivial
  lists := Heap.allFrom_size _ (fun _ member => absurd member List.not_mem_nil)
  sets := Heap.allFrom_size _ (fun _ member => absurd member List.not_mem_nil)
  maps := Heap.allFrom_size _ (fun _ member => absurd member List.not_mem_nil)
  slots := Heap.allFrom_size _ (fun _ absent => by cases absent)

namespace Separate

variable (separate : w.Separate u)

include separate

theorem beyond {x : Value} (vacant : w.Vacant x) : w.Beyond (u.backing x) := by
  by_cases new : w.cells.size ≤ x.index
  · exact separate.cells x.index new
  · have same := separate.keeps.backing (Nat.lt_of_not_le new)
    rw [same, vacant]
    trivial

theorem new_of_backing {x : Value} (vacant : w.Vacant x) (now : u.backing x ≠ .absent) :
    w.cells.size ≤ x.index := by
  by_contra old
  rw [separate.keeps.backing (Nat.lt_of_not_le old)] at now
  exact now vacant

theorem vacant_of_bound {id : SpaceId} (new : w.arena.slots.size ≤ id.index) {name : String}
    {x : Value} (bound : (u.arena.bindings id).get? name = some x) : w.Vacant x := by
  rw [Arena.bindings] at bound
  cases live : u.arena.space? id with
  | none =>
      rw [live] at bound
      cases bound
  | some s =>
      rw [live] at bound
      exact separate.slots id.index new s live name x bound

theorem addCell {c : Cell E} (beyond : w.Beyond c.backing) : w.Separate (u.addCell c).2 :=
  { separate with
    keeps := { separate.keeps with cells := separate.keeps.cells.push c }
    cells := separate.cells.push beyond }

theorem writeCell {x : Value} (new : w.cells.size ≤ x.index) {c : Cell E}
    (beyond : w.Beyond c.backing) : w.Separate (u.writeCell x c) :=
  { separate with
    keeps := { separate.keeps with cells := separate.keeps.cells.write (.inr new) c }
    cells := separate.cells.write x.index beyond }

theorem setDirty {x : Value} (new : w.cells.size ≤ x.index) : w.Separate (u.setDirty x) :=
  separate.writeCell new (separate.cells x.index new)

theorem setBacking {x : Value} (new : w.cells.size ≤ x.index) {b : Backing E}
    (beyond : w.Beyond b) : w.Separate (u.setBacking x b) :=
  separate.writeCell new beyond

theorem addList {b : ListBox} (items : ∀ x ∈ b.items, w.Vacant x) :
    w.Separate (u.addList b).2 :=
  { separate with
    keeps := { separate.keeps with lists := separate.keeps.lists.push b }
    lists := separate.lists.push items }

theorem writeList {l : ListId} (new : w.lists.size ≤ l.index) {b : ListBox}
    (items : ∀ x ∈ b.items, w.Vacant x) : w.Separate (u.writeList l b) :=
  { separate with
    keeps := { separate.keeps with lists := separate.keeps.lists.write (.inr new) b }
    lists := separate.lists.write l.index items }

theorem addSet {b : SetBox} (items : ∀ x ∈ b.items, w.Vacant x) : w.Separate (u.addSet b).2 :=
  { separate with
    keeps := { separate.keeps with sets := separate.keeps.sets.push b }
    sets := separate.sets.push items }

theorem writeSet {s : SetId} (new : w.sets.size ≤ s.index) {b : SetBox}
    (items : ∀ x ∈ b.items, w.Vacant x) : w.Separate (u.writeSet s b) :=
  { separate with
    keeps := { separate.keeps with sets := separate.keeps.sets.write (.inr new) b }
    sets := separate.sets.write s.index items }

theorem addMap {b : MapBox} (entries : ∀ entry ∈ b.entries, w.Vacant entry.1 ∧ w.Vacant entry.2) :
    w.Separate (u.addMap b).2 :=
  { separate with
    keeps := { separate.keeps with maps := separate.keeps.maps.push b }
    maps := separate.maps.push entries }

theorem writeMap {m : MapId} (new : w.maps.size ≤ m.index) {b : MapBox}
    (entries : ∀ entry ∈ b.entries, w.Vacant entry.1 ∧ w.Vacant entry.2) :
    w.Separate (u.writeMap m b) :=
  { separate with
    keeps := { separate.keeps with maps := separate.keeps.maps.write (.inr new) b }
    maps := separate.maps.write m.index entries }

theorem allocate (parent : Option SpaceId) (depth : Nat) :
    w.Separate (u.withArena (u.arena.allocate parent depth).2) :=
  { separate with
    keeps := { separate.keeps with slots := separate.keeps.slots.push _ }
    slots := separate.slots.push (fun s same name x bound => by cases same; cases bound) }

theorem writeSlot {id : SpaceId} (new : w.arena.slots.size ≤ id.index) {slot : Option Space}
    (clear : w.Clear slot) : w.Separate (u.withArena (u.arena.writeSlot id slot)) :=
  { separate with
    keeps := { separate.keeps with slots := separate.keeps.slots.write (.inr new) slot }
    slots := separate.slots.write id.index clear }

theorem outside (o : E) : w.Separate { u with outside := o } :=
  { separate with keeps := { separate.keeps with } }

theorem clear_insert {id : SpaceId} (new : w.arena.slots.size ≤ id.index) {s : Space}
    (live : u.arena.space? id = some s) (name : String) {x : Value} (vacant : w.Vacant x) :
    w.Clear (some { s with bindings := s.bindings.insert name x }) := by
  intro t same key y bound
  cases same
  by_cases hit : key = name
  · subst hit
    rw [Table.get?_insert_self] at bound
    cases bound
    exact vacant
  · rw [Table.get?_insert_other _ _ hit] at bound
    exact separate.slots id.index new s live key y bound

theorem bind {id : SpaceId} (new : w.arena.slots.size ≤ id.index) (name : String) {x : Value}
    (vacant : w.Vacant x) : w.Separate (u.withArena (u.arena.bind id name x).2) := by
  rw [Arena.bind]
  cases writable : u.arena.writable? id with
  | none => exact separate
  | some s =>
      have live := (Arena.writable?_eq_some _ writable).2
      dsimp only
      split
      · exact separate
      · exact separate.writeSlot new (separate.clear_insert new live name vacant)

theorem rebind {id : SpaceId} (new : w.arena.slots.size ≤ id.index) (name : String) {x : Value}
    (vacant : w.Vacant x) : w.Separate (u.withArena (u.arena.rebind id name x).2) := by
  rw [Arena.rebind]
  cases writable : u.arena.writable? id with
  | none => exact separate
  | some s =>
      have live := (Arena.writable?_eq_some _ writable).2
      exact separate.writeSlot new (separate.clear_insert new live name vacant)

theorem unbind {id : SpaceId} (new : w.arena.slots.size ≤ id.index) (name : String) :
    w.Separate (u.withArena (u.arena.unbind id name).2) := by
  rw [Arena.unbind]
  cases live : u.arena.space? id with
  | none => exact separate
  | some s =>
      apply separate.writeSlot new
      intro t same key y bound
      cases same
      by_cases hit : key = name
      · subst hit
        rw [Table.get?_erase_self] at bound
        cases bound
      · rw [Table.get?_erase_other _ hit] at bound
        exact separate.slots id.index new s live key y bound

end Separate

end World

end ScriptValues
