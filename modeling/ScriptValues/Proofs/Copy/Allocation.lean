import ScriptValues.Proofs.Copy.Cases
import ScriptValues.Proofs.World.Change

/-! A deep copy only allocates.

Whether it succeeds or fails, it leaves every cell, container and space that was there as it was. -/

namespace ScriptValues

namespace Heap

variable {α : Type} {floor : Nat} {h k : Heap α}

structure KeepsFrom (floor : Nat) (h k : Heap α) : Prop where
  size : h.size ≤ k.size
  same : ∀ i, floor ≤ i → i < h.size → k.get? i = h.get? i

theorem keepsFrom_refl (floor : Nat) (h : Heap α) : KeepsFrom floor h h :=
  ⟨Nat.le_refl _, fun _ _ _ => rfl⟩

theorem KeepsFrom.trans {l : Heap α} (first : KeepsFrom floor h k) (second : KeepsFrom floor k l) :
    KeepsFrom floor h l where
  size := Nat.le_trans first.size second.size
  same i above present := by
    have still := Nat.lt_of_lt_of_le present first.size
    calc
      l.get? i = k.get? i := second.same i above still
      _ = h.get? i := first.same i above present

theorem KeepsFrom.mono {higher : Nat} (kept : KeepsFrom floor h k) (above : floor ≤ higher) :
    KeepsFrom higher h k :=
  ⟨kept.size, fun i at_least => kept.same i (Nat.le_trans above at_least)⟩

theorem KeepsFrom.push (kept : KeepsFrom floor h k) (a : α) : KeepsFrom floor h (k.push a) := by
  refine ⟨?_, fun i above present => ?_⟩
  · rw [size_push]
    exact Nat.le_succ_of_le kept.size
  · have old : i ≠ k.size := Nat.ne_of_lt (Nat.lt_of_lt_of_le present kept.size)
    rw [get?_push, if_neg old]
    exact kept.same i above present

theorem KeepsFrom.write (kept : KeepsFrom floor h k) {i : Nat} (apart : i < floor ∨ h.size ≤ i)
    (a : α) : KeepsFrom floor h (k.write i a) := by
  refine ⟨?_, fun j above present => ?_⟩
  · rw [size_write]
    exact kept.size
  · have other : ¬ (i = j ∧ j < k.size) := by omega
    rw [get?_write, if_neg other]
    exact kept.same j above present

theorem KeepsFrom.read [Inhabited α] (kept : KeepsFrom floor h k) {i : Nat} (above : floor ≤ i)
    (present : i < h.size) : k.read i = h.read i := by
  simp only [Heap.read, kept.same i above present]

theorem KeepsFrom.read_push [Inhabited α] {β : Type} (f : α → β) (kept : KeepsFrom 0 h k) {i : Nat}
    (beyond : h.size ≤ i → k = h) {a : α} (same : f a = f (h.read i)) :
    f ((k.push a).read i) = f (h.read i) := by
  rw [Heap.read_push]
  split
  · exact same
  · by_cases there : i < h.size
    · rw [kept.read (Nat.zero_le i) there]
    · rw [beyond (Nat.le_of_not_lt there)]

end Heap

namespace Arena

variable {a b : Arena} {id : SpaceId}

def ChangesAt (id : SpaceId) (a b : Arena) : Prop := b = a ∨ ∃ slot, b = a.writeSlot id slot

theorem ChangesAt.fixed (changed : ChangesAt id a b) :
    b.selfSpace = a.selfSpace ∧ b.maxDepth = a.maxDepth := by
  rcases changed with same | ⟨slot, written⟩
  · rw [same]
    constructor
    · rfl
    · rfl
  · rw [written]
    constructor
    · rfl
    · rfl

theorem bind_changesAt (a : Arena) (id : SpaceId) (name : String) (v : Value) :
    ChangesAt id a (a.bind id name v).2 := by
  rw [Arena.bind]
  cases a.writable? id with
  | none => exact .inl rfl
  | some s =>
      dsimp only
      split
      · exact .inl rfl
      · exact .inr ⟨_, rfl⟩

end Arena

namespace World

variable {E : Type} {floor : Nat} {u v w : World E}

structure KeepsFrom (floor : Nat) (u w : World E) : Prop where
  cells : u.cells.KeepsFrom 0 w.cells
  lists : u.lists.KeepsFrom 0 w.lists
  sets : u.sets.KeepsFrom 0 w.sets
  maps : u.maps.KeepsFrom 0 w.maps
  slots : u.arena.slots.KeepsFrom floor w.arena.slots

/-- Every cell, container and space of `u` is in `w` as it was. -/
def Keeps (u w : World E) : Prop := KeepsFrom 0 u w

theorem keepsFrom_refl (floor : Nat) (w : World E) : KeepsFrom floor w w :=
  ⟨Heap.keepsFrom_refl 0 _, Heap.keepsFrom_refl 0 _, Heap.keepsFrom_refl 0 _,
    Heap.keepsFrom_refl 0 _, Heap.keepsFrom_refl floor _⟩

theorem KeepsFrom.trans (first : KeepsFrom floor u v) (second : KeepsFrom floor v w) :
    KeepsFrom floor u w :=
  ⟨first.cells.trans second.cells, first.lists.trans second.lists, first.sets.trans second.sets,
    first.maps.trans second.maps, first.slots.trans second.slots⟩

theorem KeepsFrom.mono {higher : Nat} (kept : KeepsFrom floor u w) (above : floor ≤ higher) :
    KeepsFrom higher u w :=
  ⟨kept.cells, kept.lists, kept.sets, kept.maps, kept.slots.mono above⟩

theorem KeepsFrom.changeArena (kept : KeepsFrom floor u w) {id : SpaceId} {a : Arena}
    (apart : id.index < floor ∨ u.arena.slots.size ≤ id.index)
    (changed : Arena.ChangesAt id w.arena a) : KeepsFrom floor u (w.withArena a) := by
  rcases changed with same | ⟨slot, written⟩
  · subst same
    exact kept
  · subst written
    exact ⟨kept.cells, kept.lists, kept.sets, kept.maps, kept.slots.write apart slot⟩

theorem KeepsFrom.cell (kept : KeepsFrom floor u w) {x : Value} (present : x.index < u.cells.size) :
    w.cell x = u.cell x :=
  kept.cells.read (Nat.zero_le _) present

theorem KeepsFrom.backing (kept : KeepsFrom floor u w) {x : Value}
    (present : x.index < u.cells.size) : w.backing x = u.backing x :=
  congrArg Cell.backing (kept.cell present)

theorem KeepsFrom.list (kept : KeepsFrom floor u w) {l : ListId} (present : l.index < u.lists.size) :
    w.list l = u.list l :=
  kept.lists.read (Nat.zero_le _) present

theorem KeepsFrom.set (kept : KeepsFrom floor u w) {s : SetId} (present : s.index < u.sets.size) :
    w.set s = u.set s :=
  kept.sets.read (Nat.zero_le _) present

theorem KeepsFrom.map (kept : KeepsFrom floor u w) {m : MapId} (present : m.index < u.maps.size) :
    w.map m = u.map m :=
  kept.maps.read (Nat.zero_le _) present

theorem KeepsFrom.space? (kept : KeepsFrom floor u w) {id : SpaceId} (above : floor ≤ id.index)
    (present : u.arena.Allocated id) : w.arena.space? id = u.arena.space? id :=
  kept.slots.read above present

/-- `w` comes out of `u` by allocation alone. -/
structure Allocates (u w : World E) : Prop where
  keeps : u.Keeps w
  templates : w.templates = u.templates
  selfSpace : w.arena.selfSpace = u.arena.selfSpace
  maxDepth : w.arena.maxDepth = u.arena.maxDepth
  nextIdentity : w.nextIdentity = u.nextIdentity
  outside : w.outside = u.outside

theorem composes_allocates : Composes (Allocates (E := E)) where
  refl w := ⟨keepsFrom_refl 0 w, rfl, rfl, rfl, rfl, rfl⟩
  trans first second :=
    ⟨first.keeps.trans second.keeps, second.templates.trans first.templates,
      second.selfSpace.trans first.selfSpace, second.maxDepth.trans first.maxDepth,
      second.nextIdentity.trans first.nextIdentity, second.outside.trans first.outside⟩

theorem allocates_addCell (w : World E) (c : Cell E) : w.Allocates (w.addCell c).2 :=
  ⟨{ keepsFrom_refl 0 w with cells := (Heap.keepsFrom_refl 0 _).push c }, rfl, rfl, rfl, rfl, rfl⟩

theorem allocates_addList (w : World E) (b : ListBox) : w.Allocates (w.addList b).2 :=
  ⟨{ keepsFrom_refl 0 w with lists := (Heap.keepsFrom_refl 0 _).push b }, rfl, rfl, rfl, rfl, rfl⟩

theorem allocates_addSet (w : World E) (b : SetBox) : w.Allocates (w.addSet b).2 :=
  ⟨{ keepsFrom_refl 0 w with sets := (Heap.keepsFrom_refl 0 _).push b }, rfl, rfl, rfl, rfl, rfl⟩

theorem allocates_addMap (w : World E) (b : MapBox) : w.Allocates (w.addMap b).2 :=
  ⟨{ keepsFrom_refl 0 w with maps := (Heap.keepsFrom_refl 0 _).push b }, rfl, rfl, rfl, rfl, rfl⟩

theorem Allocates.bind (known : u.Allocates w) {id : SpaceId}
    (fresh : u.arena.slots.size ≤ id.index) (name : String) (x : Value) :
    u.Allocates (w.withArena (w.arena.bind id name x).2) := by
  have changed := Arena.bind_changesAt w.arena id name x
  refine ⟨known.keeps.changeArena (.inr fresh) changed, known.templates, ?_, ?_, known.nextIdentity,
    known.outside⟩
  · calc
      (w.arena.bind id name x).2.selfSpace = w.arena.selfSpace := changed.fixed.1
      _ = u.arena.selfSpace := known.selfSpace
  · calc
      (w.arena.bind id name x).2.maxDepth = w.arena.maxDepth := changed.fixed.2
      _ = u.arena.maxDepth := known.maxDepth

theorem Allocates.duplicateInto (known : u.Allocates w) {id : SpaceId}
    (fresh : u.arena.slots.size ≤ id.index) (v : Value) (p : Payload) :
    u.Allocates (w.duplicateInto v p id).2 :=
  (composes_allocates.trans known (allocates_addCell w _)).bind fresh selfName _

theorem allocates_allocate (w : World E) (parent : Option SpaceId) (depth : Nat) :
    w.Allocates (w.withArena (w.arena.allocate parent depth).2) :=
  ⟨{ keepsFrom_refl 0 w with slots := (Heap.keepsFrom_refl 0 _).push _ }, rfl, rfl, rfl, rfl, rfl⟩

theorem newSpace_ok {parent : Option SpaceId} {space : SpaceId} {u w : World E}
    (made : Step.newSpace parent u = (.ok space, w)) :
    ∃ depth, space = ⟨u.arena.slots.size⟩ ∧ w = u.withArena (u.arena.allocate parent depth).2 := by
  rw [Step.newSpace] at made
  rcases found : u.arena.newSpace parent with _ | ⟨id, a⟩
  · rw [found] at made
    cases made
  · rw [found] at made
    cases made
    rcases Arena.newSpace_cases found with ⟨root, fresh⟩ | ⟨p, s, below, _, _, fresh⟩
    · subst root
      cases fresh
      exact ⟨0, rfl, rfl⟩
    · subst below
      cases fresh
      exact ⟨s.depth + 1, rfl, rfl⟩

theorem newSpace_allocates {parent : Option SpaceId} {space : SpaceId} {u w : World E}
    (made : Step.newSpace parent u = (.ok space, w)) :
    u.arena.slots.size ≤ space.index ∧ u.Allocates w := by
  obtain ⟨depth, same, grown⟩ := newSpace_ok made
  subst same grown
  exact ⟨Nat.le_refl _, allocates_allocate u parent depth⟩

theorem newSpace_error {parent : Option SpaceId} {fault : Fault} {u w : World E}
    (refused : Step.newSpace parent u = (.error fault, w)) : w = u := by
  rw [Step.newSpace] at refused
  cases found : u.arena.newSpace parent with
  | error other =>
      rw [found] at refused
      cases refused
      rfl
  | ok answer =>
      rw [found] at refused
      cases refused

end World

open World Step

variable {E : Type} {copy : Value → Step E Value}

theorem copyMembers_allocates (each : ∀ v, Within Allocates (copy v)) {u : World E} {space : SpaceId}
    (fresh : u.arena.slots.size ≤ space.index) (rows : List (String × Value)) (w : World E)
    (known : u.Allocates w) : u.Allocates (copyMembers copy space rows w).2 := by
  induction rows generalizing w with
  | nil => exact known
  | cons row rest ih =>
      obtain ⟨name, v⟩ := row
      rw [copyMembers]
      by_cases self : name = selfName
      · rw [if_pos self]
        exact ih w known
      · rw [if_neg self, bind_apply]
        have copied := composes_allocates.trans known (each v w)
        rcases done : copy v w with ⟨_ | c, x⟩
        · rw [done] at copied
          exact copied
        · rw [done] at copied
          exact ih _ (copied.bind fresh name c)

/-- A copy allocates and does nothing else, whether it succeeds or fails. -/
theorem deepCopyWithin_allocates (bound : Nat) (v : Value) :
    Within Allocates (deepCopyWithin bound v : Step E Value) := by
  induction bound generalizing v with
  | zero => exact within_pure composes_allocates v
  | succ bound ih =>
      intro w
      cases held : w.backing v with
      | absent =>
          rw [deepCopyWithin_absent held]
          exact composes_allocates.refl w
      | aggregate p space =>
          rw [deepCopyWithin_aggregate held]
          rcases made : Step.newSpace ((w.arena.space? space).bind (·.parent)) w with ⟨_ | id, u⟩
          · rw [newSpace_error made]
            exact composes_allocates.refl w
          · obtain ⟨fresh, known⟩ := newSpace_allocates made
            have filled := copyMembers_allocates ih fresh (w.arena.bindings space).rows _
              (known.duplicateInto fresh v p)
            dsimp only
            rcases done : copyMembers (deepCopyWithin bound) id (w.arena.bindings space).rows
              (u.duplicateInto v p id).2 with ⟨_ | _, x⟩
            · exact congrArg Prod.snd done ▸ filled
            · exact congrArg Prod.snd done ▸ filled
      | list l =>
          have copied := within_mapM composes_allocates ih (w.list l).items w
          rw [deepCopyWithin_list held]
          rcases done : (w.list l).items.mapM (deepCopyWithin bound) w with ⟨_ | items, u⟩
          · rw [done] at copied
            exact copied
          · rw [done] at copied
            apply composes_allocates.trans copied
            exact composes_allocates.trans (allocates_addList u _) (allocates_addCell _ _)
      | set s =>
          have copied := within_copyItems composes_allocates ih (w.set s).items (w.set s).cleared w
          rw [deepCopyWithin_set held]
          rcases done : copyItems (deepCopyWithin bound) (w.set s).items (w.set s).cleared w
            with ⟨_ | box, u⟩
          · rw [done] at copied
            exact copied
          · rw [done] at copied
            apply composes_allocates.trans copied
            exact composes_allocates.trans (allocates_addSet u _) (allocates_addCell _ _)
      | map m =>
          have copied := within_copyEntries composes_allocates ih (w.map m).entries (w.map m).cleared w
          rw [deepCopyWithin_map held]
          rcases done : copyEntries (deepCopyWithin bound) (w.map m).entries (w.map m).cleared w
            with ⟨_ | box, u⟩
          · rw [done] at copied
            exact copied
          · rw [done] at copied
            apply composes_allocates.trans copied
            exact composes_allocates.trans (allocates_addMap u _) (allocates_addCell _ _)
      | _ =>
          rw [deepCopyWithin_plain (by rw [held]; rfl)]
          exact allocates_addCell w _

theorem deepCopy_allocates (v : Value) : Within Allocates (deepCopy v : Step E Value) :=
  within_get_bind (fun w => deepCopyWithin_allocates w.walkBound v w)

end ScriptValues
