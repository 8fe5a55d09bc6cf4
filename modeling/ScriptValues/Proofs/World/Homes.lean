import ScriptValues.Proofs.TableHost.Tracking
import ScriptValues.Proofs.World.Run

/-! Aggregates own their spaces.

A space is made together with the aggregate that lives in it. That aggregate is the first value with
the space and is bound there to its own name; later views of it have the same space, and no value gets
the space in another way, unless an aggregate is moved. -/

namespace ScriptValues

/-- No aggregate moves, and in no space the name of the aggregate itself is taken away. -/
def Deed.homely : Deed → Prop
  | .rehome _ => False
  | .rename _ name => name ≠ selfName
  | .fill _ | .view _ => True

/-- Besides, no aggregate gets a second value. -/
def Deed.founding : Deed → Prop
  | .view _ => False
  | deed => deed.homely

theorem Deed.homely_of_founding {deed : Deed} (founding : deed.founding) : deed.homely := by
  cases deed with
  | view v => exact founding.elim
  | _ => exact founding

theorem Backing.family_of_space? {E : Type} {b : Backing E} {space : SpaceId}
    (own : b.space? = some space) : b.family = .aggregate := by
  cases b with
  | aggregate p s => rfl
  | _ => cases own

theorem Backing.space?_of_family {E : Type} {b : Backing E} (family : b.family = .aggregate) :
    ∃ space, b.space? = some space := by
  cases b with
  | aggregate p s => exact ⟨s, rfl⟩
  | _ => cases family

namespace World

variable {E : Type} {P : Deed → Prop} {u w : World E} {v x : Value} {c : Cell E} {space : SpaceId}

theorem present_of_space? (own : (w.backing v).space? = some space) : v.index < w.cells.size := by
  apply present_of_backing
  intro absent
  rw [absent] at own
  cases own

/-- A space that an aggregate may live in: it was handed out, and it is not one of the two that all
values have in common. -/
def Reserved (w : World E) (space : SpaceId) : Prop :=
  w.arena.Allocated space ∧ space ≠ SpaceId.empty ∧ w.arena.selfSpace ≠ some space

/-- The space binds the name of an aggregate to one that lives in it and is no younger than `v`. -/
def OwnedBefore (w : World E) (v : Value) (space : SpaceId) : Prop :=
  ∃ owner, w.arena.lookupLocal space selfName = some owner ∧ owner.index ≤ v.index ∧
    (w.backing owner).space? = some space

/-- Every aggregate lives in a reserved space, which belongs to it or to an older one. -/
structure Homed (w : World E) : Prop where
  scopes : w.arena.Sound
  reserved : ∀ v space, (w.backing v).space? = some space → w.Reserved space
  owned : ∀ v space, (w.backing v).space? = some space → w.arena.contains space = true →
    w.OwnedBefore v space

theorem homed_initial (maxDepth : Nat) (outside : E) :
    (World.initial maxDepth outside).Homed := by
  have homeless : ∀ v, ((World.initial maxDepth outside).backing v).space? = none := by
    intro v
    rw [World.backing, World.cell, World.initial, Heap.read_push, Heap.read_push]
    split
    · rfl
    · split
      · rfl
      · rw [Heap.read_beyond _ (Nat.zero_le _)]
        rfl
  refine ⟨Arena.sound_initial maxDepth, fun v space own => ?_, fun v space own => ?_⟩
  · rw [homeless v] at own
    cases own
  · rw [homeless v] at own
    cases own

theorem Homed.of_same (homed : u.Homed) (arena : w.arena = u.arena)
    (spaces : ∀ v, (w.backing v).space? = (u.backing v).space?) : w.Homed where
  scopes := arena ▸ homed.scopes
  reserved v space own := by
    rw [spaces v] at own
    rw [Reserved, arena]
    exact homed.reserved v space own
  owned v space own live := by
    rw [spaces v] at own
    rw [arena] at live
    obtain ⟨owner, bound, older, its⟩ := homed.owned v space own live
    exact ⟨owner, arena ▸ bound, older, (spaces owner).trans its⟩

theorem space?_writeCell (same : c.backing.space? = (w.backing v).space?) (x : Value) :
    ((w.writeCell v c).backing x).space? = (w.backing x).space? := by
  rw [World.backing, cell_writeCell]
  split
  · rename_i here
    have equal : w.backing x = w.backing v := congrArg (Cell.backing ∘ w.cells.read) here.1.symm
    rw [equal]
    exact same
  · rfl

theorem backing_addCell_old (w : World E) (c : Cell E) (old : v.index < w.cells.size) :
    (w.addCell c).2.backing v = w.backing v := by
  rw [World.backing, cell_addCell, if_neg (Nat.ne_of_lt old)]
  rfl

theorem backing_addCell_new (w : World E) (c : Cell E) :
    (w.addCell c).2.backing ⟨w.cells.size⟩ = c.backing := by
  rw [World.backing, cell_addCell, if_pos rfl]

theorem space?_addCell_cases (own : ((w.addCell c).2.backing v).space? = some space) :
    (v.index < w.cells.size ∧ (w.backing v).space? = some space) ∨
      (v.index = w.cells.size ∧ c.backing.space? = some space) := by
  rw [World.backing, cell_addCell] at own
  split at own
  · rename_i new
    exact .inr ⟨new, own⟩
  · exact .inl ⟨present_of_space? own, own⟩

theorem Homed.addCell (homed : w.Homed)
    (housed : ∀ space, c.backing.space? = some space → w.Reserved space ∧
      (w.arena.contains space = true → (w.addCell c).2.OwnedBefore ⟨w.cells.size⟩ space)) :
    (w.addCell c).2.Homed where
  scopes := homed.scopes
  reserved v space own := by
    rcases space?_addCell_cases own with ⟨_, own⟩ | ⟨_, own⟩
    · exact homed.reserved v space own
    · exact (housed space own).1
  owned v space own live := by
    rcases space?_addCell_cases own with ⟨_, own⟩ | ⟨new, own⟩
    · obtain ⟨owner, bound, older, its⟩ := homed.owned v space own live
      refine ⟨owner, bound, older, ?_⟩
      rw [backing_addCell_old w c (present_of_space? its)]
      exact its
    · obtain ⟨owner, bound, older, its⟩ := (housed space own).2 live
      exact ⟨owner, bound, new ▸ older, its⟩

/-- A view of an aggregate shares its space, and the owner stays who it was. -/
theorem Homed.addView (homed : w.Homed)
    (shared : ∀ space, c.backing.space? = some space → ∃ v, (w.backing v).space? = some space) :
    (w.addCell c).2.Homed := by
  refine homed.addCell fun space own => ?_
  obtain ⟨v, its⟩ := shared space own
  refine ⟨homed.reserved v space its, fun live => ?_⟩
  obtain ⟨owner, bound, older, home⟩ := homed.owned v space its live
  refine ⟨owner, bound, Nat.le_trans older (Nat.le_of_lt (present_of_space? its)), ?_⟩
  rw [backing_addCell_old w c (present_of_space? home)]
  exact home

theorem Homed.moveArena {a : Arena} (homed : w.Homed) (move : w.arena.Move a)
    (named : ∀ id, w.arena.KeepsName a id selfName) : (w.withArena a).Homed where
  scopes := homed.scopes.move move
  reserved v space own := by
    obtain ⟨known, other, apart⟩ := homed.reserved v space own
    refine ⟨Nat.lt_of_lt_of_le known (Arena.grows_of_move move).size, other, fun shared => ?_⟩
    rcases Arena.selfSpace_of_move move shared with before | new
    · exact apart before
    · exact new known
  owned v space own live := by
    obtain ⟨known, _, apart⟩ := homed.reserved v space own
    have before := Arena.live_of_move move known live
    obtain ⟨owner, bound, older, its⟩ := homed.owned v space own before
    exact ⟨owner, named space apart live owner bound, older, its⟩

/-- A new aggregate is bound to its name in its new space before anything else is, so it owns it. -/
theorem Homed.addAggregate (homed : w.Homed) {parent : Option SpaceId} {a : Arena}
    (made : w.arena.newSpace parent = .ok (space, a)) (own : c.backing.space? = some space) :
    ((w.withArena a).addBound c space).2.Homed := by
  obtain ⟨new, shared, s, fresh, vacant⟩ := Arena.space?_of_newSpace made
  have other : space ≠ SpaceId.empty := by
    intro same
    exact Nat.ne_of_lt homed.scopes.allocated_empty ((congrArg SpaceId.index same).symm.trans new)
  have apart : a.selfSpace ≠ some space := by
    intro same
    exact Nat.ne_of_lt (homed.scopes.shared space (shared ▸ same)).1 new
  have opened : (w.withArena a).Homed :=
    homed.moveArena (.newSpace made) fun _ => Arena.keepsName_newSpace made
  have bind : a.Move (a.bind space selfName ⟨w.cells.size⟩).2 := .bind space selfName _
  have bound : ((w.withArena a).withArena (a.bind space selfName ⟨w.cells.size⟩).2).Homed :=
    opened.moveArena bind fun _ => Arena.keepsName_bind a space selfName _
  refine bound.addCell (c := c) fun x its => ?_
  have same : x = space := Option.some.inj (its.symm.trans own)
  subst same
  refine ⟨⟨?_, other, ?_⟩, fun _ => ⟨⟨w.cells.size⟩, ?_, Nat.le_refl _, ?_⟩⟩
  · exact Nat.lt_of_lt_of_le (Arena.allocated_of_space? a fresh) (Arena.grows_of_move bind).size
  · rintro lent
    rcases Arena.selfSpace_of_move bind lent with before | unknown
    · exact apart before
    · exact unknown (Arena.allocated_of_space? a fresh)
  · exact Arena.lookupLocal_bind fresh other (by rw [vacant]; rfl) _
  · exact (congrArg Backing.space? (backing_addCell_new _ c)).trans own

theorem Homed.change (homely : ∀ deed, P deed → deed.homely) (homed : u.Homed)
    (changed : Change P u w) : w.Homed := by
  cases changed with
  | addCell c bare shared =>
      refine homed.addView fun space own => ?_
      obtain ⟨v, _, its⟩ := shared space own
      exact ⟨v, its⟩
  | addAggregate c behind bare made =>
      exact homed.addAggregate made (by rw [behind, Backing.space?])
  | setBacking v b family writable home =>
      have same : b.space? = (u.backing v).space? := home.elim id fun moved => (homely _ moved).elim
      exact homed.of_same rfl (space?_writeCell same)
  | setDirty v => exact homed.of_same rfl (space?_writeCell rfl)
  | setTranslated v space => exact homed.of_same rfl (space?_writeCell rfl)
  | moveArena shift =>
      refine homed.moveArena shift.move fun id => (shift.names id selfName).elim (fun kept => kept) ?_
      intro renamed
      exact absurd rfl (homely _ renamed)
  | _ => exact homed.of_same rfl fun _ => rfl

structure KeepsSpaces (u w : World E) : Prop where
  present : u.cells.size ≤ w.cells.size
  same : ∀ v : Value, v.index < u.cells.size → (w.backing v).space? = (u.backing v).space?

theorem keepsSpaces_refl (w : World E) : w.KeepsSpaces w := ⟨Nat.le_refl _, fun _ _ => rfl⟩

theorem KeepsSpaces.trans {x : World E} (first : u.KeepsSpaces w) (second : w.KeepsSpaces x) :
    u.KeepsSpaces x where
  present := Nat.le_trans first.present second.present
  same v there :=
    (second.same v (Nat.lt_of_lt_of_le there first.present)).trans (first.same v there)

theorem keepsSpaces_addCell (w : World E) (c : Cell E) : w.KeepsSpaces (w.addCell c).2 := by
  refine ⟨?_, fun v there => congrArg Backing.space? (backing_addCell_old w c there)⟩
  change w.cells.size ≤ (w.cells.push c).size
  rw [Heap.size_push]
  exact Nat.le_succ _

theorem keepsSpaces_writeCell (same : c.backing.space? = (w.backing v).space?) :
    w.KeepsSpaces (w.writeCell v c) :=
  ⟨Nat.le_of_eq (Heap.size_write w.cells v.index c).symm, fun x _ => space?_writeCell same x⟩

theorem KeepsSpaces.of_change (homely : ∀ deed, P deed → deed.homely) (changed : Change P u w) :
    u.KeepsSpaces w := by
  cases changed with
  | addCell c => exact keepsSpaces_addCell u c
  | addAggregate c => exact ⟨(keepsSpaces_addCell u c).present, (keepsSpaces_addCell u c).same⟩
  | setBacking v b family writable home =>
      exact keepsSpaces_writeCell (home.elim id fun moved => (homely _ moved).elim)
  | setDirty v => exact keepsSpaces_writeCell rfl
  | setTranslated v space => exact keepsSpaces_writeCell rfl
  | _ => exact ⟨Nat.le_refl _, fun _ _ => rfl⟩

/-- The aggregate is the first value with its space. -/
def Founds (w : World E) (v : Value) : Prop :=
  ∃ space, (w.backing v).space? = some space ∧
    ∀ x, (w.backing x).space? = some space → v.index ≤ x.index

theorem Founds.keep (founds : u.Founds v) (kept : u.KeepsSpaces w) : w.Founds v := by
  obtain ⟨space, own, first⟩ := founds
  have there := present_of_space? own
  refine ⟨space, (kept.same v there).trans own, fun x its => ?_⟩
  by_cases old : x.index < u.cells.size
  · exact first x ((kept.same x old).symm.trans its)
  · exact Nat.le_trans (Nat.le_of_lt there) (Nat.le_of_not_lt old)

theorem Founds.bound (founds : w.Founds v) (homed : w.Homed) (own : (w.backing v).space? = some space)
    (live : w.arena.contains space = true) : w.arena.lookupLocal space selfName = some v := by
  obtain ⟨s, its, first⟩ := founds
  have same : s = space := Option.some.inj (its.symm.trans own)
  subst same
  obtain ⟨owner, bound, older, home⟩ := homed.owned v s own live
  have equal : owner.index = v.index := Nat.le_antisymm older (first owner home)
  cases owner
  cases v
  exact bound.trans (congrArg (some ∘ Value.mk) equal)

theorem Founds.unique (founds : w.Founds v) (founds' : w.Founds x)
    (own : (w.backing v).space? = some space) (own' : (w.backing x).space? = some space) : v = x := by
  obtain ⟨s, its, first⟩ := founds
  obtain ⟨t, its', first'⟩ := founds'
  have same : s = space := Option.some.inj (its.symm.trans own)
  have same' : t = space := Option.some.inj (its'.symm.trans own')
  subst same same'
  have equal : v.index = x.index := Nat.le_antisymm (first x own') (first' v own)
  cases v
  cases x
  exact congrArg Value.mk equal

def FoundsNew (u w : World E) : Prop :=
  ∀ v : Value, u.cells.size ≤ v.index → w.family v = .aggregate → w.Founds v

theorem FoundsNew.trans {x : World E} (first : u.FoundsNew w) (second : w.FoundsNew x)
    (kept : w.KeepsSpaces x) : u.FoundsNew x := by
  intro v new family
  by_cases old : v.index < w.cells.size
  · obtain ⟨space, own⟩ := Backing.space?_of_family family
    have before : (w.backing v).space? = some space := (kept.same v old).symm.trans own
    exact (first v new (Backing.family_of_space? before)).keep kept
  · exact second v (Nat.le_of_not_lt old) family

theorem foundsNew_addCell
    (apart : ∀ space, c.backing.space? = some space → ∀ v, (w.backing v).space? ≠ some space) :
    w.FoundsNew (w.addCell c).2 := by
  intro v new family
  obtain ⟨space, own⟩ := Backing.space?_of_family family
  refine ⟨space, own, fun x its => ?_⟩
  rcases space?_addCell_cases own with ⟨old, _⟩ | ⟨same, mine⟩
  · exact absurd old (Nat.not_lt_of_le new)
  · rcases space?_addCell_cases its with ⟨_, older⟩ | ⟨same', _⟩
    · exact absurd older (apart space mine x)
    · exact Nat.le_of_eq (same.trans same'.symm)

theorem foundsNew_of_size (same : w.cells.size = u.cells.size) : u.FoundsNew w := by
  intro v new family
  obtain ⟨space, own⟩ := Backing.space?_of_family family
  exact absurd (same ▸ present_of_space? own) (Nat.not_lt_of_le new)

theorem FoundsNew.of_change (homed : u.Homed) (changed : Change Deed.founding u w) :
    u.FoundsNew w := by
  cases changed with
  | addCell c bare shared =>
      refine foundsNew_addCell fun space own => ?_
      obtain ⟨_, viewed, _⟩ := shared space own
      exact viewed.elim
  | addAggregate c behind bare made =>
      have new : ∀ space, c.backing.space? = some space → ∀ v, (u.backing v).space? ≠ some space := by
        intro space own v its
        have known := (homed.reserved v space its).1
        rw [behind] at own
        cases own
        exact Nat.ne_of_lt known (Arena.space?_of_newSpace made).1
      exact foundsNew_addCell (w := u) new
  | setBacking v b => exact foundsNew_of_size (Heap.size_write _ _ _)
  | setDirty v => exact foundsNew_of_size (Heap.size_write _ _ _)
  | setTranslated v space => exact foundsNew_of_size (Heap.size_write _ _ _)
  | _ => exact foundsNew_of_size rfl

theorem tracks_homed :
    Tracks Deed.homely (fun u w : World E => u.Homed → w.Homed ∧ u.KeepsSpaces w) where
  refl w homed := ⟨homed, keepsSpaces_refl w⟩
  trans first second homed :=
    have settled := (first homed).1
    ⟨(second settled).1, (first homed).2.trans (second settled).2⟩
  change changed homed :=
    ⟨homed.change (fun _ allowed => allowed) changed, .of_change (fun _ allowed => allowed) changed⟩

theorem tracks_founding :
    Tracks Deed.founding
      (fun u w : World E => u.Homed → w.Homed ∧ u.KeepsSpaces w ∧ u.FoundsNew w) where
  refl w homed := ⟨homed, keepsSpaces_refl w, foundsNew_of_size rfl⟩
  trans first second homed :=
    have ⟨settled, kept, founds⟩ := first homed
    have ⟨settled', kept', founds'⟩ := second settled
    ⟨settled', kept.trans kept', founds.trans founds' kept'⟩
  change changed homed :=
    ⟨homed.change (fun _ => Deed.homely_of_founding) changed,
      .of_change (fun _ => Deed.homely_of_founding) changed, .of_change homed changed⟩

end World

end ScriptValues
