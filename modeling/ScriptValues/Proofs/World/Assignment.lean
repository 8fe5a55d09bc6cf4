import ScriptValues.Proofs.Equality.Contents
import ScriptValues.Proofs.Failure.Write
import ScriptValues.Proofs.World.Sharing
import ScriptValues.TableHost.Embedding

/-! Assignments.

After an assignment the target has what is behind the source, and is dirty. An aggregate lives in
the space of the source then, which calls the target itself. Apart from that nothing is touched. -/

namespace ScriptValues

open Step World

variable {E : Type}

def Family.ordinary : Family → Bool
  | absent | property | aggregateProperty | field => false
  | _ => true

namespace Table

variable {α : Type}

theorem insert_erase (t : Table α) (name : String) (a : α) :
    (t.erase name).insert name a = t.insert name a := by
  simp only [insert, erase, List.filter_filter, Bool.and_self]

theorem insert_insert (t : Table α) (name : String) (a b : α) :
    (t.insert name a).insert name b = t.insert name b := by
  simp only [insert, erase, List.filter_cons, bne_self_eq_false, Bool.false_eq_true, if_false,
    List.filter_filter, Bool.and_self]

end Table

namespace Arena

variable {a : Arena} {id : SpaceId} {s : Space}

theorem writable?_of_live (live : a.space? id = some s) (other : id ≠ SpaceId.empty) :
    a.writable? id = some s := by
  rw [writable?, if_neg other]
  exact live

theorem rebind_of_live (live : a.space? id = some s) (other : id ≠ SpaceId.empty) (name : String)
    (v : Value) :
    a.rebind id name v =
      (true, a.writeSlot id (some { s with bindings := s.bindings.insert name v })) := by
  rw [rebind, writable?_of_live live other]

theorem writeSlot_writeSlot (a : Arena) (id : SpaceId) (first second : Option Space) :
    (a.writeSlot id first).writeSlot id second = a.writeSlot id second := by
  simp only [writeSlot, Heap.write_write]

theorem bind_unbind (live : a.space? id = some s) (other : id ≠ SpaceId.empty) (name : String)
    (v : Value) : (a.unbind id name).2.bind id name v = a.rebind id name v := by
  have erased : (a.unbind id name).2.space? id =
      some { s with bindings := s.bindings.erase name } := by
    rw [unbind, live]
    exact (space?_writeSlot_live a live id _).trans (if_pos rfl)
  have free : (s.bindings.erase name).contains name = false := by
    rw [Table.contains, Table.get?_erase_self]
    rfl
  rw [bind, writable?_of_live erased other, rebind_of_live live other]
  simp only [free, unbind, live, writeSlot_writeSlot, Table.insert_erase]
  rfl

theorem space?_rebind (live : a.space? id = some s) (other : id ≠ SpaceId.empty) (name : String)
    (v : Value) :
    (a.rebind id name v).2.space? id = some { s with bindings := s.bindings.insert name v } := by
  rw [rebind_of_live live other]
  exact (space?_writeSlot_live a live id _).trans (if_pos rfl)

theorem rebind_rebind (live : a.space? id = some s) (other : id ≠ SpaceId.empty) (name : String)
    (v : Value) : ((a.rebind id name v).2.rebind id name v).2 = (a.rebind id name v).2 := by
  rw [rebind_of_live (space?_rebind live other name v) other, rebind_of_live live other]
  simp only [writeSlot_writeSlot, Table.insert_insert]

end Arena

namespace World

variable {w x : World E} {v u z : Value}

/-! Payloads of which a value is no part -/

/-- All that is read through values other than `v` is the same in `x` as in `w`. -/
structure AgreesBut (w x : World E) (v : Value) : Prop where
  cell : ∀ z, z ≠ v → x.cell z = w.cell z
  size : x.cells.size = w.cells.size
  lists : x.lists = w.lists
  sets : x.sets = w.sets
  maps : x.maps = w.maps
  outside : x.outside = w.outside

namespace AgreesBut

theorem backing (agrees : w.AgreesBut x v) (other : z ≠ v) : x.backing z = w.backing z :=
  congrArg Cell.backing (agrees.cell z other)

theorem contents (agrees : w.AgreesBut x v) {y : Value} (same : x.backing y = w.backing z) :
    x.contents y = w.contents z := by
  simp only [World.contents, same, World.list, World.set, World.map, agrees.lists, agrees.sets,
    agrees.maps]

theorem readsAlike (agrees : w.AgreesBut x v) (apart : ¬ w.Spans z v) : w.ReadsAlike x z where
  backing y path := agrees.backing fun here => apart (here ▸ path)
  boxes y c _ _ := by
    cases c with
    | list l => exact congrArg (Heap.read · l.index) agrees.lists
    | set s => exact congrArg (Heap.read · s.index) agrees.sets
    | map m => exact congrArg (Heap.read · m.index) agrees.maps
  outside := agrees.outside

theorem payload (agrees : w.AgreesBut x v) (apart : ¬ w.Spans z v) : x.payload z = w.payload z :=
  (agrees.readsAlike apart).payload agrees.size

theorem way (agrees : w.AgreesBut x v) (other : z ≠ v) (path : w.Spans z v) :
    Relation.TransGen x.Contains z v := by
  induction path using Relation.ReflTransGen.head_induction_on with
  | refl => exact absurd rfl other
  | @head z y step _ ih =>
      have still : x.Contains z y := by
        rw [Contains, agrees.contents (agrees.backing other)]
        exact step
      by_cases arrived : y = v
      · exact .single (arrived ▸ still)
      · exact .head still (ih arrived)

end AgreesBut

/-! The target of an assignment -/

def adopt (w : World E) (v u : Value) : Arena :=
  match w.backing u with
  | .aggregate _ space => (w.arena.rebind space selfName v).2
  | _ => w.arena

def takeOver (w : World E) (v u : Value) : World E :=
  ((w.setBacking v (w.backing u)).setDirty v).withArena (w.adopt v u)

/-- An aggregate can only be taken over while its space is there and accepts names. -/
def Adoptable (w : World E) (u : Value) : Prop :=
  ∀ p space, w.backing u = .aggregate p space →
    space ≠ SpaceId.empty ∧ ∃ s, w.arena.space? space = some s

theorem cell_setBacking (there : v.index < w.cells.size) (b : Backing E) :
    (w.setBacking v b).cell v = { w.cell v with backing := b } :=
  Heap.read_write_self w.cells _ there

theorem setBacking_setBacking (there : v.index < w.cells.size) (b c : Backing E) :
    (w.setBacking v b).setBacking v c = w.setBacking v c := by
  rw [setBacking, cell_setBacking there]
  simp only [setBacking, writeCell, Heap.write_write]

theorem setBacking_setDirty_eq (there : v.index < w.cells.size) (b : Backing E) :
    (w.setBacking v b).setDirty v =
      w.writeCell v { w.cell v with backing := b, dirty := true } := by
  rw [setDirty, cell_setBacking there]
  simp only [setBacking, writeCell, Heap.write_write]

theorem accept_payload (family : w.family v = w.family u)
    (kind : w.family u = .basic ∨ w.family u = .enum ∨ w.family u = .prototype) :
    w.accept v (w.payload u) = (.ok true, w.setBacking v (w.backing u)) := by
  rw [World.family, World.family] at family
  rw [World.family] at kind
  rw [World.payload, walkBound, World.payloadWithin]
  unfold accept
  generalize w.backing v = b at family ⊢
  generalize w.backing u = c at family kind ⊢
  cases c with
  | basic | prototype => cases b <;> first | rfl | cases family
  | enum variant => cases variant <;> cases b <;> first | rfl | cases family
  | _ => rcases kind with kind | kind | kind <;> cases kind

/-- Whatever the family, an assignment ends in the same way. -/
theorem assign_ordinary (types : (w.ty v).same (w.ty u) = true)
    (mutable : (w.cell v).mutable = true) (other : v ≠ u) (family : w.family v = w.family u)
    (ordinary : (w.family u).ordinary = true) (adoptable : w.Adoptable u) :
    assign v u w = (.ok true, w.takeOver v u) := by
  have there := present_of_mutable mutable
  have written (kind : w.family u = .basic ∨ w.family u = .enum ∨ w.family u = .prototype) :=
    write_accepted mutable (accept_payload family kind)
  simp only [World.family] at family ordinary written
  rw [takeOver, adopt, assign, bind_apply, get_apply]
  simp only [types, if_true, other, if_false, mutable]
  generalize held : w.backing v = b at family ⊢
  generalize given : w.backing u = c at family ordinary written ⊢
  cases c with
  | absent | property | aggregateProperty | field => cases ordinary
  | aggregate p space =>
      obtain ⟨filled, s, live⟩ := adoptable p space given
      have contained : w.arena.contains space = true := (Arena.contains_iff _ space).mpr ⟨s, live⟩
      cases b with
      | aggregate q home =>
          simp only [bind_apply, rehome_aggregate held, contained, if_true,
            Arena.bind_unbind live filled, modify_apply]
          have once := setBacking_setBacking there (.aggregate q space) (.aggregate p space)
          exact congrArg (fun x => (Except.ok true, (setDirty x v).withArena _)) once
      | _ => cases family
  | list | set | map | function =>
      have shared (answer : Except Fault Bool) :=
        congrArg (fun c => (answer, (w.setBacking v c).setDirty v)) given
      cases b <;> first | exact shared _ | cases family
  | basic => cases b <;> exact written (.inl rfl)
  | enum => cases b <;> exact written (.inr (.inl rfl))
  | prototype => cases b <;> exact written (.inr (.inr rfl))

theorem cell_takeOver (there : v.index < w.cells.size) :
    (w.takeOver v u).cell v = { w.cell v with backing := w.backing u, dirty := true } := by
  change ((w.setBacking v (w.backing u)).setDirty v).cell v = _
  rw [setBacking_setDirty_eq there]
  exact Heap.read_write_self w.cells _ there

theorem agreesBut_takeOver (there : v.index < w.cells.size) (u : Value) :
    w.AgreesBut (w.takeOver v u) v where
  cell := (setBacking_setDirty there (w.backing u)).2.1
  size := (Heap.size_write _ _ _).trans (Heap.size_write _ _ _)
  lists := rfl
  sets := rfl
  maps := rfl
  outside := rfl

theorem adopt_aggregate {p : Payload} {space : SpaceId} (given : w.backing u = .aggregate p space)
    (v : Value) : w.adopt v u = (w.arena.rebind space selfName v).2 := by
  simp only [adopt, given]

theorem adopt_cases (w : World E) (v u : Value) :
    (∃ p space, w.backing u = .aggregate p space) ∨ w.adopt v u = w.arena := by
  rw [adopt]
  cases w.backing u with
  | aggregate p space => exact .inl ⟨p, space, rfl⟩
  | _ => exact .inr rfl

theorem takeOver_takeOver (there : v.index < w.cells.size) (other : v ≠ u)
    (adoptable : w.Adoptable u) : (w.takeOver v u).takeOver v u = w.takeOver v u := by
  have agrees := agreesBut_takeOver there u
  have given : (w.takeOver v u).backing u = w.backing u := agrees.backing other.symm
  have arena : (w.takeOver v u).adopt v u = (w.takeOver v u).arena := by
    rcases adopt_cases (w.takeOver v u) v u with ⟨p, space, held⟩ | same
    · obtain ⟨filled, s, live⟩ := adoptable p space (given ▸ held)
      have moved : (w.takeOver v u).arena = (w.arena.rebind space selfName v).2 :=
        adopt_aggregate (given ▸ held) v
      rw [adopt_aggregate held, moved]
      exact Arena.rebind_rebind live filled selfName v
    · exact same
  have still : v.index < (w.takeOver v u).cells.size := there.trans_eq agrees.size.symm
  have cell : { (w.takeOver v u).cell v with backing := w.backing u, dirty := true } =
      (w.takeOver v u).cell v := by
    rw [cell_takeOver there]
  rw [takeOver, arena, given, setBacking_setDirty_eq still, cell, writeCell, World.cell,
    Heap.write_read]
  rfl

theorem space?_takeOver {p : Payload} {space : SpaceId} (adoptable : w.Adoptable u)
    (held : w.backing u = .aggregate p space) (v : Value) :
    ∃ s, w.arena.space? space = some s ∧ (w.takeOver v u).arena.space? space =
      some { s with bindings := s.bindings.insert selfName v } := by
  obtain ⟨filled, s, live⟩ := adoptable p space held
  have moved : (w.takeOver v u).arena = (w.arena.rebind space selfName v).2 :=
    adopt_aggregate held v
  rw [moved]
  exact ⟨s, live, Arena.space?_rebind live filled selfName v⟩

theorem space?_takeOver_other (v : Value) {id : SpaceId}
    (apart : ∀ p, w.backing u ≠ .aggregate p id) :
    (w.takeOver v u).arena.space? id = w.arena.space? id := by
  change (w.adopt v u).space? id = _
  rcases adopt_cases w v u with ⟨p, space, held⟩ | same
  · have elsewhere : id ≠ space := fun same => apart p (same ▸ held)
    rw [adopt_aggregate held]
    exact (Arena.Rebinds.rebind selfName v).other elsewhere
  · rw [same]

theorem fixed_takeOver (v : Value) (adoptable : w.Adoptable u) :
    (w.takeOver v u).arena.slots.size = w.arena.slots.size ∧
      (w.takeOver v u).arena.selfSpace = w.arena.selfSpace ∧
      (w.takeOver v u).arena.maxDepth = w.arena.maxDepth := by
  change (w.adopt v u).slots.size = _ ∧ (w.adopt v u).selfSpace = _ ∧ (w.adopt v u).maxDepth = _
  rcases adopt_cases w v u with ⟨p, space, held⟩ | same
  · obtain ⟨filled, s, live⟩ := adoptable p space held
    rw [adopt_aggregate held, Arena.rebind_of_live live filled]
    exact ⟨Arena.writeSlot_size _ _ _, rfl, rfl⟩
  · rw [same]
    exact ⟨rfl, rfl, rfl⟩

section Assigned

variable (types : (w.ty v).same (w.ty u) = true) (mutable : (w.cell v).mutable = true)
  (other : v ≠ u) (ordinary : (w.family u).ordinary = true) (adoptable : w.Adoptable u)

theorem backing_takeOver (there : v.index < w.cells.size) (other : v ≠ u) :
    (w.takeOver v u).backing u = w.backing u ∧
      (w.takeOver v u).backing v = (w.takeOver v u).backing u := by
  have given : (w.takeOver v u).backing u = w.backing u :=
    (agreesBut_takeOver there u).backing other.symm
  refine ⟨given, ?_⟩
  rw [given, World.backing, cell_takeOver there]

include types mutable other ordinary adoptable in
theorem assign_takeOver : assign v u (w.takeOver v u) = (.ok true, w.takeOver v u) := by
  have there := present_of_mutable mutable
  have agrees := agreesBut_takeOver there u
  obtain ⟨given, taken⟩ := backing_takeOver there other
  rw [assign_ordinary ?_ ?_ other ?_ ?_ ?_, takeOver_takeOver there other adoptable]
  · rw [World.ty, World.ty, cell_takeOver there, agrees.cell u other.symm]
    exact types
  · rw [cell_takeOver there]
    exact mutable
  · rw [World.family, World.family, taken]
  · rw [World.family, given]
    exact ordinary
  · intro p space held
    rw [given] at held
    obtain ⟨s, _, now⟩ := space?_takeOver adoptable held v
    exact ⟨(adoptable p space held).1, _, now⟩

/-- A value that contains itself has no payload. Unless the assignment makes the target one, the
payload of the source is what it was. -/
theorem payload_source (there : v.index < w.cells.size) (other : v ≠ u)
    (apart : ¬ Relation.TransGen (w.takeOver v u).Contains v v) :
    (w.takeOver v u).payload u = w.payload u := by
  have agrees := agreesBut_takeOver there u
  refine agrees.payload fun path => apart ?_
  -- The target contains what the source contains, so a way from the source to it is a way from it.
  obtain ⟨y, step, rest⟩ := Relation.TransGen.head'_iff.mp (agrees.way other.symm path)
  have same : (w.takeOver v u).contents v = (w.takeOver v u).contents u := by
    simp only [World.contents, (backing_takeOver there other).2]
  exact Relation.TransGen.head' (show y ∈ _ from same ▸ step) rest

end Assigned

structure TakesOver (w x : World E) (v u : Value) : Prop where
  cell : x.cell v = { w.cell v with backing := w.backing u, dirty := true }
  agrees : w.AgreesBut x v
  rest : x.templates = w.templates ∧ x.nextIdentity = w.nextIdentity
  arena : x.arena.slots.size = w.arena.slots.size ∧ x.arena.selfSpace = w.arena.selfSpace ∧
    x.arena.maxDepth = w.arena.maxDepth
  spaces : ∀ id, (∀ p, w.backing u ≠ .aggregate p id) → x.arena.space? id = w.arena.space? id
  adopted : ∀ p space, w.backing u = .aggregate p space → ∃ s,
    w.arena.space? space = some s ∧
      x.arena.space? space = some { s with bindings := s.bindings.insert selfName v }
  payload : x.payload v = x.payload u
  source : ¬ Relation.TransGen x.Contains v v → x.payload u = w.payload u
  again : assign v u x = (.ok true, x)

/-- An assignment between different values of one type and one family succeeds if the target is
mutable and, for aggregates, the space of the source is there and not the empty one. The target is
dirty then and has what is behind the source: its payload, its space, which calls the target itself,
its container or its callable. All else is as it was: the source, all other values and containers,
and every other space and name; the payload of the source stays too, unless it contained the target.
To repeat the assignment changes nothing. Values of different types are never assigned, whether the
target is mutable or not. -/
theorem assignment_takesOver :
    ((w.ty v).same (w.ty u) = true → (w.cell v).mutable = true → v ≠ u →
      w.family v = w.family u → (w.family u).ordinary = true → w.Adoptable u →
      ∃ x, assign v u w = (.ok true, x) ∧ w.TakesOver x v u) ∧
    ((w.ty v).same (w.ty u) = false →
      assign v u w = (.error (.incompatibleType (w.ty v).name (w.ty u).name), w)) := by
  refine ⟨fun types mutable other family ordinary adoptable => ?_, fun types => ?_⟩
  · have there := present_of_mutable mutable
    exact ⟨w.takeOver v u, assign_ordinary types mutable other family ordinary adoptable,
      { cell := cell_takeOver there
        agrees := agreesBut_takeOver there u
        rest := ⟨rfl, rfl⟩
        arena := fixed_takeOver v adoptable
        spaces := fun _ => space?_takeOver_other v
        adopted := fun _ _ held => space?_takeOver adoptable held v
        payload := payload_congr (backing_takeOver there other).2
        source := payload_source there other
        again := assign_takeOver types mutable other ordinary adoptable }⟩
  · rw [assign, bind_apply, get_apply]
    simp only [types]
    rfl

def nestedPoints : World Outside :=
  (World.initial 4 (Outside.initial "host" Table.empty)).after TableHost.embedding
    [.newSpace none, .newAggregate (.aggregate "Point" [] false) ⟨1⟩ .null,
      .newAggregate (.aggregate "Point" [] false) ⟨1⟩ (.int 3), .bind ⟨3⟩ "inner" ⟨2⟩]

/-- The first takes over the space of the second, with itself as a member, and leaves its own. -/
theorem assignment_takesOver_nestedPoints :
    ∃ x, assign ⟨2⟩ ⟨3⟩ nestedPoints = (.ok true, x) ∧
      x.backing ⟨2⟩ = .aggregate (.int 3) ⟨3⟩ ∧ x.payload ⟨3⟩ = .int 3 ∧
      x.arena.lookupLocal ⟨3⟩ selfName = some ⟨2⟩ ∧
      x.arena.lookupLocal ⟨3⟩ "inner" = some ⟨2⟩ ∧
      x.arena.space? ⟨2⟩ = nestedPoints.arena.space? ⟨2⟩ ∧
      assign ⟨2⟩ ⟨3⟩ x = (.ok true, x) := by
  have adoptable : nestedPoints.Adoptable ⟨3⟩ := by
    intro p space held
    cases held
    exact ⟨by decide, _, rfl⟩
  have assigned := assignment_takesOver (w := nestedPoints) (v := ⟨2⟩) (u := ⟨3⟩)
  obtain ⟨x, done, taken⟩ := assigned.1 rfl rfl (by decide) rfl rfl adoptable
  have plain : ¬ Relation.TransGen x.Contains ⟨2⟩ ⟨2⟩ := by
    intro round
    obtain ⟨y, step, _⟩ := Relation.TransGen.head'_iff.mp round
    rw [Contains, World.contents, World.backing, taken.cell] at step
    cases step
  have payload : x.payload ⟨3⟩ = .int 3 := taken.source plain
  obtain ⟨s, before, after⟩ := taken.adopted (.int 3) ⟨3⟩ rfl
  cases before
  refine ⟨x, done, congrArg Cell.backing taken.cell, payload, ?_, ?_, ?_, taken.again⟩
  · rw [Arena.lookupLocal, after]
    rfl
  · rw [Arena.lookupLocal, after]
    rfl
  · exact taken.spaces ⟨2⟩ fun p held => by cases held

end World

end ScriptValues
