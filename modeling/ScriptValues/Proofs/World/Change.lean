import ScriptValues.Proofs.Collection.Log
import ScriptValues.Proofs.Scope.Naming
import ScriptValues.Proofs.Scope.Shared
import ScriptValues.Proofs.Ty.Equivalence
import ScriptValues.World.Step

/-! The changes of a world, and how a relation follows a step through them.

Each operation is a sequence of changes. A relation between worlds that is reflexive and transitive
and holds across one change therefore holds across every operation, so a property of runs is proved
once for each kind of change and never again for an operation. Some relations hold only while certain
deeds are left undone, such as writing to one container; they follow the operations that do without. -/

namespace ScriptValues

variable {E α β : Type}

/-- What a change does that a relation may rule out: it writes to a container, makes a second value
for an aggregate, gives an aggregate another space, or takes away what a name stands for in a
space. -/
inductive Deed where
  | fill (c : Container)
  | view (v : Value)
  | rehome (v : Value)
  | rename (space : SpaceId) (name : String)

def Deed.any (_ : Deed) : Prop := True

namespace Backing

def ofContainer : Container → Backing E
  | .list l => .list l
  | .set s => .set s
  | .map m => .map m

theorem eq_of_container? {b : Backing E} {c : Container} (behind : b.container? = some c) :
    b = ofContainer c := by
  cases b <;> cases behind <;> rfl

def space? : Backing E → Option SpaceId
  | .aggregate _ space => some space
  | _ => none

end Backing

namespace World

/-- An aggregate is mutable, and the container of a collection is there and has the key and element
types that the type of the collection declares. -/
def Fits (w : World E) (c : Cell E) : Prop :=
  match c.backing with
  | .aggregate _ _ => c.mutable = true
  | .list l =>
      l.index < w.lists.size ∧ (w.list l).element.same (c.ty.element?.getD .noType) = true
  | .set s =>
      s.index < w.sets.size ∧ (w.set s).element.same (c.ty.element?.getD .noType) = true
  | .map m =>
      m.index < w.maps.size ∧ (w.map m).key.same (c.ty.key?.getD .noType) = true ∧
        (w.map m).element.same (c.ty.element?.getD .noType) = true
  | _ => True

def Fitting (w : World E) : Prop := ∀ v, w.Fits (w.cell v)

def addBound (w : World E) (c : Cell E) (space : SpaceId) : Value × World E :=
  let (v, w) := w.addCell c
  (v, w.withArena (w.arena.bind space selfName v).2)

theorem cell_addCell (w : World E) (c : Cell E) (v : Value) :
    (w.addCell c).2.cell v = if v.index = w.cells.size then c else w.cell v :=
  Heap.read_push w.cells c v.index

theorem cell_writeCell (w : World E) (v : Value) (c : Cell E) (x : Value) :
    (w.writeCell v c).cell x = if v.index = x.index ∧ x.index < w.cells.size then c else w.cell x :=
  Heap.read_write w.cells c v.index x.index

/-- One change of a world, which does no deeds outside `P`. New cells start without a translation, and
an aggregate among them either gets a new space or shares that of an older one. A value keeps its
family, only mutable values and aggregates get another backing, containers keep their types, and sets
and maps stay sound. Where all values fit, new cells and new backings fit as well. -/
inductive Change (P : Deed → Prop) (w : World E) : World E → Prop
  | addCell (c : Cell E) (bare : c.translated = none)
      (shared : ∀ space, c.backing.space? = some space →
        ∃ v, P (.view v) ∧ (w.backing v).space? = some space := by nofun)
      (fits : w.Fitting → w.Fits c := by exact fun _ => trivial) : Change P w (w.addCell c).2
  | addAggregate (c : Cell E) {p : Payload} {space : SpaceId} (behind : c.backing = .aggregate p space)
      (bare : c.translated = none) {parent : Option SpaceId} {a : Arena}
      (made : w.arena.newSpace parent = .ok (space, a)) (fits : w.Fitting → c.mutable = true) :
      Change P w ((w.withArena a).addBound c space).2
  | setBacking (v : Value) (b : Backing E) (family : b.family = w.family v)
      (writable : (w.cell v).mutable = true ∨ w.family v = .aggregate)
      (home : b.space? = (w.backing v).space? ∨ P (.rehome v))
      (fits : w.Fitting → w.Fits { w.cell v with backing := b }) : Change P w (w.setBacking v b)
  | setDirty (v : Value) : Change P w (w.setDirty v)
  | setTranslated (v : Value) (space : Option SpaceId) : Change P w (w.setTranslated v space)
  | addList (b : ListBox) : Change P w (w.addList b).2
  | writeList (l : ListId) (b : ListBox) (permitted : P (.fill (.list l)))
      (element : b.element = (w.list l).element) : Change P w (w.writeList l b)
  | addSet (b : SetBox) (sound : b.Sound) : Change P w (w.addSet b).2
  | writeSet (s : SetId) (b : SetBox) (permitted : P (.fill (.set s)))
      (element : b.element = (w.set s).element) (sound : (w.set s).Sound → b.Sound) :
      Change P w (w.writeSet s b)
  | addMap (b : MapBox) (sound : b.Sound) : Change P w (w.addMap b).2
  | writeMap (m : MapId) (b : MapBox) (permitted : P (.fill (.map m))) (key : b.key = (w.map m).key)
      (element : b.element = (w.map m).element) (sound : (w.map m).Sound → b.Sound) :
      Change P w (w.writeMap m b)
  | addTemplate : Change P w w.addTemplate.2
  | writeTemplate (t : TemplateId) (defaults : Table Value) :
      Change P w (w.writeTemplate t defaults)
  | moveArena {a : Arena} (shift : w.arena.Shift (fun id name => P (.rename id name)) a) :
      Change P w (w.withArena a)
  | freshIdentity : Change P w w.freshIdentity.2
  | setOutside (o : E) : Change P w { w with outside := o }

theorem Change.addPlain {P : Deed → Prop} {w : World E} (c : Cell E) (bare : c.translated = none)
    (homeless : c.backing.space? = none) (fits : w.Fitting → w.Fits c) :
    Change P w (w.addCell c).2 := by
  refine .addCell c bare (fun space own => ?_) fits
  rw [homeless] at own
  cases own

end World

/-- A relation that holds from the start to the end of a sequence if it does for each part. -/
structure Composes (R : World E → World E → Prop) : Prop where
  refl : ∀ w, R w w
  trans : ∀ {u v w}, R u v → R v w → R u w

theorem Composes.foldl {R : World E → World E → Prop} (composes : Composes R)
    {f : World E → α → World E} (each : ∀ w a, R w (f w a)) (items : List α) (w : World E) :
    R w (items.foldl f w) := by
  induction items generalizing w with
  | nil => exact composes.refl w
  | cons a rest ih => exact composes.trans (each w a) (ih (f w a))

/-- A relation that follows every sequence of changes that do no deeds outside `P`. -/
structure Tracks (P : Deed → Prop) (R : World E → World E → Prop) : Prop
    extends Composes R where
  change : ∀ {v w}, World.Change P v w → R v w

/-- A relation that follows every sequence of changes that do no deeds outside `P` and leave the
shared space where it is. -/
structure Follows (P : Deed → Prop) (R : World E → World E → Prop) : Prop
    extends Composes R where
  change : ∀ {v w}, World.Change P v w → v.arena.KeepsShared w.arena → R v w

instance {P : Deed → Prop} {R : World E → World E → Prop} :
    CoeOut (Tracks P R) (Composes R) := ⟨Tracks.toComposes⟩

instance {P : Deed → Prop} {R : World E → World E → Prop} :
    CoeOut (Follows P R) (Composes R) := ⟨Follows.toComposes⟩

theorem Tracks.follows {P : Deed → Prop} {R : World E → World E → Prop} (tracks : Tracks P R) :
    Follows P R where
  refl := tracks.refl
  trans := tracks.trans
  change changed _ := tracks.change changed

/-- `w` comes out of `u` by changes that do no deeds outside `P`. -/
def World.Through (P : Deed → Prop) : World E → World E → Prop :=
  Relation.ReflTransGen (World.Change P)

theorem World.tracks_through (P : Deed → Prop) : Tracks P (World.Through (E := E) P) where
  refl _ := Relation.ReflTransGen.refl
  trans first second := Relation.ReflTransGen.trans first second
  change changed := Relation.ReflTransGen.single changed

theorem World.Through.follow {P : Deed → Prop} {R : World E → World E → Prop} {u w : World E}
    (through : World.Through P u w) (tracks : Tracks P R) : R u w := by
  induction through with
  | refl => exact tracks.refl u
  | tail _ changed ih => exact tracks.trans ih (tracks.change changed)

namespace Step

variable {P : Deed → Prop} {R : World E → World E → Prop}

/-- Whatever its outcome, the step leads from each world to one in the relation. -/
def Within (R : World E → World E → Prop) (step : Step E α) : Prop := ∀ w, R w (step w).2

theorem within_pure (composes : Composes R) (a : α) : Within R (pure a : Step E α) :=
  fun w => composes.refl w

theorem within_throw (composes : Composes R) (fault : Fault) : Within R (throw fault : Step E α) :=
  fun w => composes.refl w

theorem within_look (composes : Composes R) (f : World E → α) : Within R (look f) :=
  fun w => composes.refl w

theorem ok_of_bind {first : Step E α} {next : α → Step E β} {u w : World E} {b : β}
    (done : (first >>= next) u = (.ok b, w)) :
    ∃ a v, first u = (.ok a, v) ∧ next a v = (.ok b, w) := by
  rw [bind_apply] at done
  rcases start : first u with ⟨fault | a, v⟩
  · rw [start] at done
    cases done
  · rw [start] at done
    exact ⟨a, v, rfl, done⟩

/-- A sequence from one world, where the second part may rely on how the first one ended. -/
theorem bind_within (composes : Composes R) {first : Step E α} {next : α → Step E β} {w : World E}
    (start : R w (first w).2) (rest : ∀ a u, first w = (.ok a, u) → R u (next a u).2) :
    R w ((first >>= next) w).2 := by
  rw [bind_apply]
  rcases done : first w with ⟨_ | a, u⟩
  · rw [done] at start
    exact start
  · rw [done] at start
    exact composes.trans start (rest a u done)

theorem within_bind (composes : Composes R) {first : Step E α} {next : α → Step E β}
    (start : Within R first) (rest : ∀ a, Within R (next a)) : Within R (first >>= next) :=
  fun w => bind_within composes (start w) (fun a u _ => rest a u)

theorem within_get_bind {next : World E → Step E β} (rest : ∀ w, R w (next w w).2) :
    Within R (get >>= next) :=
  fun w => rest w

theorem map_snd (f : α → β) (step : Step E α) (w : World E) :
    ((f <$> step) w).2 = (step w).2 := by
  rw [map_apply]
  rcases step w with ⟨_ | a, u⟩
  · rfl
  · rfl

theorem within_map {step : Step E α} (f : α → β) (start : Within R step) :
    Within R (f <$> step) := by
  intro w
  rw [map_snd]
  exact start w

theorem within_mapM (composes : Composes R) {f : α → Step E β} (each : ∀ a, Within R (f a))
    (items : List α) : Within R (items.mapM f) := by
  induction items with
  | nil =>
      rw [List.mapM_nil]
      exact within_pure composes []
  | cons head tail ih =>
      rw [List.mapM_cons]
      apply within_bind composes (each head)
      intro b
      exact within_bind composes ih (fun rest => within_pure composes (b :: rest))

theorem within_change (f : World E → α × World E) (each : ∀ w, R w (f w).2) :
    Within R (change f) :=
  each

theorem within_changeArena (follows : Follows P R) (f : Arena → α × Arena)
    (each : ∀ a : Arena, a.Shift (fun id name => P (.rename id name)) (f a).2)
    (kept : ∀ a : Arena, a.KeepsShared (f a).2) : Within R (changeArena f : Step E α) :=
  fun w => follows.change (.moveArena (each w.arena)) (kept w.arena)

theorem within_newSpace (follows : Follows P R) (parent : Option SpaceId) :
    Within R (newSpace parent : Step E SpaceId) := by
  intro w
  rw [newSpace]
  cases made : w.arena.newSpace parent with
  | error fault => exact follows.refl w
  | ok answer => exact follows.change (.moveArena (.newSpace made)) (Arena.keepsShared_newSpace made)

theorem within_bindName (follows : Follows P R) (space : SpaceId) (name : String) (v : Value) :
    Within R (bindName space name v : Step E Bool) :=
  within_changeArena follows _ (fun _ => .bind space name v)
    (fun _ => Arena.Rebinds.keepsShared (.bind name v))

end Step

end ScriptValues
