import ScriptValues.Proofs.Scope.Slots
import ScriptValues.World.Basic
import ScriptValues.Proofs.World.Depth
import ScriptValues.Value.Equality

/-! What a value holds, and what can be reached from it.

A value holds the items of its list or set, the keys and elements of its map, and its members other
than itself. Values that lead back to themselves have no height; below all others every walk ends
within as many steps as there are cells. -/

namespace ScriptValues

namespace World

variable {E : Type}

/-- `u` is one of the values that `v` is made of. -/
inductive Holds (w : World E) (v u : Value) : Prop
  | listItem {l : ListId} (held : w.backing v = .list l) (item : u ∈ (w.list l).items)
  | setItem {s : SetId} (held : w.backing v = .set s) (item : u ∈ (w.set s).items)
  | key {m : MapId} {x : Value} (held : w.backing v = .map m) (entry : (u, x) ∈ (w.map m).entries)
  | element {m : MapId} {k : Value} (held : w.backing v = .map m)
      (entry : (k, u) ∈ (w.map m).entries)
  | member {p : Payload} {space : SpaceId} {name : String} (held : w.backing v = .aggregate p space)
      (other : name ≠ selfName) (bound : (w.arena.bindings space).get? name = some u)

/-- `u` is one of the values that `v` is made of, or what `v` calls itself. -/
inductive Links (w : World E) (v u : Value) : Prop
  | content (step : w.Holds v u)
  | itself {p : Payload} {space : SpaceId} (held : w.backing v = .aggregate p space)
      (bound : (w.arena.bindings space).get? selfName = some u)

def Leads (w : World E) : Value → Value → Prop := Relation.ReflTransGen w.Links

def Reaches (w : World E) : Value → Value → Prop := Relation.ReflTransGen w.Holds

/-- Nothing within `v` leads back to itself. -/
def Acyclic (w : World E) (v : Value) : Prop :=
  ∀ u, w.Reaches v u → ¬ Relation.TransGen w.Holds u u

def Known (w : World E) (v : Value) : Prop :=
  v.index < w.cells.size ∧
    match w.backing v with
    | .aggregate _ space => w.arena.Allocated space
    | .list l => l.index < w.lists.size
    | .set s => s.index < w.sets.size
    | .map m => m.index < w.maps.size
    | _ => True

def Whole (w : World E) (v : Value) : Prop := ∀ u, w.Reaches v u → w.Known u

/-- No path down from `v` has more than `n` values. -/
def Height (w : World E) : Nat → Value → Prop
  | 0, _ => False
  | n + 1, v => ∀ u, w.Holds v u → w.Height n u

variable {w : World E}

theorem reaches_refl (v : Value) : w.Reaches v v := Relation.ReflTransGen.refl

theorem Reaches.tail {v u x : Value} (path : w.Reaches v u) (step : w.Holds u x) : w.Reaches v x :=
  Relation.ReflTransGen.tail path step

theorem Acyclic.of_holds {v u : Value} (acyclic : w.Acyclic v) (step : w.Holds v u) :
    w.Acyclic u :=
  fun x path => acyclic x (Relation.ReflTransGen.head step path)

theorem Whole.of_holds {v u : Value} (whole : w.Whole v) (step : w.Holds v u) : w.Whole u :=
  fun x path => whole x (Relation.ReflTransGen.head step path)

theorem Whole.known {v : Value} (whole : w.Whole v) : w.Known v := whole v (reaches_refl v)

theorem height_iff_shallow {n : Nat} {v : Value} : w.Height n v ↔ Shallow w.Holds n v := by
  induction n generalizing v with
  | zero => exact Iff.rfl
  | succ n ih => exact forall₂_congr fun u _ => ih

theorem Height.mono {n m : Nat} {v : Value} (height : w.Height n v) (more : n ≤ m) :
    w.Height m v :=
  height_iff_shallow.mpr ((height_iff_shallow.mp height).mono more)

/-- Cells are all that a path can visit, and it visits none of them twice. -/
theorem Acyclic.height {v : Value} (acyclic : w.Acyclic v) (whole : w.Whole v) :
    w.Height w.cells.size v :=
  height_iff_shallow.mpr
    (Loopless.shallow Value.index_injective acyclic fun u path => (whole u path).1)

theorem Height.not_within_itself {n : Nat} {v : Value} (height : w.Height n v) :
    ¬ Relation.TransGen w.Holds v v := by
  induction n generalizing v with
  | zero => exact height.elim
  | succ n ih =>
      intro cycle
      obtain ⟨u, step, back⟩ := Relation.TransGen.head'_iff.mp cycle
      exact ih (height u step) (Relation.TransGen.tail' back step)

theorem Height.of_reaches {n : Nat} {v u : Value} (height : w.Height n v) (path : w.Reaches v u) :
    w.Height n u := by
  induction path with
  | refl => exact height
  | tail _ step ih =>
      cases n with
      | zero => exact ih.elim
      | succ n => exact (ih _ step).mono (Nat.le_succ n)

theorem Height.acyclic {n : Nat} {v : Value} (height : w.Height n v) : w.Acyclic v :=
  fun _ path => (height.of_reaches path).not_within_itself

theorem Acyclic.of_reaches {v x : Value} (acyclic : w.Acyclic v) (path : w.Reaches v x) :
    w.Acyclic x :=
  fun y further => acyclic y (Relation.ReflTransGen.trans path further)

theorem Whole.of_reaches {v x : Value} (whole : w.Whole v) (path : w.Reaches v x) : w.Whole x :=
  fun y further => whole y (Relation.ReflTransGen.trans path further)

end World

end ScriptValues
