import ScriptValues.Proofs.Scope.Building
import ScriptValues.Proofs.World.Outcome

/-! Steps that leave no trace in the arena when they fail.

Such a step builds below a given space if it succeeds, and otherwise leaves the arena as it found
it. It can therefore fill a new space: whatever its outcome, all that is new stays below that
space. -/

namespace ScriptValues

variable {E α β : Type} {parent root : SpaceId}

namespace Step

/-- The step builds below `parent`, or fails and leaves the spaces as they were. -/
def AllOrNothing (parent : SpaceId) (step : Step E α) : Prop :=
  ∀ w, w.arena.Sound →
    match step w with
    | (.ok _, u) => w.arena.BuildsBelow parent u.arena
    | (.error _, u) => w.arena.Restores u.arena

theorem allOrNothing_of_idle {step : Step E α} (idle : ∀ w, (step w).2.arena = w.arena) :
    step.AllOrNothing parent := by
  intro w _
  have restores : w.arena.Restores (step w).2.arena := by
    rw [idle w]
    exact Arena.restores_refl w.arena
  rcases done : step w with ⟨_ | a, u⟩
  · rw [done] at restores
    exact restores
  · rw [done] at restores
    exact restores.buildsBelow parent

theorem allOrNothing_of_get {next : World E → Step E α}
    (clean : ∀ w, (next w).AllOrNothing parent) :
    (get >>= next : Step E α).AllOrNothing parent :=
  fun w sound => clean w w sound

theorem AllOrNothing.map {step : Step E α} (clean : step.AllOrNothing parent) (f : α → β) :
    (f <$> step).AllOrNothing parent := by
  intro w sound
  have ended := clean w sound
  rw [map_apply]
  rcases done : step w with ⟨_ | a, u⟩
  · rw [done] at ended
    exact ended
  · rw [done] at ended
    exact ended

theorem AllOrNothing.buildsBelow {step : Step E α} (clean : step.AllOrNothing parent) {w : World E}
    (sound : w.arena.Sound) : w.arena.BuildsBelow parent (step w).2.arena := by
  have ended := clean w sound
  rcases done : step w with ⟨_ | a, u⟩
  · rw [done] at ended
    exact ended.buildsBelow parent
  · rw [done] at ended
    exact ended

theorem AllOrNothing.restores {step : Step E α} (clean : step.AllOrNothing parent) {w u : World E}
    (sound : w.arena.Sound) {fault : Fault} (failed : step w = (.error fault, u)) :
    w.arena.Restores u.arena := by
  have ended := clean w sound
  rw [failed] at ended
  exact ended

end Step

open Step

/-- A building site: a sound arena with a new space in it, below which the work goes on. -/
structure World.Site (parent root : SpaceId) (a : Arena) (w : World E) : Prop where
  sound : w.arena.Sound
  building : Arena.Building parent root a w.arena

namespace World.Site

variable {a : Arena} {w : World E}

theorem after {step : Step E α} (site : w.Site parent root a) (clean : step.AllOrNothing root) :
    (step w).2.Site parent root a :=
  ⟨site.sound.evolve (clean.buildsBelow site.sound).evolves,
    site.building.step (clean.buildsBelow site.sound)⟩

theorem bindName (site : w.Site parent root a) (name : String) (v : Value) :
    (Step.bindName root name v w).2.Site parent root a :=
  ⟨site.sound.bind root name v, site.building.bind name v⟩

/-- The space is released, and no trace of the work is left. -/
theorem release (site : w.Site parent root a) :
    a.Restores (w.arena.freeSubtree root).2 :=
  site.building.release site.sound

theorem finish (site : w.Site parent root a) (above : ∃ s, a.space? parent = some s) :
    a.BuildsBelow parent w.arena :=
  site.building.finish site.sound above

end World.Site

theorem newAggregate_cases (ty : Ty) (parent : SpaceId) (p : Payload) {w : World E}
    (sound : w.arena.Sound) :
    (∃ fault, w.arena.newSpace (some parent) = .error fault ∧
        newAggregate ty parent p w = (.error fault, w)) ∨
      ∃ v u, newAggregate ty parent p w = (.ok (v, ⟨w.arena.slots.size⟩), u) ∧
        u.Site parent ⟨w.arena.slots.size⟩ w.arena ∧ ∃ s, w.arena.space? parent = some s := by
  rw [newAggregate_apply]
  rcases made : w.arena.newSpace (some parent) with fault | ⟨space, a⟩
  · exact .inl ⟨fault, rfl, rfl⟩
  · have building := Arena.building_newSpace made
    have grown := sound.newSpace made
    rcases Arena.newSpace_cases made with ⟨absent, _⟩ | ⟨_, s, same, live, _, fresh⟩
    · cases absent
    · cases same
      obtain rfl : space = ⟨w.arena.slots.size⟩ := congrArg Prod.fst fresh
      exact .inr ⟨_, _, rfl, ⟨grown.bind _ _ _, building.bind _ _⟩, s, live⟩

end ScriptValues
