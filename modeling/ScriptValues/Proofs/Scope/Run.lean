import ScriptValues.Proofs.Scope.Loop
import ScriptValues.Proofs.TableHost.Tracking
import ScriptValues.Proofs.World.Run

/-! The scopes of a run.

Whatever a run does, and in whatever order, its arena comes out of the initial one by moves, so the
forest of scopes is in order at the end of every run. -/

namespace ScriptValues

namespace World

variable {E : Type}

def ScopesEvolve (u w : World E) : Prop := u.arena.Evolves w.arena

theorem scopesEvolve_of_eq {u w : World E} (same : w.arena = u.arena) : ScopesEvolve u w := by
  rw [ScopesEvolve]
  rw [same]
  exact Arena.evolves_refl u.arena

theorem tracks_scopesEvolve : Tracks Deed.any (ScopesEvolve (E := E)) where
  refl w := Arena.evolves_refl w.arena
  trans first second := Arena.evolves_trans first second
  change := by
    intro v w changed
    cases changed with
    | addAggregate c behind bare made =>
        exact Arena.evolves_trans (Arena.evolves_of_move (.newSpace made))
          (Arena.evolves_of_move (.bind _ selfName _))
    | moveArena shift => exact Arena.evolves_of_move shift.move
    | _ => exact scopesEvolve_of_eq rfl

def arenaAfter (embedding : Embedding E) (maxDepth : Nat) (outside : E)
    (operations : List (Operation E)) : Arena :=
  ((World.initial maxDepth outside).after embedding operations).arena

section Runs

variable {embedding : Embedding E} (kept : embedding.Within ScopesEvolve) (maxDepth : Nat)
  (outside : E) (operations : List (Operation E))

include kept

theorem evolves_arenaAfter :
    (Arena.initial maxDepth).Evolves (arenaAfter embedding maxDepth outside operations) :=
  after_within tracks_scopesEvolve kept operations (World.initial maxDepth outside)

theorem sound_arenaAfter : (arenaAfter embedding maxDepth outside operations).Sound :=
  (Arena.sound_initial maxDepth).evolve (evolves_arenaAfter kept maxDepth outside operations)

theorem maxDepth_arenaAfter :
    (arenaAfter embedding maxDepth outside operations).maxDepth = maxDepth :=
  (Arena.grows_of_evolves (evolves_arenaAfter kept maxDepth outside operations)).maxDepth

/-- At the end of every run the scopes form a forest no deeper than the limit, and the empty space
is untouched. Both loops over parents end within one read more than the limit, and a space is
refused for its depth only one step beyond the limit. -/
theorem scopes_after_run :
    (arenaAfter embedding maxDepth outside operations).Sound ∧
      (arenaAfter embedding maxDepth outside operations).maxDepth = maxDepth ∧
      (∀ id name,
        (arenaAfter embedding maxDepth outside operations).lookupLoop name (maxDepth + 1) id =
          some ((arenaAfter embedding maxDepth outside operations).lookup id name)) ∧
      (∀ id ancestor, ∃ answer,
        (arenaAfter embedding maxDepth outside operations).descendsLoop ancestor (maxDepth + 1) id =
          some answer ∧
        ((arenaAfter embedding maxDepth outside operations).contains ancestor = true →
          (answer = true ↔
            ancestor ∈ (arenaAfter embedding maxDepth outside operations).chain id))) ∧
      ∀ parent depth limit,
        (arenaAfter embedding maxDepth outside operations).newSpace parent =
          .error (.scopeDepthExceeded depth limit) →
        depth = maxDepth + 1 ∧ limit = maxDepth := by
  have sound := sound_arenaAfter kept maxDepth outside operations
  have most := maxDepth_arenaAfter kept maxDepth outside operations
  generalize arenaAfter embedding maxDepth outside operations = a at sound most ⊢
  have enough : ∀ id s, a.space? id = some s → s.depth < maxDepth + 1 := by
    intro id s live
    have bound := sound.bounded id s live
    omega
  refine ⟨sound, most, ?_, ?_, ?_⟩
  · intro id name
    exact sound.lookupLoop_eq name (maxDepth + 1) id (enough id)
  · intro id ancestor
    exact sound.descendsLoop_eq ancestor (maxDepth + 1) id (enough id)
  · intro parent depth limit refused
    have exceeded := sound.scopeDepthExceeded refused
    rwa [most] at exceeded

end Runs

theorem Reached.sound {embedding : Embedding E} {w : World E} (reached : w.Reached embedding)
    (kept : embedding.Within ScopesEvolve) : w.arena.Sound := by
  obtain ⟨maxDepth, outside, operations, rfl⟩ := reached
  exact sound_arenaAfter kept maxDepth outside operations

/-- Two nested spaces, the outer of which is freed: the inner one keeps its depth, and nothing fits
below it. -/
theorem scopes_after_freeing_parent :
    (arenaAfter TableHost.embedding 1 (Outside.initial "host" Table.empty)
        [.newSpace none, .newSpace (some ⟨1⟩), .free ⟨1⟩]).newSpace (some ⟨2⟩) =
      .error (.scopeDepthExceeded 2 1) ∧
    (arenaAfter TableHost.embedding 1 (Outside.initial "host" Table.empty)
        [.newSpace none, .newSpace (some ⟨1⟩), .free ⟨1⟩]).lookupLoop selfName 2 ⟨2⟩ =
      some ((arenaAfter TableHost.embedding 1 (Outside.initial "host" Table.empty)
        [.newSpace none, .newSpace (some ⟨1⟩), .free ⟨1⟩]).lookup ⟨2⟩ selfName) :=
  ⟨rfl, (scopes_after_run (TableHost.embedding_within tracks_scopesEvolve) 1
    (Outside.initial "host" Table.empty) [.newSpace none, .newSpace (some ⟨1⟩), .free ⟨1⟩]).2.2.1
    ⟨2⟩ selfName⟩

end World

end ScriptValues
