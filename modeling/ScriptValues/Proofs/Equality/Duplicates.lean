import ScriptValues.Proofs.Collection.Sets
import ScriptValues.Proofs.Equality.Symmetry

/-! Equal values are duplicates.

Values are compared by what their containers hold, and sets and maps go by payloads. A value that
equals another one has the payload of the other, so no set or map tells them apart. -/

namespace ScriptValues

theorem Payload.same_congr {p q : Payload} (equal : p.same q = true) (back : q.same p = true)
    (r : Payload) : p.same r = q.same r :=
  Bool.eq_iff_iff.mpr ⟨same_trans back, same_trans equal⟩

namespace World

variable {E : Type} {w : World E} {v u : Value} {R : Value → Value → Prop}

theorem payload_of_samePayload (equal : w.samePayload v u = true) :
    (w.payload v).same (w.payload u) = true := by
  rw [samePayload, Bool.and_eq_true] at equal
  exact equal.2

/-- Values that match in one step have equal payloads if what lies inside has. -/
theorem Matches.payload_same (boxes : w.BoxesSound) (orderly : w.Orderly v) (orderly' : w.Orderly u)
    (inside : ∀ {a b}, w.Orderly a → w.Orderly b → R a b → (w.payload a).same (w.payload b) = true)
    (matched : w.Matches R v u) : (w.payload v).same (w.payload u) = true := by
  cases matched with
  | itself present same =>
      subst same
      exact Payload.same_refl _
  | field present other field equal => exact payload_of_samePayload equal
  | payload typed outside equal => exact payload_of_samePayload equal
  | aggregate typed held held' equal =>
      rw [payload_of_aggregate held, payload_of_aggregate held']
      exact equal.2.2
  | list typed held held' items =>
      rw [payload_of_list orderly.loopless held, payload_of_list orderly'.loopless held']
      rcases items with same | items
      · subst same
        exact Payload.same_refl _
      · obtain ⟨size, pairs⟩ := List.forall₂_iff_get.mp items
        rw [Payload.same_list_iff, List.forall₂_map_left_iff, List.forall₂_map_right_iff]
        refine List.forall₂_iff_get.mpr ⟨size, fun i h h' => ?_⟩
        exact inside (orderly.of_contains (contains_of_list held (List.get_mem _ _)))
          (orderly'.of_contains (contains_of_list held' (List.get_mem _ _))) (pairs i h h')
  | set typed held held' items =>
      rw [payload_of_set orderly.loopless held, payload_of_set orderly'.loopless held']
      rcases items with same | ⟨size, covered⟩
      · subst same
        exact Payload.same_refl _
      · rw [Payload.same_set_iff, List.length_map, List.length_map]
        refine ⟨size, fun p member => ?_⟩
        obtain ⟨x, item, same⟩ := List.mem_map.mp member
        obtain ⟨other, there, equal⟩ := exists_row_of_covered boxes (orderly.tidy_set boxes held)
          (orderly'.tidy_set boxes held') size covered item
        exact ⟨_, List.mem_map_of_mem (item_of_log boxes there), same ▸ equal⟩
  | map typed held held' entries =>
      rw [payload_of_map orderly.loopless held, payload_of_map orderly'.loopless held']
      rcases entries with same | ⟨size, covered⟩
      · subst same
        exact Payload.same_refl _
      · rw [Payload.same_map_iff, List.length_map, List.length_map]
        refine ⟨size, fun p member => ?_⟩
        obtain ⟨entry, there, same⟩ := List.mem_map.mp member
        subst same
        obtain ⟨element, found, related⟩ := covered entry there
        obtain ⟨row, known, equal, same⟩ := exists_row_of_elementAt? boxes found
        subst same
        have tidy' := orderly'.tidy_map boxes held'
        have within := contains_of_map held there
        have within' := contains_of_map held' (entry_of_log boxes known)
        have clean := (orderly.of_contains within.1).clean boxes
        have back := (clean.same_iff (tidy'.clean row known)).mp equal
        refine ⟨_, List.mem_map_of_mem (entry_of_log boxes known), ?_, ?_⟩
        · exact Payload.same_trans (tidy'.current row known) back
        · exact inside (orderly'.of_contains within'.2) (orderly.of_contains within.2) related

theorem payload_same_of_sameWithin (boxes : w.BoxesSound) (n : Nat) {v u : Value}
    (orderly : w.Orderly v) (orderly' : w.Orderly u) (equal : w.sameWithin n v u = true) :
    (w.payload v).same (w.payload u) = true := by
  induction n generalizing v u with
  | zero => cases equal
  | succ n ih =>
      have matched := matches_of_sameWithin equal
      exact matched.payload_same boxes orderly orderly' ih

/-- Two additions to a set, one after the other, of which the second is turned away. Where the set
lies within what is added the addition panics instead. -/
structure AddsOnce (w : World E) (s : SetId) (v u : Value) : Prop where
  panics : w.Inside (.set s) v → setAdd s v w = (.error .alreadyBorrowed, w)
  adds : ¬ w.Inside (.set s) v → ∃ added x, setAdd s v w = (.ok added, x) ∧
    (¬ w.Inside (.set s) u → setAdd s u x = (.ok false, x)) ∧
    (w.Inside (.set s) u → setAdd s u x = (.error .alreadyBorrowed, x))

theorem addsOnce {s : SetId} (there : s.index < w.sets.size) (sound : (w.set s).Sound)
    (equal : (w.payload u).same (w.payload v) = true) : w.AddsOnce s v u where
  panics inside := setAdd_of_inside inside
  adds apart := by
    have recorded : w.SetRecords s (w.set s).log := ⟨there, sound⟩
    have added := (recorded.setInsert v).records
    have written : WritesOnly (· = .set s) w (w.setInsert s v).2 :=
      (WritesOnly.refl (· = .set s) w).writeSet rfl _
    refine ⟨_, _, setAdd_of_not_inside apart, fun outside => ?_, fun inside => ?_⟩
    · have unchanged : (w.setInsert s v).2.payload u = w.payload u :=
        written.payload fun c here => here ▸ outside
      rw [setAdd_of_not_inside (written.inside_iff.not.mpr outside), World.setInsert, unchanged,
        added.rejects (Log.holds_add equal v)]
      exact congrArg (Prod.mk (Except.ok false)) (writeSet_set _ s)
    · exact setAdd_of_inside (written.inside_iff.mpr inside)

/-- Values in order that are equal have equal payloads after every run. So sets and maps answer
alike for both, and a set that took one of them turns the other away, unless it lies within it. -/
theorem equal_values_duplicates {embedding : Embedding E} {maxDepth : Nat} {outside : E}
    {operations : List (Operation E)}
    (kept : embedding.Within fun u w => u.BoxesSound → w.BoxesSound)
    (run : (World.initial maxDepth outside).after embedding operations = w)
    (orderly : w.Orderly v) (orderly' : w.Orderly u) (equal : w.same v u = true) :
    (w.payload v).same (w.payload u) = true ∧
      (∀ s, w.setContains s v = w.setContains s u) ∧
      (∀ s, s.index < w.sets.size → w.AddsOnce s v u) ∧
      ∀ m, w.mapGet m v = w.mapGet m u ∧ w.mapContainsKey m v = w.mapContainsKey m u := by
  have boxes : w.BoxesSound := run ▸ boxesSound_after kept maxDepth outside operations
  have payloads := payload_same_of_sameWithin boxes _ orderly orderly' equal
  have back := ((orderly.clean boxes).same_iff (orderly'.clean boxes)).mp payloads
  have alike : (w.payload v).same = (w.payload u).same :=
    funext (Payload.same_congr payloads back)
  refine ⟨payloads, fun s => ?_, fun s there => addsOnce there (boxes.sets s) back,
    fun m => ⟨?_, ?_⟩⟩
  · rw [setContains, setContains, indexed, indexed, alike]
  · rw [mapGet, mapGet, elementAt?, elementAt?, alike]
  · rw [mapContainsKey, mapContainsKey, MapBox.position?, MapBox.position?, alike]

/-- Two sets that were filled in different orders are one and the same for a set of sets and as
keys. -/
theorem equal_values_duplicates_sets :
    let w := (World.initial 4 (Outside.initial "host" Table.empty)).after TableHost.embedding
      [.newSet (.set .int), .newSet (.set .int), .newBasic .int (.int 1) true,
        .newBasic .int (.int 2) true, .setAdd ⟨0⟩ ⟨4⟩, .setAdd ⟨0⟩ ⟨5⟩, .setAdd ⟨1⟩ ⟨5⟩,
        .setAdd ⟨1⟩ ⟨4⟩, .newSet (.set (.set .int)), .newMap (.map (.set .int) .int),
        .mapAdd ⟨0⟩ ⟨2⟩ ⟨4⟩]
    (∃ added x, setAdd ⟨2⟩ ⟨2⟩ w = (.ok added, x) ∧ setAdd ⟨2⟩ ⟨3⟩ x = (.ok false, x)) ∧
      w.mapGet ⟨0⟩ ⟨3⟩ = ⟨4⟩ := by
  intro w
  have held : w.backing ⟨2⟩ = .set ⟨0⟩ := backing_of_set? (by decide +kernel)
  have held' : w.backing ⟨3⟩ = .set ⟨1⟩ := backing_of_set? (by decide +kernel)
  have first : w.Orderly ⟨2⟩ := orderly_of_leaves held (by decide +kernel) (by decide +kernel)
  have second : w.Orderly ⟨3⟩ := orderly_of_leaves held' (by decide +kernel) (by decide +kernel)
  obtain ⟨_, _, twice, got⟩ := equal_values_duplicates
    (TableHost.embedding_within tracks_boxesSound) (rfl : _ = w) first second (by decide +kernel)
  obtain ⟨added, x, once, again, _⟩ := (twice ⟨2⟩ (by decide +kernel)).adds (by decide +kernel)
  refine ⟨⟨added, x, once, again (by decide +kernel)⟩, (got ⟨0⟩).1.symm.trans ?_⟩
  decide +kernel

/-- A list of an empty set and a list of its twin are equal. Once the first list is in the twin the
second one is a duplicate, but to add it panics. -/
theorem equal_lists_panic :
    let w := (World.initial 4 (Outside.initial "host" Table.empty)).after TableHost.embedding
      [.newSet (.set (.list (.set .int))), .newList (.list (.set .int)), .listAdd ⟨0⟩ ⟨2⟩,
        .newSet (.set (.list (.set .int))), .newList (.list (.set .int)), .listAdd ⟨1⟩ ⟨4⟩]
    w.Orderly ⟨3⟩ ∧ w.Orderly ⟨5⟩ ∧ w.same ⟨3⟩ ⟨5⟩ = true ∧
      ∃ x, setAdd ⟨1⟩ ⟨3⟩ w = (.ok true, x) ∧ (∀ v, Loopless x.Contains v) ∧
        setAdd ⟨1⟩ ⟨5⟩ x = (.error .alreadyBorrowed, x) := by
  intro w
  have twin : w.Orderly ⟨2⟩ := orderly_of_leaves rfl (by decide +kernel) (by decide +kernel)
  have set : w.Orderly ⟨4⟩ := orderly_of_leaves rfl (by decide +kernel) (by decide +kernel)
  have first : w.Orderly ⟨3⟩ :=
    .of_contents (fun x step => List.mem_singleton.mp step ▸ twin) nofun nofun nofun
  have second : w.Orderly ⟨5⟩ :=
    .of_contents (fun x step => List.mem_singleton.mp step ▸ set) nofun nofun nofun
  have added : setAdd ⟨1⟩ ⟨3⟩ w = (.ok true, (w.setInsert ⟨1⟩ ⟨3⟩).2) :=
    setAdd_of_not_inside (by decide +kernel)
  exact ⟨first, second, by decide +kernel, _, added, loopless_of_earlier (by decide +kernel),
    setAdd_of_inside (by decide +kernel)⟩

end World

end ScriptValues
