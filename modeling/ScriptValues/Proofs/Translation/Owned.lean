import ScriptValues.Proofs.Scope.Sound
import ScriptValues.Proofs.Translation.Record

/-! Who owns the spaces that translations bring about.

Each space that is there beyond those of the start belongs to the record of an aggregate property, or
is on its way into one. Forgetting a record and releasing the space go together, and a space is only
released by the value that has it on record. -/

namespace ScriptValues

namespace World

variable {E : Type} {w : World E}

/-- `r` may stand on record for `v`: it is no older than `floor`, and while it is live it hangs below
the space that `v` hands to its translator. -/
def Recorded (w : World E) (floor : Nat) (v : Value) (r : SpaceId) : Prop :=
  floor ≤ r.index ∧ w.arena.Allocated r ∧
    ∃ b parent translator, w.backing v = .aggregateProperty b parent translator ∧
      ∀ s, w.arena.space? r = some s → s.parent = some parent

/-- The spaces of `start` are as they were, and every other live space lies below the record of one
of `values` or below one of `extra`. -/
structure Owned (values : Value → Prop) (start : Arena) (extra : List SpaceId) (w : World E) :
    Prop where
  sound : w.arena.Sound
  base : start.Allocated SpaceId.empty
  grown : start.slots.size ≤ w.arena.slots.size
  old : ∀ id, start.Allocated id → w.arena.space? id = start.space? id
  recorded : ∀ v, values v → ∀ r, (w.cell v).translated = some r →
    w.Recorded start.slots.size v r
  covered : ∀ id s, start.slots.size ≤ id.index → w.arena.space? id = some s →
    (∃ v r, values v ∧ (w.cell v).translated = some r ∧ r ∈ w.arena.chain id) ∨
      ∃ r ∈ extra, r ∈ w.arena.chain id

theorem Recorded.present {floor : Nat} {v : Value} {r : SpaceId} (recorded : w.Recorded floor v r) :
    v.index < w.cells.size := by
  obtain ⟨_, _, _, _, _, held, _⟩ := recorded
  exact present_of_aggregateProperty held

theorem Recorded.setTranslated {floor : Nat} {v : Value} {r : SpaceId}
    (recorded : w.Recorded floor v r) (p : Value) (space : Option SpaceId) :
    (w.setTranslated p space).Recorded floor v r := by
  obtain ⟨above, there, b, parent, translator, held, hangs⟩ := recorded
  refine ⟨above, there, b, parent, translator, ?_, hangs⟩
  rw [backing_setTranslated]
  exact held

namespace Owned

variable {values : Value → Prop} {start : Arena} {extra : List SpaceId}

theorem not_empty (owned : Owned values start extra w) {id : SpaceId}
    (new : start.slots.size ≤ id.index) : id ≠ SpaceId.empty := by
  intro same
  rw [same] at new
  exact Nat.not_lt_of_le new owned.base

theorem forget (owned : Owned values start extra w) {p : Value} {r : SpaceId} (member : values p)
    (known : (w.cell p).translated = some r) :
    Owned values start (r :: extra) (w.setTranslated p none) where
  sound := owned.sound
  base := owned.base
  grown := owned.grown
  old := owned.old
  recorded v other q filed := by
    by_cases same : v = p
    · subst same
      rw [cell_setTranslated_self (owned.recorded v member r known).present] at filed
      cases filed
    · rw [cell_setTranslated_other same] at filed
      exact (owned.recorded v other q filed).setTranslated p none
  covered id s new live := by
    rcases owned.covered id s new live with ⟨v, q, other, filed, above⟩ | ⟨q, listed, above⟩
    · by_cases same : v = p
      · subst same
        rw [known] at filed
        cases filed
        exact .inr ⟨r, List.mem_cons_self, above⟩
      · exact .inl ⟨v, q, other, by rw [cell_setTranslated_other same]; exact filed, above⟩
    · exact .inr ⟨q, List.mem_cons_of_mem _ listed, above⟩

theorem space?_release (owned : Owned values start extra w) {r : SpaceId}
    (new : start.slots.size ≤ r.index)
    (child : ∀ s, w.arena.space? r = some s → s.parent ≠ none) (id : SpaceId) :
    (w.releaseSubtree r).arena.space? id =
      if r ∈ w.arena.chain id then none else w.arena.space? id := by
  by_cases below : r ∈ w.arena.chain id
  · obtain ⟨s, live⟩ := Arena.live_of_mem_chain _ below
    have other : r ≠ SpaceId.empty := owned.not_empty new
    have unshared : w.arena.selfSpace ≠ some r :=
      fun shared => child s live ((owned.sound.shared r shared).2.2 s live)
    have freeable := (Arena.freeable_iff _ r).mpr ⟨other, unshared, s, live⟩
    exact Arena.space?_freeSubtree _ freeable id
  · rw [if_neg below]
    exact Arena.space?_freeSubtree_of_not_mem _ below

/-- A space that no value has on record is released with everything below it. What survives has
another owner. -/
theorem release {r : SpaceId} (owned : Owned values start (r :: extra) w)
    (new : start.slots.size ≤ r.index)
    (child : ∀ s, w.arena.space? r = some s → s.parent ≠ none) :
    Owned values start extra (w.releaseSubtree r) where
  sound := owned.sound.freeSubtree r
  base := owned.base
  grown := by
    change start.slots.size ≤ (w.arena.freeSubtree r).2.slots.size
    rw [Arena.freeSubtree_size]
    exact owned.grown
  old id there := by
    have apart : r ∉ w.arena.chain id := by
      intro below
      have age := Arena.index_le_of_mem_chain _ below
      exact Nat.not_lt_of_le (Nat.le_trans new age) there
    rw [owned.space?_release new child, if_neg apart]
    exact owned.old id there
  recorded v member q filed := by
    obtain ⟨above, there, b, parent, translator, held, hangs⟩ := owned.recorded v member q filed
    refine ⟨above, ?_, b, parent, translator, held, fun s live => ?_⟩
    · change q.index < (w.arena.freeSubtree r).2.slots.size
      rw [Arena.freeSubtree_size]
      exact there
    · rw [owned.space?_release new child] at live
      split at live
      · cases live
      · exact hangs s live
  covered id s newer live := by
    rw [owned.space?_release new child] at live
    split at live
    · cases live
    · rename_i apart
      have chain : (w.releaseSubtree r).arena.chain id = w.arena.chain id :=
        Arena.chain_freeSubtree_of_not_mem _ apart
      rw [chain]
      rcases owned.covered id s newer live with owner | ⟨q, listed, above⟩
      · exact .inl owner
      · rcases List.mem_cons.mp listed with same | other
        · exact absurd (same ▸ above) apart
        · exact .inr ⟨q, other, above⟩

theorem file {r : SpaceId} (owned : Owned values start (r :: extra) w) {p : Value}
    (member : values p) (free : (w.cell p).translated = none)
    (fit : w.Recorded start.slots.size p r) :
    Owned values start extra (w.setTranslated p (some r)) where
  sound := owned.sound
  base := owned.base
  grown := owned.grown
  old := owned.old
  recorded v known q filed := by
    by_cases same : v = p
    · subst same
      rw [cell_setTranslated_self fit.present] at filed
      cases filed
      exact fit.setTranslated v _
    · rw [cell_setTranslated_other same] at filed
      exact (owned.recorded v known q filed).setTranslated p _
  covered id s newer live := by
    rcases owned.covered id s newer live with ⟨v, q, known, filed, above⟩ | ⟨q, listed, above⟩
    · have same : v ≠ p := by
        intro same
        rw [same, free] at filed
        cases filed
      exact .inl ⟨v, q, known, by rw [cell_setTranslated_other same]; exact filed, above⟩
    · rcases List.mem_cons.mp listed with same | other
      · subst same
        exact .inl ⟨p, q, member, by rw [cell_setTranslated_self fit.present], above⟩
      · exact .inr ⟨q, other, above⟩

end Owned

end World

end ScriptValues
