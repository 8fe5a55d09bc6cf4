import ScriptValues.Proofs.Scope.Sound
import ScriptValues.Proofs.World.Run

/-! The absent value and the empty space are there from the start, and no run can change that. -/

namespace ScriptValues

namespace World

variable {E : Type}

structure Grounded (w : World E) : Prop where
  space : w.arena.Allocated SpaceId.empty
  present : Value.none.index < w.cells.size
  absent : w.backing .none = .absent
  fixed : (w.cell .none).mutable = false

theorem grounded_initial (maxDepth : Nat) (outside : E) :
    (World.initial maxDepth outside).Grounded :=
  ⟨Nat.zero_lt_one, Nat.zero_lt_two, rfl, rfl⟩

theorem Grounded.addCell {w : World E} (grounded : w.Grounded) (c : Cell E) :
    (w.addCell c).2.Grounded := by
  have old : Value.none.index ≠ w.cells.size := Nat.ne_of_lt grounded.present
  have same : (w.addCell c).2.cell .none = w.cell .none := Heap.read_push_other w.cells c old
  refine ⟨grounded.space, ?_, ?_, ?_⟩
  · change Value.none.index < (w.cells.push c).size
    rw [Heap.size_push]
    exact Nat.lt_succ_of_lt grounded.present
  · exact (congrArg Cell.backing same).trans grounded.absent
  · exact (congrArg Cell.mutable same).trans grounded.fixed

theorem Grounded.writeCell {w : World E} (grounded : w.Grounded) {v : Value} {c : Cell E}
    (kept : v = .none → c.backing = .absent ∧ c.mutable = false) : (w.writeCell v c).Grounded := by
  have size : (w.writeCell v c).cells.size = w.cells.size := Heap.size_write _ _ _
  by_cases same : v = .none
  · subst same
    have now : (w.writeCell .none c).cell .none = c :=
      Heap.read_write_self w.cells c grounded.present
    refine ⟨grounded.space, size ▸ grounded.present, ?_, ?_⟩
    · exact (congrArg Cell.backing now).trans (kept rfl).1
    · exact (congrArg Cell.mutable now).trans (kept rfl).2
  · have other : v.index ≠ Value.none.index := by
      intro equal
      cases v
      exact same (congrArg Value.mk equal)
    have now : (w.writeCell v c).cell .none = w.cell .none := Heap.read_write_other w.cells c other
    refine ⟨grounded.space, size ▸ grounded.present, ?_, ?_⟩
    · exact (congrArg Cell.backing now).trans grounded.absent
    · exact (congrArg Cell.mutable now).trans grounded.fixed

theorem Grounded.moveArena {w : World E} (grounded : w.Grounded) {a : Arena}
    (move : w.arena.Move a) : (w.withArena a).Grounded where
  space := Nat.lt_of_lt_of_le grounded.space (Arena.grows_of_move move).size
  present := grounded.present
  absent := grounded.absent
  fixed := grounded.fixed

theorem Grounded.change {P : Deed → Prop} {v w : World E} (grounded : v.Grounded)
    (changed : Change P v w) : w.Grounded := by
  cases changed with
  | addCell c => exact grounded.addCell c
  | addAggregate c behind bare made =>
      exact ((grounded.moveArena (.newSpace made)).addCell c).moveArena (.bind _ selfName _)
  | setBacking x b family permitted =>
      apply grounded.writeCell
      intro same
      subst same
      exfalso
      rcases permitted with mutable | aggregate
      · rw [grounded.fixed] at mutable
        cases mutable
      · rw [World.family, grounded.absent] at aggregate
        cases aggregate
  | setDirty x => exact grounded.writeCell (fun same => same ▸ ⟨grounded.absent, grounded.fixed⟩)
  | setTranslated x space =>
      exact grounded.writeCell (fun same => same ▸ ⟨grounded.absent, grounded.fixed⟩)
  | moveArena shift => exact grounded.moveArena shift.move
  | _ => exact ⟨grounded.space, grounded.present, grounded.absent, grounded.fixed⟩

theorem tracks_grounded :
    Tracks Deed.any (fun v w : World E => v.Grounded → w.Grounded) where
  refl _ grounded := grounded
  trans first second grounded := second (first grounded)
  change changed grounded := grounded.change changed

/-- Every run leaves a grounded world. -/
theorem grounded_after {embedding : Embedding E}
    (kept : embedding.Within fun v w => v.Grounded → w.Grounded) (maxDepth : Nat) (outside : E)
    (operations : List (Operation E)) :
    ((World.initial maxDepth outside).after embedding operations).Grounded :=
  after_within tracks_grounded kept operations _ (grounded_initial maxDepth outside)

end World

end ScriptValues
