import ScriptValues.Proofs.Scope.Chain
import ScriptValues.Value.MemberSpace

/-! Records of translations: writing them, and releasing what they name. -/

namespace ScriptValues

namespace World

variable {E : Type} {w : World E} {p : Value} {r space : SpaceId}

theorem cell_setTranslated_self {p : Value} (present : p.index < w.cells.size)
    (space : Option SpaceId) :
    (w.setTranslated p space).cell p = { w.cell p with translated := space } :=
  Heap.read_write_self w.cells _ present

theorem cell_setTranslated_other {p v : Value} (other : v ≠ p) (space : Option SpaceId) :
    (w.setTranslated p space).cell v = w.cell v := by
  refine Heap.read_write_other w.cells _ (fun same => other ?_)
  cases v
  cases p
  exact congrArg Value.mk same.symm

theorem backing_setTranslated (p v : Value) (space : Option SpaceId) :
    (w.setTranslated p space).backing v = w.backing v := by
  by_cases same : v = p
  · subst same
    by_cases present : v.index < w.cells.size
    · rw [backing, cell_setTranslated_self present]
      rfl
    · rw [setTranslated, writeCell, Heap.write_beyond w.cells (Nat.le_of_not_lt present)]
  · exact congrArg Cell.backing (cell_setTranslated_other same space)

theorem present_of_aggregateProperty {b : Binding E} {parent : SpaceId} {translator : TranslatorId}
    (held : w.backing p = .aggregateProperty b parent translator) : p.index < w.cells.size := by
  apply present_of_backing
  rw [held]
  nofun

theorem setTranslated_twice (present : p.index < w.cells.size) (first second : Option SpaceId) :
    (w.setTranslated p first).setTranslated p second = w.setTranslated p second := by
  rw [setTranslated, cell_setTranslated_self present]
  simp only [setTranslated, writeCell, Heap.write_write]

theorem setTranslated_idle {same : Option SpaceId} (known : (w.cell p).translated = same) :
    w.setTranslated p same = w := by
  have blank : { w.cell p with translated := same } = w.cell p := by rw [← known]
  rw [setTranslated, blank, writeCell, cell, Heap.write_read]

theorem releaseTranslated_none (free : (w.cell p).translated = none) : w.releaseTranslated p = w := by
  simp only [releaseTranslated, free]

theorem releaseTranslated_some (known : (w.cell p).translated = some r) :
    w.releaseTranslated p = (w.setTranslated p none).releaseSubtree r := by
  simp only [releaseTranslated, known]

theorem recordTranslated_eq (present : p.index < w.cells.size)
    (other : (w.cell p).translated ≠ some space) :
    w.recordTranslated p space =
      (w.releaseTranslated p).setTranslated p
        (if space = SpaceId.empty then none else some space) := by
  rw [recordTranslated]
  cases known : (w.cell p).translated with
  | none =>
      rw [releaseTranslated_none known]
  | some r =>
      have apart : r ≠ space := fun same => other (known.trans (congrArg some same))
      rw [releaseTranslated_some known]
      simp only [if_neg apart]
      exact (setTranslated_twice (w := w.releaseSubtree r) present none _).symm

theorem backing_releaseTranslated (p v : Value) :
    (w.releaseTranslated p).backing v = w.backing v := by
  cases known : (w.cell p).translated with
  | none => rw [releaseTranslated_none known]
  | some r =>
      rw [releaseTranslated_some known]
      exact backing_setTranslated p v none

theorem size_releaseTranslated (p : Value) : (w.releaseTranslated p).cells.size = w.cells.size := by
  cases known : (w.cell p).translated with
  | none => rw [releaseTranslated_none known]
  | some r =>
      rw [releaseTranslated_some known]
      exact Heap.size_write _ _ _

end World

end ScriptValues
