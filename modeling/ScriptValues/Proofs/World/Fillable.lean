import ScriptValues.Proofs.Host.Entries
import ScriptValues.Proofs.World.Permitted
import ScriptValues.Proofs.TableHost.Tracking

/-! Every collection can be filled.

Lists, sets and maps are made mutable, in whatever way they are made, and a value that is not a
collection never becomes one. -/

namespace ScriptValues

open Step

variable {E : Type}

namespace World

variable {u w : World E} {v x : Value} {embedding : Embedding E}

def KeepsFillable (u w : World E) : Prop := u.Fillable → w.Fillable

theorem fillable_initial (maxDepth : Nat) (outside : E) :
    (World.initial maxDepth outside).Fillable := by
  intro v
  rw [World.cell, World.initial, Heap.read_push, Heap.read_push]
  split
  · exact Cell.fillable_of_plain rfl
  · split
    · exact Cell.fillable_of_plain rfl
    · rw [Heap.read_beyond _ (Nat.zero_le _)]
      exact Cell.fillable_of_plain rfl

theorem tolerates_keepsFillable : Tolerates (KeepsFillable (E := E)) where
  refl _ fillable := fillable
  trans first second fillable := second (first fillable)
  same cells _ fillable v := by
    rw [cell, cells]
    exact fillable v
  addCell w c made fillable v := by
    rw [cell_addCell]
    split
    · exact made fillable
    · exact fillable v

theorem permits_keepsFillable (v : Value) : Permits (KeepsFillable (E := E)) v where
  toAdmits := tolerates_keepsFillable.admits
  writeCell w c written fillable x := by
    rw [cell_writeCell]
    split
    · exact written (fillable v)
    · exact fillable x
  outside _ _ := id

theorem keepsFillable_step (kept : embedding.Within KeepsFillable) (w : World E)
    (operation : Operation E) : KeepsFillable w (operation.step embedding w).2 :=
  permits_step permits_keepsFillable kept w fun p name v _ =>
    tolerates_addDefault tolerates_keepsFillable w p name v

/-- After every run all collections are mutable. -/
theorem fillable_after (kept : embedding.Within KeepsFillable) (maxDepth : Nat) (outside : E)
    (operations : List (Operation E)) :
    ((World.initial maxDepth outside).after embedding operations).Fillable := by
  have start := fillable_initial maxDepth outside
  generalize World.initial maxDepth outside = w at start ⊢
  induction operations generalizing w with
  | nil => exact start
  | cons operation rest ih => exact ih _ (keepsFillable_step kept w operation start)

theorem tableHost_permits {R : World Outside → World Outside → Prop} (permits : ∀ v, Permits R v) :
    TableHost.embedding.Within R := by
  have admits : Admits R := (permits .none).toAdmits
  have counted : Within R TableHost.countCall := fun w => (permits .none).outside w _
  have translated : ∀ translator p parent, Within R (TableHost.translate translator p parent) :=
    fun translator p parent =>
      within_get_bind fun w => admits_translateWithin admits counted _ translator p parent w
  have translators : TableHost.translators.Within R :=
    ⟨translated, fun _ _ _ => within_pure admits _⟩
  refine ⟨translated, TableHost.within_routine admits (fun w n => admits.pushPlain rfl rfl rfl rfl)
    (fun v => ?_) fun v w => ?_⟩
  · refine within_bind admits (admits_changeArena admits _) fun space => ?_
    exact within_bind admits (admits_changeArena admits _) fun _ => within_look admits _
  · rw [member_snd]
    exact admits_memberSpaceWithin admits translators
      (fun w v => permits_recordTranslated (permits v) w) w.walkBound v w

theorem tableHost_keepsFillable : TableHost.embedding.Within KeepsFillable :=
  tableHost_permits permits_keepsFillable

end World

end ScriptValues
