import ScriptValues.Proofs.TableHost.Tracking
import ScriptValues.Proofs.World.Run

/-! What a value is never changes.

Its type, its mutability and its family are fixed when it is made, and what stands behind an immutable
value is fixed with them. Aggregates are no exception to this: they are always mutable, which is why
they can be given another space. -/

namespace ScriptValues

/-- One cell at two times: what lasts of it. A dirty value stays dirty. -/
structure Cell.Lasts {E : Type} (before after : Cell E) : Prop where
  ty : after.ty = before.ty
  mutable : after.mutable = before.mutable
  family : after.backing.family = before.backing.family
  dirty : before.dirty = true → after.dirty = true
  fixed : before.mutable = false → after.backing = before.backing

theorem Cell.lasts_refl {E : Type} (c : Cell E) : c.Lasts c :=
  ⟨rfl, rfl, rfl, id, fun _ => rfl⟩

theorem Cell.Lasts.trans {E : Type} {b c d : Cell E} (first : b.Lasts c) (second : c.Lasts d) :
    b.Lasts d where
  ty := second.ty.trans first.ty
  mutable := second.mutable.trans first.mutable
  family := second.family.trans first.family
  dirty dirty := second.dirty (first.dirty dirty)
  fixed immutable :=
    (second.fixed (first.mutable.trans immutable)).trans (first.fixed immutable)

namespace World

variable {E : Type} {P : Deed → Prop} {u w : World E}

structure Lasts (u w : World E) : Prop where
  present : u.cells.size ≤ w.cells.size
  cell : ∀ v : Value, v.index < u.cells.size → (u.cell v).Lasts (w.cell v)

theorem lasts_refl (w : World E) : w.Lasts w := ⟨Nat.le_refl _, fun v _ => (w.cell v).lasts_refl⟩

theorem Lasts.trans {x : World E} (first : u.Lasts w) (second : w.Lasts x) : u.Lasts x where
  present := Nat.le_trans first.present second.present
  cell v there :=
    (first.cell v there).trans (second.cell v (Nat.lt_of_lt_of_le there first.present))

theorem lasts_addCell (w : World E) (c : Cell E) : w.Lasts (w.addCell c).2 := by
  refine ⟨?_, fun v there => ?_⟩
  · change w.cells.size ≤ (w.cells.push c).size
    rw [Heap.size_push]
    exact Nat.le_succ _
  · rw [cell_addCell, if_neg (Nat.ne_of_lt there)]
    exact (w.cell v).lasts_refl

theorem lasts_writeCell {v : Value} {c : Cell E} (lasts : (w.cell v).Lasts c) :
    w.Lasts (w.writeCell v c) := by
  refine ⟨Nat.le_of_eq (Heap.size_write w.cells v.index c).symm, fun x _ => ?_⟩
  rw [cell_writeCell]
  split
  · rename_i here
    have same : w.cell x = w.cell v := congrArg w.cells.read here.1.symm
    exact same ▸ lasts
  · exact (w.cell x).lasts_refl

/-- A change lasts where all values fit: only an immutable aggregate could lose what is behind it,
and there is none. -/
theorem Lasts.of_change (fitting : u.Fitting) (changed : Change P u w) : u.Lasts w := by
  cases changed with
  | addCell c => exact lasts_addCell u c
  | addAggregate c => exact ⟨(lasts_addCell u c).present, (lasts_addCell u c).cell⟩
  | setBacking v b family writable =>
      have mutable : (u.cell v).mutable = true := writable.elim id fitting.mutable_of_family
      refine lasts_writeCell ⟨rfl, rfl, family, id, fun immutable => ?_⟩
      rw [mutable] at immutable
      cases immutable
  | setDirty v => exact lasts_writeCell ⟨rfl, rfl, rfl, fun _ => rfl, fun _ => rfl⟩
  | setTranslated v space => exact lasts_writeCell ⟨rfl, rfl, rfl, id, fun _ => rfl⟩
  | _ => exact ⟨Nat.le_refl _, (lasts_refl u).cell⟩

theorem tracks_lasts :
    Tracks Deed.any (fun u w : World E => u.Fitting → w.Fitting ∧ u.Lasts w) where
  refl w fitting := ⟨fitting, lasts_refl w⟩
  trans first second fitting :=
    have fits := (first fitting).1
    ⟨(second fits).1, (first fitting).2.trans (second fits).2⟩
  change changed fitting := ⟨fitting.change changed, .of_change fitting changed⟩

section Runs

variable {embedding : Embedding E} (kept : embedding.Within (Through Deed.any)) (maxDepth : Nat)
  (outside : E) (before later : List (Operation E))

include kept

theorem fitting_after : ((World.initial maxDepth outside).after embedding before).Fitting :=
  (after_within tracks_lasts (kept.follow tracks_lasts) before _
    (fitting_initial maxDepth outside)).1

theorem fitting_of_reached {w : World E} (reached : w.Reached embedding) : w.Fitting := by
  obtain ⟨maxDepth, outside, operations, rfl⟩ := reached
  exact fitting_after kept maxDepth outside operations

/-- Whatever a run does later, every value that it has made is and stays what it was made as, and its
container has the key and element types that its type declares. An immutable basic value keeps its
payload for ever. -/
theorem values_last :
    ((World.initial maxDepth outside).after embedding before).Lasts
        (((World.initial maxDepth outside).after embedding before).after embedding later) ∧
      (((World.initial maxDepth outside).after embedding before).after embedding later).Fitting ∧
      ∀ v p, ((World.initial maxDepth outside).after embedding before).backing v = .basic p →
        (((World.initial maxDepth outside).after embedding before).cell v).mutable = false →
        (((World.initial maxDepth outside).after embedding before).after embedding later).payload v =
          p := by
  have fitting := fitting_after kept maxDepth outside before
  generalize (World.initial maxDepth outside).after embedding before = u at fitting ⊢
  obtain ⟨fits, lasts⟩ := after_within tracks_lasts (kept.follow tracks_lasts) later u fitting
  refine ⟨lasts, fits, fun v p held immutable => ?_⟩
  have known : v.index < u.cells.size := present_of_backing (by rw [held]; nofun)
  have still : (u.after embedding later).backing v = .basic p :=
    ((lasts.cell v known).fixed immutable).trans held
  rw [payload, walkBound, payloadWithin, still]

end Runs

/-- A one that cannot be written, a list of numbers, and another list that comes to share what is
behind the first: the one is still a one, and both lists still hold numbers. -/
theorem values_last_sharedList :
    ((World.initial 0 (Outside.initial "host" Table.empty)).after TableHost.embedding
        [.newBasic .int (.int 1) false, .newList (.list .int), .newList (.list .int)]).Lasts
      (((World.initial 0 (Outside.initial "host" Table.empty)).after TableHost.embedding
        [.newBasic .int (.int 1) false, .newList (.list .int), .newList (.list .int)]).after
          TableHost.embedding [.write ⟨2⟩ (.int 2), .assign ⟨4⟩ ⟨3⟩, .write ⟨4⟩ (.list [.int 3])]) ∧
    (((World.initial 0 (Outside.initial "host" Table.empty)).after TableHost.embedding
        [.newBasic .int (.int 1) false, .newList (.list .int), .newList (.list .int)]).after
          TableHost.embedding [.write ⟨2⟩ (.int 2), .assign ⟨4⟩ ⟨3⟩, .write ⟨4⟩ (.list [.int 3])]).payload
        ⟨2⟩ = .int 1 :=
  have lasting := values_last (TableHost.embedding_within (tracks_through Deed.any)) 0
    (Outside.initial "host" Table.empty)
    [.newBasic .int (.int 1) false, .newList (.list .int), .newList (.list .int)]
    [.write ⟨2⟩ (.int 2), .assign ⟨4⟩ ⟨3⟩, .write ⟨4⟩ (.list [.int 3])]
  ⟨lasting.1, lasting.2.2 ⟨2⟩ (.int 1) rfl rfl⟩

end World

end ScriptValues
