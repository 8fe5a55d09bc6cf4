import ScriptValues.Proofs.World.Change

/-! Every value fits into its world, whatever happens.

A collection and its container agree on the types of keys and elements, and they go on agreeing when
the container comes to be shared. -/

namespace ScriptValues

namespace World

variable {E : Type} {P : Deed → Prop} {u w : World E} {v : Value} {c : Cell E}

theorem fits_addList {b : ListBox} (behind : c.backing = .list (w.addList b).1)
    (typed : b.element.same (c.ty.element?.getD .noType) = true) : (w.addList b).2.Fits c := by
  have held : (w.addList b).2.list (w.addList b).1 = b := Heap.read_push_self w.lists b
  rw [Fits, behind]
  refine ⟨?_, held.symm ▸ typed⟩
  change w.lists.size < (w.lists.push b).size
  rw [Heap.size_push]
  exact Nat.lt_succ_self _

theorem fits_addSet {b : SetBox} (behind : c.backing = .set (w.addSet b).1)
    (typed : b.element.same (c.ty.element?.getD .noType) = true) : (w.addSet b).2.Fits c := by
  have held : (w.addSet b).2.set (w.addSet b).1 = b := Heap.read_push_self w.sets b
  rw [Fits, behind]
  refine ⟨?_, held.symm ▸ typed⟩
  change w.sets.size < (w.sets.push b).size
  rw [Heap.size_push]
  exact Nat.lt_succ_self _

theorem fits_addMap {b : MapBox} (behind : c.backing = .map (w.addMap b).1)
    (typed : b.key.same (c.ty.key?.getD .noType) = true ∧
      b.element.same (c.ty.element?.getD .noType) = true) : (w.addMap b).2.Fits c := by
  have held : (w.addMap b).2.map (w.addMap b).1 = b := Heap.read_push_self w.maps b
  rw [Fits, behind]
  refine ⟨?_, held.symm ▸ typed⟩
  change w.maps.size < (w.maps.push b).size
  rw [Heap.size_push]
  exact Nat.lt_succ_self _

theorem Fitting.list {l : ListId} (fitting : w.Fitting) (held : w.backing v = .list l) :
    l.index < w.lists.size ∧ (w.list l).element.same ((w.ty v).element?.getD .noType) = true := by
  have fits := fitting v
  rw [Fits, show (w.cell v).backing = .list l from held] at fits
  exact fits

theorem Fitting.set {s : SetId} (fitting : w.Fitting) (held : w.backing v = .set s) :
    s.index < w.sets.size ∧ (w.set s).element.same ((w.ty v).element?.getD .noType) = true := by
  have fits := fitting v
  rw [Fits, show (w.cell v).backing = .set s from held] at fits
  exact fits

theorem Fitting.map {m : MapId} (fitting : w.Fitting) (held : w.backing v = .map m) :
    m.index < w.maps.size ∧ (w.map m).key.same ((w.ty v).key?.getD .noType) = true ∧
      (w.map m).element.same ((w.ty v).element?.getD .noType) = true := by
  have fits := fitting v
  rw [Fits, show (w.cell v).backing = .map m from held] at fits
  exact fits

theorem Fitting.mutable {p : Payload} {space : SpaceId} (fitting : w.Fitting)
    (held : w.backing v = .aggregate p space) : (w.cell v).mutable = true := by
  have fits := fitting v
  rw [Fits, show (w.cell v).backing = .aggregate p space from held] at fits
  exact fits

theorem Fitting.mutable_of_family (fitting : w.Fitting) (family : w.family v = .aggregate) :
    (w.cell v).mutable = true := by
  cases held : w.backing v with
  | aggregate p space => exact fitting.mutable held
  | _ =>
      rw [World.family, held] at family
      cases family

structure KeepsTypes (u w : World E) : Prop where
  lists : ∀ l : ListId, l.index < u.lists.size →
    l.index < w.lists.size ∧ (w.list l).element = (u.list l).element
  sets : ∀ s : SetId, s.index < u.sets.size →
    s.index < w.sets.size ∧ (w.set s).element = (u.set s).element
  maps : ∀ m : MapId, m.index < u.maps.size →
    m.index < w.maps.size ∧ (w.map m).key = (u.map m).key ∧ (w.map m).element = (u.map m).element

theorem keepsTypes_refl (w : World E) : KeepsTypes w w :=
  ⟨fun _ there => ⟨there, rfl⟩, fun _ there => ⟨there, rfl⟩, fun _ there => ⟨there, rfl, rfl⟩⟩

theorem KeepsTypes.of_change (changed : Change P u w) : KeepsTypes u w := by
  cases changed with
  | addList b =>
      refine { keepsTypes_refl u with lists := fun l there => ?_ }
      obtain ⟨still, same⟩ := Heap.kept_push l.index u.lists b there
      exact ⟨still, congrArg ListBox.element same⟩
  | addSet b =>
      refine { keepsTypes_refl u with sets := fun s there => ?_ }
      obtain ⟨still, same⟩ := Heap.kept_push s.index u.sets b there
      exact ⟨still, congrArg SetBox.element same⟩
  | addMap b =>
      refine { keepsTypes_refl u with maps := fun m there => ?_ }
      obtain ⟨still, same⟩ := Heap.kept_push m.index u.maps b there
      exact ⟨still, congrArg MapBox.key same, congrArg MapBox.element same⟩
  | writeList k b permitted element =>
      refine { keepsTypes_refl u with lists := fun l there => ⟨?_, ?_⟩ }
      · exact (Heap.size_write u.lists k.index b).symm ▸ there
      · change ((u.lists.write k.index b).read l.index).element = (u.list l).element
        rw [Heap.read_write]
        split
        · rename_i here
          rw [element, World.list, World.list, here.1]
        · rfl
  | writeSet k b permitted element =>
      refine { keepsTypes_refl u with sets := fun s there => ⟨?_, ?_⟩ }
      · exact (Heap.size_write u.sets k.index b).symm ▸ there
      · change ((u.sets.write k.index b).read s.index).element = (u.set s).element
        rw [Heap.read_write]
        split
        · rename_i here
          rw [element, World.set, World.set, here.1]
        · rfl
  | writeMap k b permitted key element =>
      refine { keepsTypes_refl u with maps := fun m there => ⟨?_, ?_⟩ }
      · exact (Heap.size_write u.maps k.index b).symm ▸ there
      · change ((u.maps.write k.index b).read m.index).key = (u.map m).key ∧
          ((u.maps.write k.index b).read m.index).element = (u.map m).element
        rw [Heap.read_write]
        split
        · rename_i here
          rw [key, element, World.map, World.map, here.1]
          exact ⟨rfl, rfl⟩
        · exact ⟨rfl, rfl⟩
  | _ => exact ⟨(keepsTypes_refl u).lists, (keepsTypes_refl u).sets, (keepsTypes_refl u).maps⟩

theorem Fits.of_kept (fits : u.Fits c) (kept : KeepsTypes u w) : w.Fits c := by
  rw [Fits] at fits ⊢
  split at fits
  · exact fits
  · rename_i l _
    obtain ⟨there, element⟩ := kept.lists l fits.1
    exact ⟨there, element ▸ fits.2⟩
  · rename_i s _
    obtain ⟨there, element⟩ := kept.sets s fits.1
    exact ⟨there, element ▸ fits.2⟩
  · rename_i m _
    obtain ⟨there, key, element⟩ := kept.maps m fits.1
    exact ⟨there, key ▸ fits.2.1, element ▸ fits.2.2⟩
  · trivial

theorem fits_default (w : World E) : w.Fits default := trivial

theorem Fitting.addCell (fitting : w.Fitting) (fits : w.Fits c) : (w.addCell c).2.Fitting := by
  intro v
  rw [cell_addCell]
  split
  · exact fits
  · exact fitting v

theorem Fitting.writeCell (fitting : w.Fitting) (fits : w.Fits c) : (w.writeCell v c).Fitting := by
  intro x
  rw [cell_writeCell]
  split
  · exact fits
  · exact fitting x

theorem Fitting.change (fitting : u.Fitting) (changed : Change P u w) : w.Fitting := by
  have kept := KeepsTypes.of_change changed
  cases changed with
  | addCell c bare shared fits => exact fitting.addCell (fits fitting)
  | addAggregate c behind bare made fits =>
      refine fitting.addCell (c := c) ?_
      rw [Fits, behind]
      exact fits fitting
  | setBacking v b family writable home fits => exact fitting.writeCell (fits fitting)
  | setDirty v => exact fitting.writeCell (fitting v)
  | setTranslated v space => exact fitting.writeCell (fitting v)
  | _ => exact fun v => (fitting v).of_kept kept

theorem fitting_initial (maxDepth : Nat) (outside : E) :
    (World.initial maxDepth outside).Fitting := by
  intro v
  rw [World.cell, World.initial, Heap.read_push, Heap.read_push]
  split
  · trivial
  · split
    · trivial
    · rw [Heap.read_beyond _ (Nat.zero_le _)]
      exact fits_default _

end World

end ScriptValues
