import ScriptValues.Proofs.World.Run

/-! Sets and maps are sound in every run, and stay as they are while nothing writes to them. -/

namespace ScriptValues

namespace World

variable {E : Type} {P : Deed → Prop} {u w : World E}

structure BoxesSound (w : World E) : Prop where
  sets : ∀ s, (w.set s).Sound
  maps : ∀ m, (w.map m).Sound

theorem boxesSound_initial (maxDepth : Nat) (outside : E) :
    (World.initial maxDepth outside).BoxesSound where
  sets s := by
    have empty : (World.initial maxDepth outside).set s = default :=
      Heap.read_beyond _ (Nat.zero_le _)
    rw [empty]
    exact (SetBox.records_new default).sound
  maps m := by
    have empty : (World.initial maxDepth outside).map m = default :=
      Heap.read_beyond _ (Nat.zero_le _)
    rw [empty]
    exact (MapBox.records_new default default).sound

theorem BoxesSound.change (boxes : u.BoxesSound) (changed : Change P u w) : w.BoxesSound := by
  cases changed with
  | addSet b sound =>
      refine ⟨fun t => ?_, boxes.maps⟩
      change ((u.sets.push b).read t.index).Sound
      rw [Heap.read_push]
      split
      · exact sound
      · exact boxes.sets t
  | writeSet s b permitted element sound =>
      refine ⟨fun t => ?_, boxes.maps⟩
      change ((u.sets.write s.index b).read t.index).Sound
      rw [Heap.read_write]
      split
      · exact sound (boxes.sets s)
      · exact boxes.sets t
  | addMap b sound =>
      refine ⟨boxes.sets, fun n => ?_⟩
      change ((u.maps.push b).read n.index).Sound
      rw [Heap.read_push]
      split
      · exact sound
      · exact boxes.maps n
  | writeMap m b permitted key element sound =>
      refine ⟨boxes.sets, fun n => ?_⟩
      change ((u.maps.write m.index b).read n.index).Sound
      rw [Heap.read_write]
      split
      · exact sound (boxes.maps m)
      · exact boxes.maps n
  | _ => exact ⟨boxes.sets, boxes.maps⟩

theorem tracks_boxesSound :
    Tracks Deed.any (fun u w : World E => u.BoxesSound → w.BoxesSound) where
  refl _ boxes := boxes
  trans first second boxes := second (first boxes)
  change changed boxes := boxes.change changed

theorem boxesSound_after {embedding : Embedding E}
    (kept : embedding.Within fun u w => u.BoxesSound → w.BoxesSound) (maxDepth : Nat) (outside : E)
    (operations : List (Operation E)) :
    ((World.initial maxDepth outside).after embedding operations).BoxesSound :=
  after_within tracks_boxesSound kept operations _ (boxesSound_initial maxDepth outside)

def KeepsBox (c : Container) (u w : World E) : Prop :=
  match c with
  | .list l => u.lists.Kept l.index w.lists
  | .set s => u.sets.Kept s.index w.sets
  | .map m => u.maps.Kept m.index w.maps

theorem keepsBox_refl (c : Container) (w : World E) : KeepsBox c w w := by
  cases c <;> exact Heap.kept_refl _ _

theorem KeepsBox.trans {c : Container} {x : World E} (first : KeepsBox c u w)
    (second : KeepsBox c w x) : KeepsBox c u x := by
  cases c <;> exact Heap.Kept.trans first second

theorem KeepsBox.of_change {c : Container} (changed : Change (· ≠ .fill c) u w) : KeepsBox c u w := by
  cases changed with
  | addList b =>
      cases c with
      | list l => exact Heap.kept_push l.index u.lists b
      | _ => exact Heap.kept_refl _ _
  | addSet b sound =>
      cases c with
      | set s => exact Heap.kept_push s.index u.sets b
      | _ => exact Heap.kept_refl _ _
  | addMap b sound =>
      cases c with
      | map m => exact Heap.kept_push m.index u.maps b
      | _ => exact Heap.kept_refl _ _
  | writeList k b permitted element =>
      cases c with
      | list l =>
          refine Heap.kept_write (fun same => permitted ?_) u.lists b
          cases k
          cases l
          exact congrArg (Deed.fill <| Container.list ⟨·⟩) same
      | _ => exact Heap.kept_refl _ _
  | writeSet t b permitted element sound =>
      cases c with
      | set s =>
          refine Heap.kept_write (fun same => permitted ?_) u.sets b
          cases t
          cases s
          exact congrArg (Deed.fill <| Container.set ⟨·⟩) same
      | _ => exact Heap.kept_refl _ _
  | writeMap n b permitted key element sound =>
      cases c with
      | map m =>
          refine Heap.kept_write (fun same => permitted ?_) u.maps b
          cases n
          cases m
          exact congrArg (Deed.fill <| Container.map ⟨·⟩) same
      | _ => exact Heap.kept_refl _ _
  | _ => exact keepsBox_refl c _

theorem tracks_keepsBox (c : Container) : Tracks (· ≠ .fill c) (KeepsBox (E := E) c) where
  refl := keepsBox_refl c
  trans := KeepsBox.trans
  change := KeepsBox.of_change

end World

end ScriptValues
