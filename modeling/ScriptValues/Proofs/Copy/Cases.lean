import ScriptValues.Proofs.World.Change
import ScriptValues.Value.DeepCopy

/-! One step of a copy, for each family of values, and the loops over items and entries. -/

namespace ScriptValues

variable {E : Type}

namespace World

def duplicate (w : World E) (v : Value) (b : Backing E) : Value × World E :=
  w.addCell { w.cell v with backing := b, translated := none }

/-- The copy of an aggregate before its members are copied: it is bound to its own name. -/
def duplicateInto (w : World E) (v : Value) (p : Payload) (space : SpaceId) : Value × World E :=
  let (copy, w) := w.duplicate v (.aggregate p space)
  (copy, w.withArena (w.arena.bind space selfName copy).2)

end World

open World

variable {bound : Nat} {v : Value} {w : World E}

theorem deepCopyWithin_absent (held : w.backing v = .absent) :
    deepCopyWithin (bound + 1) v w = (.ok v, w) := by
  rw [deepCopyWithin, Step.bind_apply, Step.get_apply]
  simp only [held]
  rfl

/-- The parent of the copy's space is that of the original's space. -/
theorem deepCopyWithin_aggregate {p : Payload} {space : SpaceId}
    (held : w.backing v = .aggregate p space) :
    deepCopyWithin (bound + 1) v w =
      match Step.newSpace ((w.arena.space? space).bind (·.parent)) w with
      | (.error fault, u) => (.error fault, u)
      | (.ok id, u) =>
          match copyMembers (deepCopyWithin bound) id (w.arena.bindings space).rows
              (u.duplicateInto v p id).2 with
          | (.error fault, x) => (.error fault, x)
          | (.ok _, x) => (.ok (u.duplicateInto v p id).1, x) := by
  rw [deepCopyWithin, Step.bind_apply, Step.get_apply]
  simp only [held]
  rw [Step.bind_apply]
  rcases Step.newSpace ((w.arena.space? space).bind (·.parent)) w with ⟨_ | id, u⟩
  · rfl
  · change ((copyMembers (deepCopyWithin bound) id (w.arena.bindings space).rows >>= fun _ =>
      pure (u.duplicateInto v p id).1 : Step E Value) (u.duplicateInto v p id).2) = _
    rw [Step.bind_apply]
    dsimp only
    rcases copyMembers (deepCopyWithin bound) id (w.arena.bindings space).rows
      (u.duplicateInto v p id).2 with ⟨_ | _, x⟩
    · rfl
    · rfl

theorem deepCopyWithin_list {l : ListId} (held : w.backing v = .list l) :
    deepCopyWithin (bound + 1) v w =
      match (w.list l).items.mapM (deepCopyWithin bound) w with
      | (.error fault, u) => (.error fault, u)
      | (.ok items, u) =>
          let made := u.addList { w.list l with items }
          (.ok (made.2.duplicate v (.list made.1)).1, (made.2.duplicate v (.list made.1)).2) := by
  rw [deepCopyWithin, Step.bind_apply, Step.get_apply]
  simp only [held]
  rw [Step.bind_apply]
  rcases (w.list l).items.mapM (deepCopyWithin bound) w with ⟨_ | items, u⟩
  · rfl
  · rfl

theorem deepCopyWithin_set {s : SetId} (held : w.backing v = .set s) :
    deepCopyWithin (bound + 1) v w =
      match copyItems (deepCopyWithin bound) (w.set s).items (w.set s).cleared w with
      | (.error fault, u) => (.error fault, u)
      | (.ok box, u) =>
          let made := u.addSet box
          (.ok (made.2.duplicate v (.set made.1)).1, (made.2.duplicate v (.set made.1)).2) := by
  rw [deepCopyWithin, Step.bind_apply, Step.get_apply]
  simp only [held]
  rw [Step.bind_apply]
  rcases copyItems (deepCopyWithin bound) (w.set s).items (w.set s).cleared w with ⟨_ | box, u⟩
  · rfl
  · rfl

theorem deepCopyWithin_map {m : MapId} (held : w.backing v = .map m) :
    deepCopyWithin (bound + 1) v w =
      match copyEntries (deepCopyWithin bound) (w.map m).entries (w.map m).cleared w with
      | (.error fault, u) => (.error fault, u)
      | (.ok box, u) =>
          let made := u.addMap box
          (.ok (made.2.duplicate v (.map made.1)).1, (made.2.duplicate v (.map made.1)).2) := by
  rw [deepCopyWithin, Step.bind_apply, Step.get_apply]
  simp only [held]
  rw [Step.bind_apply]
  rcases copyEntries (deepCopyWithin bound) (w.map m).entries (w.map m).cleared w with ⟨_ | box, u⟩
  · rfl
  · rfl

def Backing.plain : Backing E → Bool
  | .absent | .aggregate _ _ | .list _ | .set _ | .map _ => false
  | _ => true

theorem deepCopyWithin_plain (held : (w.backing v).plain = true) :
    deepCopyWithin (bound + 1) v w =
      (.ok (w.duplicate v (w.backing v)).1, (w.duplicate v (w.backing v)).2) := by
  rw [deepCopyWithin, Step.bind_apply, Step.get_apply]
  cases kind : w.backing v with
  | absent | aggregate | list | set | map =>
      rw [kind] at held
      cases held
  | _ =>
      simp only [kind]
      rfl

section Loops

open Step

variable {R : World E → World E → Prop}

theorem within_copyItems (composes : Composes R) {copy : Value → Step E Value}
    (each : ∀ v, Within R (copy v)) (items : List Value) (box : SetBox) :
    Within R (copyItems copy items box) := by
  induction items generalizing box with
  | nil => exact within_pure composes box
  | cons item rest ih =>
      apply within_bind composes (each item)
      intro v
      exact within_get_bind (fun w => ih _ w)

theorem within_copyEntries (composes : Composes R) {copy : Value → Step E Value}
    (each : ∀ v, Within R (copy v)) (entries : List (Value × Value)) (box : MapBox) :
    Within R (copyEntries copy entries box) := by
  induction entries generalizing box with
  | nil => exact within_pure composes box
  | cons entry rest ih =>
      apply within_bind composes (each entry.1)
      intro key
      apply within_bind composes (each entry.2)
      intro element
      exact within_get_bind (fun w => ih _ w)

theorem within_copyMembers (composes : Composes R) {copy : Value → Step E Value} {space : SpaceId}
    (bound : ∀ name v, Within R (bindName space name v)) (each : ∀ v, Within R (copy v))
    (members : List (String × Value)) : Within R (copyMembers copy space members) := by
  induction members with
  | nil => exact within_pure composes ()
  | cons entry rest ih =>
      rw [copyMembers]
      by_cases self : entry.1 = selfName
      · simp only [self, if_true]
        exact ih
      · simp only [self, if_false]
        apply within_bind composes (each entry.2)
        intro v
        exact within_bind composes (bound entry.1 v) (fun _ => ih)

theorem copyItems_sound {copy : Value → Step E Value} {items : List Value} {box made : SetBox}
    {w u : World E} (sound : box.Sound) (done : copyItems copy items box w = (.ok made, u)) :
    made.Sound := by
  induction items generalizing box w with
  | nil =>
      cases done
      exact sound
  | cons item rest ih =>
      obtain ⟨v, x, _, done⟩ := ok_of_bind done
      exact ih (sound.add v (x.payload v)) done

theorem copyEntries_sound {copy : Value → Step E Value} {entries : List (Value × Value)}
    {box made : MapBox} {w u : World E} (sound : box.Sound)
    (done : copyEntries copy entries box w = (.ok made, u)) : made.Sound := by
  induction entries generalizing box w with
  | nil =>
      cases done
      exact sound
  | cons entry rest ih =>
      obtain ⟨key, x, _, done⟩ := ok_of_bind done
      obtain ⟨element, y, _, done⟩ := ok_of_bind done
      exact ih (sound.add key element (y.payload key)) done

end Loops

end ScriptValues
