import ScriptValues.Proofs.Scope.Chain

/-! Changes of bindings, and the lookups that cannot see them.

Binding a name changes neither which spaces are live nor how they hang, so a lookup whose chain keeps
clear of the changed spaces finds what it found before. -/

namespace ScriptValues

namespace Arena

variable {a b : Arena}

inductive Rebinds (a : Arena) (id : SpaceId) : Arena → Prop
  | bind (name : String) (v : Value) : Rebinds a id (a.bind id name v).2
  | rebind (name : String) (v : Value) : Rebinds a id (a.rebind id name v).2
  | unbind (name : String) : Rebinds a id (a.unbind id name).2

/-- Changes of bindings, one after another, in spaces with the property. -/
def RebindsIn (spaces : SpaceId → Prop) : Arena → Arena → Prop :=
  Relation.ReflTransGen fun a b => ∃ id, spaces id ∧ a.Rebinds id b

theorem place_writeBindings {id : SpaceId} {s : Space} (live : a.space? id = some s)
    (bindings : Table Value) (x : SpaceId) :
    ((a.writeSlot id (some { s with bindings })).space? x).map Space.place =
      (a.space? x).map Space.place := by
  rw [space?_writeSlot_live a live]
  by_cases same : id = x
  · subst same
    rw [if_pos rfl, live]
    rfl
  · rw [if_neg same]

theorem Rebinds.other {id x : SpaceId} (changed : a.Rebinds id b) (apart : x ≠ id) :
    b.space? x = a.space? x := by
  have written : ∀ slot, (a.writeSlot id slot).space? x = a.space? x := by
    intro slot
    rw [space?_writeSlot, if_neg (fun hit => apart hit.1.symm)]
  cases changed with
  | bind name v =>
      rw [Arena.bind]
      split
      · rfl
      · split
        · rfl
        · exact written _
  | rebind name v =>
      rw [Arena.rebind]
      split
      · rfl
      · exact written _
  | unbind name =>
      rw [Arena.unbind]
      split
      · rfl
      · exact written _

theorem Rebinds.place {id : SpaceId} (changed : a.Rebinds id b) (x : SpaceId) :
    (b.space? x).map Space.place = (a.space? x).map Space.place := by
  cases changed with
  | bind name v =>
      rw [Arena.bind]
      split
      · rfl
      · rename_i s writable
        split
        · rfl
        · exact place_writeBindings (writable?_eq_some a writable).2 _ x
  | rebind name v =>
      rw [Arena.rebind]
      split
      · rfl
      · rename_i s writable
        exact place_writeBindings (writable?_eq_some a writable).2 _ x
  | unbind name =>
      rw [Arena.unbind]
      split
      · rfl
      · rename_i s live
        exact place_writeBindings live _ x

theorem Rebinds.chain {id : SpaceId} (changed : a.Rebinds id b) (x : SpaceId) :
    b.chain x = a.chain x := by
  refine chain_congr a ?_ ?_
  · intro y _ dead
    have same := changed.place y
    rw [dead, Option.map_none, Option.map_eq_none_iff] at same
    exact same
  · intro y _
    have same := congrArg (Option.map Prod.fst) (changed.place y)
    rw [Option.map_map, Option.map_map] at same
    exact same

theorem RebindsIn.lookup {spaces : SpaceId → Prop} (changed : RebindsIn spaces a b) {id : SpaceId}
    (clear : ∀ x ∈ a.chain id, ¬ spaces x) (name : String) :
    b.lookup id name = a.lookup id name := by
  have both : b.chain id = a.chain id ∧ b.lookup id name = a.lookup id name := by
    induction changed with
    | refl => exact ⟨rfl, rfl⟩
    | tail _ step ih =>
        obtain ⟨target, inside, change⟩ := step
        refine ⟨(change.chain id).trans ih.1, ?_⟩
        rename_i b c _
        calc
          c.lookup id name = b.lookup id name := by
            apply lookup_congr _ (change.chain id)
            intro x member
            rw [ih.1] at member
            have apart : x ≠ target := fun same => clear x member (same ▸ inside)
            simp only [lookupLocal, change.other apart]
          _ = a.lookup id name := ih.2
  exact both.2

end Arena

end ScriptValues
