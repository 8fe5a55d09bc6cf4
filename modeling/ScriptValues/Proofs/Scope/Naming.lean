import ScriptValues.Proofs.Scope.Sound

/-! The bindings that outlive a move of the arena.

Only an explicit rebinding or unbinding takes a name away from what it stands for in a live space.
The shared space is the exception: it is emptied each time it is lent. -/

namespace ScriptValues

namespace Arena

variable {a b : Arena} {id : SpaceId} {name : String} {P : SpaceId → String → Prop}

/-- What the name stands for in the space it goes on to stand for, as long as the space is live. -/
def KeepsName (a b : Arena) (id : SpaceId) (name : String) : Prop :=
  a.selfSpace ≠ some id → b.contains id = true →
    ∀ v, a.lookupLocal id name = some v → b.lookupLocal id name = some v

theorem keepsName_of_bindings
    (kept : a.selfSpace ≠ some id → ∀ s t, a.space? id = some s → b.space? id = some t →
      ∀ v, s.bindings.get? name = some v → t.bindings.get? name = some v) :
    a.KeepsName b id name := by
  intro other live v bound
  obtain ⟨t, found⟩ := (contains_iff b id).mp live
  rw [lookupLocal] at bound ⊢
  cases held : a.space? id with
  | none =>
      rw [held] at bound
      cases bound
  | some s =>
      rw [held] at bound
      rw [found]
      exact kept other s t held found v bound

theorem keepsName_of_trimmed (fewer : ∀ t, b.space? id = some t → a.space? id = some t) :
    a.KeepsName b id name := by
  apply keepsName_of_bindings
  intro _ s t held found v bound
  rw [fewer t found] at held
  cases held
  exact bound

theorem keepsName_refl (a : Arena) (id : SpaceId) (name : String) : a.KeepsName a id name :=
  fun _ _ _ bound => bound

theorem keepsName_writeBindings {x : SpaceId} {r : Space} (live : a.space? x = some r)
    {bindings : Table Value}
    (kept : x = id → ∀ v, r.bindings.get? name = some v → bindings.get? name = some v) :
    a.KeepsName (a.writeSlot x (some { r with bindings })) id name := by
  apply keepsName_of_bindings
  intro _ s t held found v bound
  rw [space?_writeSlot_live a live] at found
  split at found
  · rename_i same
    subst same
    rw [live] at held
    cases held
    cases found
    exact kept rfl v bound
  · rw [held] at found
    cases found
    exact bound

theorem keepsName_allocate (a : Arena) (parent : Option SpaceId) (depth : Nat) :
    a.KeepsName (a.allocate parent depth).2 id name := by
  apply keepsName_of_bindings
  intro _ s t held found v bound
  rw [space?_allocate, if_neg (Nat.ne_of_lt (allocated_of_space? a held)), held] at found
  cases found
  exact bound

theorem keepsName_newSpace {parent : Option SpaceId} {x : SpaceId}
    (made : a.newSpace parent = .ok (x, b)) : a.KeepsName b id name := by
  rcases newSpace_cases made with ⟨_, fresh⟩ | ⟨p, s, _, _, _, fresh⟩
  · cases fresh
    exact keepsName_allocate a none 0
  · cases fresh
    exact keepsName_allocate a (some p) (s.depth + 1)

theorem keepsName_bind (a : Arena) (x : SpaceId) (other : String) (v : Value) :
    a.KeepsName (a.bind x other v).2 id name := by
  rw [Arena.bind]
  cases writable : a.writable? x with
  | none => exact keepsName_refl a id name
  | some r =>
      dsimp only
      split
      · exact keepsName_refl a id name
      · rename_i free
        apply keepsName_writeBindings (writable?_eq_some a writable).2
        intro _ u bound
        have apart : name ≠ other := by
          intro same
          rw [same] at bound
          exact free (by rw [Table.contains, bound]; rfl)
        rw [Table.get?_insert_other _ _ apart]
        exact bound

theorem keepsName_rebind (a : Arena) {x : SpaceId} {other : String} (v : Value)
    (apart : ¬ (x = id ∧ other = name)) : a.KeepsName (a.rebind x other v).2 id name := by
  rw [Arena.rebind]
  cases writable : a.writable? x with
  | none => exact keepsName_refl a id name
  | some r =>
      apply keepsName_writeBindings (writable?_eq_some a writable).2
      intro here u bound
      rw [Table.get?_insert_other _ _ fun same => apart ⟨here, same.symm⟩]
      exact bound

theorem keepsName_unbind (a : Arena) {x : SpaceId} {other : String}
    (apart : ¬ (x = id ∧ other = name)) : a.KeepsName (a.unbind x other).2 id name := by
  rw [Arena.unbind]
  cases live : a.space? x with
  | none => exact keepsName_refl a id name
  | some r =>
      apply keepsName_writeBindings live
      intro here u bound
      rw [Table.get?_erase_other _ fun same => apart ⟨here, same.symm⟩]
      exact bound

theorem keepsName_free (a : Arena) (x : SpaceId) : a.KeepsName (a.free x).2 id name := by
  rw [Arena.free]
  split
  · exact keepsName_refl a id name
  · apply keepsName_of_trimmed
    intro t found
    rw [space?_writeSlot_none] at found
    split at found
    · cases found
    · exact found

theorem keepsName_freeSubtree (a : Arena) (x : SpaceId) :
    a.KeepsName (a.freeSubtree x).2 id name := by
  by_cases freeable : a.freeable x = true
  · apply keepsName_of_trimmed
    intro t found
    rw [space?_freeSubtree a freeable] at found
    split at found
    · cases found
    · exact found
  · rw [freeSubtree_of_not_freeable a (Bool.eq_false_iff.mpr freeable)]
    exact keepsName_refl a id name

theorem space?_lendSharedSpace (a : Arena) (v : Value) (other : a.selfSpace ≠ some id)
    (known : a.Allocated id) : (a.lendSharedSpace v).2.space? id = a.space? id := by
  have shared : a.sharedSpace.1 ≠ id ∧ a.sharedSpace.2.space? id = a.space? id := by
    rw [sharedSpace]
    cases current : a.selfSpace.filter a.contains with
    | some x =>
        refine ⟨fun same => other ?_, rfl⟩
        rw [(Option.filter_eq_some_iff.mp current).1, ← same]
    | none =>
        have old : id.index ≠ a.slots.size := Nat.ne_of_lt known
        refine ⟨fun same => old (congrArg SpaceId.index same.symm), ?_⟩
        change (a.allocate none 0).2.space? id = a.space? id
        rw [space?_allocate, if_neg old]
  rw [lendSharedSpace]
  dsimp only
  split
  · exact shared.2
  · rw [space?_writeSlot, if_neg fun here => shared.1 here.1]
    exact shared.2

theorem keepsName_lend (a : Arena) (v : Value) : a.KeepsName (a.lendSharedSpace v).2 id name := by
  apply keepsName_of_bindings
  intro other s t held found u bound
  rw [space?_lendSharedSpace a v other (allocated_of_space? a held), held] at found
  cases found
  exact bound

structure Shift (P : SpaceId → String → Prop) (a b : Arena) : Prop where
  move : a.Move b
  names : ∀ id name, a.KeepsName b id name ∨ P id name

namespace Shift

theorem newSpace {parent : Option SpaceId} (made : a.newSpace parent = .ok (id, b)) :
    a.Shift P b :=
  ⟨.newSpace made, fun _ _ => .inl (keepsName_newSpace made)⟩

theorem bind (id : SpaceId) (name : String) (v : Value) : a.Shift P (a.bind id name v).2 :=
  ⟨.bind id name v, fun _ _ => .inl (keepsName_bind a id name v)⟩

theorem rebind (id : SpaceId) (name : String) (v : Value) (permitted : P id name) :
    a.Shift P (a.rebind id name v).2 := by
  refine ⟨.rebind id name v, fun x other => ?_⟩
  by_cases here : id = x ∧ name = other
  · exact .inr (here.1 ▸ here.2 ▸ permitted)
  · exact .inl (keepsName_rebind a v here)

theorem unbind (id : SpaceId) (name : String) (permitted : P id name) :
    a.Shift P (a.unbind id name).2 := by
  refine ⟨.unbind id name, fun x other => ?_⟩
  by_cases here : id = x ∧ name = other
  · exact .inr (here.1 ▸ here.2 ▸ permitted)
  · exact .inl (keepsName_unbind a here)

theorem free (id : SpaceId) : a.Shift P (a.free id).2 :=
  ⟨.free id, fun _ _ => .inl (keepsName_free a id)⟩

theorem freeSubtree (id : SpaceId) : a.Shift P (a.freeSubtree id).2 :=
  ⟨.freeSubtree id, fun _ _ => .inl (keepsName_freeSubtree a id)⟩

theorem lend (v : Value) : a.Shift P (a.lendSharedSpace v).2 :=
  ⟨.lend v, fun _ _ => .inl (keepsName_lend a v)⟩

end Shift

theorem space?_of_newSpace {parent : Option SpaceId} (made : a.newSpace parent = .ok (id, b)) :
    id.index = a.slots.size ∧ b.selfSpace = a.selfSpace ∧
      ∃ s, b.space? id = some s ∧ s.bindings = Table.empty := by
  have fresh : ∀ parent depth, (a.allocate parent depth).2.space? ⟨a.slots.size⟩ =
      some ⟨Table.empty, parent, depth⟩ := by
    intro parent depth
    rw [space?_allocate, if_pos rfl]
  rcases newSpace_cases made with ⟨_, same⟩ | ⟨p, s, _, _, _, same⟩
  · cases same
    exact ⟨rfl, rfl, _, fresh none 0, rfl⟩
  · cases same
    exact ⟨rfl, rfl, _, fresh (some p) (s.depth + 1), rfl⟩

theorem lookupLocal_bind {s : Space} (live : a.space? id = some s) (other : id ≠ SpaceId.empty)
    (free : s.bindings.contains name = false) (v : Value) :
    (a.bind id name v).2.lookupLocal id name = some v := by
  have writable : a.writable? id = some s := by rw [writable?, if_neg other, live]
  simp only [Arena.bind, writable, free, Bool.false_eq_true, if_false]
  rw [lookupLocal, space?_writeSlot_live a live, if_pos rfl]
  exact Table.get?_insert_self _ _ _

theorem selfSpace_of_move (move : a.Move b) (shared : b.selfSpace = some id) :
    a.selfSpace = some id ∨ ¬ a.Allocated id := by
  rcases trims_of_move move with trims | ⟨_, _, _, same | new, trims⟩
  · exact .inl (trims.selfSpace.symm.trans shared)
  · exact .inl (same.symm.trans (trims.selfSpace.symm.trans shared))
  · cases new.symm.trans (trims.selfSpace.symm.trans shared)
    exact .inr (Nat.lt_irrefl _)

theorem Trims.live (trims : Trims a b) (live : b.contains id = true) : a.contains id = true := by
  obtain ⟨t, found⟩ := (contains_iff b id).mp live
  obtain ⟨s, held, _⟩ := trims.places id t found
  exact (contains_iff a id).mpr ⟨s, held⟩

theorem live_of_move (move : a.Move b) (known : a.Allocated id) (live : b.contains id = true) :
    a.contains id = true := by
  rcases trims_of_move move with trims | ⟨parent, depth, _, _, trims⟩
  · exact trims.live live
  · have there : (a.allocate parent depth).2.contains id = true := trims.live live
    rw [contains, space?_allocate, if_neg (Nat.ne_of_lt known)] at there
    exact there

end Arena

end ScriptValues
