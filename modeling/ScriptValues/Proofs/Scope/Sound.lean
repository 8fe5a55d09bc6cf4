import ScriptValues.Proofs.Scope.Chain

/-! The invariant of the arena, and the moves that keep it.

Every change of an arena is a sequence of moves, and each move keeps the forest of scopes in order.
In an arena that is in order, the two loops over parents end after no more live spaces than the
depth limit allows, and they find what `lookup` and `chain` say. -/

namespace ScriptValues

namespace Arena

variable {a b : Arena}

/-- The forest of scopes is in order. A parent that was freed may be left dangling. -/
structure Sound (a : Arena) : Prop where
  emptySpace : a.space? SpaceId.empty = some ⟨Table.empty, none, 0⟩
  bounded : ∀ id s, a.space? id = some s → s.depth ≤ a.maxDepth
  root : ∀ id s, a.space? id = some s → (s.depth = 0 ↔ s.parent = none)
  older : ∀ id s parent, a.space? id = some s → s.parent = some parent → parent.index < id.index
  deeper : ∀ id s parent above, a.space? id = some s → s.parent = some parent →
    a.space? parent = some above → s.depth = above.depth + 1
  shared : ∀ id, a.selfSpace = some id → a.Allocated id ∧ id ≠ SpaceId.empty ∧
    ∀ s, a.space? id = some s → s.parent = none

inductive Move (a : Arena) : Arena → Prop
  | newSpace {parent : Option SpaceId} {id : SpaceId} {b : Arena}
      (made : a.newSpace parent = .ok (id, b)) : Move a b
  | bind (id : SpaceId) (name : String) (v : Value) : Move a (a.bind id name v).2
  | rebind (id : SpaceId) (name : String) (v : Value) : Move a (a.rebind id name v).2
  | unbind (id : SpaceId) (name : String) : Move a (a.unbind id name).2
  | free (id : SpaceId) : Move a (a.free id).2
  | freeSubtree (id : SpaceId) : Move a (a.freeSubtree id).2
  | lend (v : Value) : Move a (a.lendSharedSpace v).2

def Evolves : Arena → Arena → Prop := Relation.ReflTransGen Move

theorem evolves_refl (a : Arena) : a.Evolves a := Relation.ReflTransGen.refl

theorem evolves_of_move (move : Move a b) : a.Evolves b := Relation.ReflTransGen.single move

theorem evolves_trans {c : Arena} (first : a.Evolves b) (second : b.Evolves c) : a.Evolves c :=
  Relation.ReflTransGen.trans first second

structure Trims (a b : Arena) : Prop where
  size : b.slots.size = a.slots.size
  selfSpace : b.selfSpace = a.selfSpace
  maxDepth : b.maxDepth = a.maxDepth
  places : ∀ id t, b.space? id = some t → ∃ s, a.space? id = some s ∧ s.place = t.place

theorem trims_writeBindings {id : SpaceId} {s : Space} (live : a.space? id = some s)
    (bindings : Table Value) : Trims a (a.writeSlot id (some { s with bindings })) := by
  refine ⟨writeSlot_size a id _, rfl, rfl, ?_⟩
  intro x t found
  rw [space?_writeSlot_live a live] at found
  by_cases same : id = x
  · rw [if_pos same] at found
    subst same
    exact ⟨s, live, by cases found; rfl⟩
  · rw [if_neg same] at found
    exact ⟨t, found, rfl⟩

theorem trims_writeNone (id : SpaceId) : Trims a (a.writeSlot id none) := by
  refine ⟨writeSlot_size a id _, rfl, rfl, ?_⟩
  intro x t found
  rw [space?_writeSlot_none] at found
  by_cases same : id = x
  · rw [if_pos same] at found
    cases found
  · rw [if_neg same] at found
    exact ⟨t, found, rfl⟩

theorem trims_freeSubtree (a : Arena) (id : SpaceId) : Trims a (a.freeSubtree id).2 := by
  refine ⟨freeSubtree_size a id, (freeSubtree_shared a id).1, (freeSubtree_shared a id).2, ?_⟩
  intro x t found
  by_cases freeable : a.freeable id = true
  · rw [space?_freeSubtree a freeable] at found
    split at found
    · cases found
    · exact ⟨t, found, rfl⟩
  · rw [freeSubtree_of_not_freeable a (Bool.eq_false_iff.mpr freeable)] at found
    exact ⟨t, found, rfl⟩

theorem trims_refl (a : Arena) : Trims a a := ⟨rfl, rfl, rfl, fun _ t found => ⟨t, found, rfl⟩⟩

theorem trims_bind (a : Arena) (id : SpaceId) (name : String) (v : Value) :
    Trims a (a.bind id name v).2 := by
  rw [Arena.bind]
  cases writable : a.writable? id with
  | none => exact trims_refl a
  | some s =>
      dsimp only
      split
      · exact trims_refl a
      · exact trims_writeBindings (writable?_eq_some a writable).2 _

theorem trims_rebind (a : Arena) (id : SpaceId) (name : String) (v : Value) :
    Trims a (a.rebind id name v).2 := by
  rw [Arena.rebind]
  cases writable : a.writable? id with
  | none => exact trims_refl a
  | some s => exact trims_writeBindings (writable?_eq_some a writable).2 _

theorem trims_unbind (a : Arena) (id : SpaceId) (name : String) :
    Trims a (a.unbind id name).2 := by
  rw [Arena.unbind]
  cases live : a.space? id with
  | none => exact trims_refl a
  | some s => exact trims_writeBindings live _

theorem trims_free (a : Arena) (id : SpaceId) : Trims a (a.free id).2 := by
  rw [Arena.free]
  cases a.writable? id with
  | none => exact trims_refl a
  | some s => exact trims_writeNone id

theorem trims_lendSharedSpace (a : Arena) (v : Value) :
    Trims a.sharedSpace.2 (a.lendSharedSpace v).2 := by
  rw [Arena.lendSharedSpace]
  dsimp only
  split
  · exact trims_refl _
  · rename_i live
    exact trims_writeBindings live _

/-- Trimming keeps the forest in order as long as the empty space stays what it is. -/
theorem Sound.trim (sound : a.Sound) (trims : Trims a b)
    (emptySpace : b.space? SpaceId.empty = some ⟨Table.empty, none, 0⟩) : b.Sound where
  emptySpace := emptySpace
  bounded id t live := by
    obtain ⟨s, found, place⟩ := trims.places id t live
    have depth : s.depth = t.depth := congrArg Prod.snd place
    rw [trims.maxDepth, ← depth]
    exact sound.bounded id s found
  root id t live := by
    obtain ⟨s, found, place⟩ := trims.places id t live
    have depth : s.depth = t.depth := congrArg Prod.snd place
    have parent : s.parent = t.parent := congrArg Prod.fst place
    rw [← depth, ← parent]
    exact sound.root id s found
  older id t parent live below := by
    obtain ⟨s, found, place⟩ := trims.places id t live
    exact sound.older id s parent found ((congrArg Prod.fst place).trans below)
  deeper id t parent above live below upper := by
    obtain ⟨s, found, place⟩ := trims.places id t live
    obtain ⟨r, higher, height⟩ := trims.places parent above upper
    have depth : s.depth = t.depth := congrArg Prod.snd place
    have level : r.depth = above.depth := congrArg Prod.snd height
    rw [← depth, ← level]
    exact sound.deeper id s parent r found ((congrArg Prod.fst place).trans below) higher
  shared id current := by
    rw [trims.selfSpace] at current
    obtain ⟨known, other, rootless⟩ := sound.shared id current
    refine ⟨?_, other, ?_⟩
    · rw [Allocated]
      rw [trims.size]
      exact known
    · intro t live
      obtain ⟨s, found, place⟩ := trims.places id t live
      exact (congrArg Prod.fst place).symm.trans (rootless s found)

theorem Sound.writeBindings (sound : a.Sound) {id : SpaceId} {s : Space}
    (live : a.space? id = some s) (other : id ≠ SpaceId.empty) (bindings : Table Value) :
    (a.writeSlot id (some { s with bindings })).Sound := by
  apply sound.trim (trims_writeBindings live bindings)
  rw [space?_writeSlot_live a live, if_neg other]
  exact sound.emptySpace

theorem Sound.bind (sound : a.Sound) (id : SpaceId) (name : String) (v : Value) :
    (a.bind id name v).2.Sound := by
  rw [Arena.bind]
  cases writable : a.writable? id with
  | none => exact sound
  | some s =>
      obtain ⟨other, live⟩ := writable?_eq_some a writable
      dsimp only
      split
      · exact sound
      · exact sound.writeBindings live other _

theorem Sound.rebind (sound : a.Sound) (id : SpaceId) (name : String) (v : Value) :
    (a.rebind id name v).2.Sound := by
  rw [Arena.rebind]
  cases writable : a.writable? id with
  | none => exact sound
  | some s =>
      obtain ⟨other, live⟩ := writable?_eq_some a writable
      exact sound.writeBindings live other _

/-- Unbinding reaches the empty space too, but there is nothing in it to unbind. -/
theorem Sound.unbind (sound : a.Sound) (id : SpaceId) (name : String) :
    (a.unbind id name).2.Sound := by
  rw [Arena.unbind]
  cases live : a.space? id with
  | none => exact sound
  | some s =>
      apply sound.trim (trims_writeBindings live _)
      rw [space?_writeSlot_live a live]
      by_cases same : id = SpaceId.empty
      · rw [if_pos same]
        rw [same, sound.emptySpace] at live
        cases live
        rfl
      · rw [if_neg same]
        exact sound.emptySpace

theorem Sound.free (sound : a.Sound) (id : SpaceId) : (a.free id).2.Sound := by
  rw [Arena.free]
  cases writable : a.writable? id with
  | none => exact sound
  | some s =>
      obtain ⟨other, _⟩ := writable?_eq_some a writable
      apply sound.trim (trims_writeNone id)
      rw [space?_writeSlot_none, if_neg other]
      exact sound.emptySpace

theorem Sound.chain_empty (sound : a.Sound) : a.chain SpaceId.empty = [SpaceId.empty] :=
  chain_of_root a sound.emptySpace rfl

theorem Sound.freeSubtree (sound : a.Sound) (id : SpaceId) : (a.freeSubtree id).2.Sound := by
  apply sound.trim (trims_freeSubtree a id)
  by_cases freeable : a.freeable id = true
  · have other := ((freeable_iff a id).mp freeable).1
    have outside : id ∉ a.chain SpaceId.empty := by
      rw [sound.chain_empty]
      exact fun member => other (List.mem_singleton.mp member)
    rw [space?_freeSubtree_of_not_mem a outside]
    exact sound.emptySpace
  · rw [freeSubtree_of_not_freeable a (Bool.eq_false_iff.mpr freeable)]
    exact sound.emptySpace

theorem Sound.allocated_empty (sound : a.Sound) : 0 < a.slots.size :=
  allocated_of_space? a sound.emptySpace

theorem Sound.allocate (sound : a.Sound) {parent : Option SpaceId} {depth : Nat}
    (limit : depth ≤ a.maxDepth) (root : depth = 0 ↔ parent = none)
    (above : ∀ p, parent = some p → ∃ s, a.space? p = some s ∧ depth = s.depth + 1) :
    (a.allocate parent depth).2.Sound where
  emptySpace := by
    have old : ¬ SpaceId.empty.index = a.slots.size := Nat.ne_of_lt sound.allocated_empty
    rw [space?_allocate, if_neg old]
    exact sound.emptySpace
  bounded id s live := by
    rw [space?_allocate] at live
    split at live
    · cases live
      exact limit
    · exact sound.bounded id s live
  root id s live := by
    rw [space?_allocate] at live
    split at live
    · cases live
      exact root
    · exact sound.root id s live
  older id s p live below := by
    rw [space?_allocate] at live
    split at live
    · rename_i fresh
      cases live
      obtain ⟨t, upper, _⟩ := above p below
      exact fresh ▸ allocated_of_space? a upper
    · exact sound.older id s p live below
  deeper id s p t live below upper := by
    rw [space?_allocate] at live upper
    split at live
    · cases live
      obtain ⟨r, higher, level⟩ := above p below
      have old : ¬ p.index = a.slots.size := Nat.ne_of_lt (allocated_of_space? a higher)
      rw [if_neg old, higher] at upper
      cases upper
      exact level
    · have age := sound.older id s p live below
      have known : id.index < a.slots.size := allocated_of_space? a live
      have old : ¬ p.index = a.slots.size := by omega
      rw [if_neg old] at upper
      exact sound.deeper id s p t live below upper
  shared id current := by
    obtain ⟨known, other, rootless⟩ := sound.shared id current
    have old : ¬ id.index = a.slots.size := Nat.ne_of_lt known
    refine ⟨?_, other, ?_⟩
    · change id.index < (a.allocate parent depth).2.slots.size
      rw [allocate_size]
      exact Nat.lt_succ_of_lt known
    · intro s live
      rw [space?_allocate, if_neg old] at live
      exact rootless s live

theorem newSpace_cases {parent : Option SpaceId} {id : SpaceId}
    (made : a.newSpace parent = .ok (id, b)) :
    (parent = none ∧ (id, b) = a.allocate none 0) ∨
      ∃ p s, parent = some p ∧ a.space? p = some s ∧ s.depth + 1 ≤ a.maxDepth ∧
        (id, b) = a.allocate (some p) (s.depth + 1) := by
  cases parent with
  | none =>
      cases made
      exact Or.inl ⟨rfl, rfl⟩
  | some p =>
      cases live : a.space? p with
      | none =>
          simp only [newSpace, live] at made
          cases made
      | some s =>
          simp only [newSpace, live] at made
          split at made
          · rename_i room
            cases made
            exact Or.inr ⟨p, s, rfl, live, room, rfl⟩
          · cases made

theorem Sound.newSpace (sound : a.Sound) {parent : Option SpaceId} {id : SpaceId}
    (made : a.newSpace parent = .ok (id, b)) : b.Sound := by
  rcases newSpace_cases made with ⟨_, fresh⟩ | ⟨p, s, _, live, room, fresh⟩
  · cases fresh
    exact sound.allocate (Nat.zero_le _) ⟨fun _ => rfl, fun _ => rfl⟩
      (fun p absent => by cases absent)
  · cases fresh
    apply sound.allocate room ⟨fun zero => by omega, fun absent => by cases absent⟩
    intro q same
    cases same
    exact ⟨s, live, rfl⟩

theorem Sound.sharedSpace (sound : a.Sound) :
    (a.sharedSpace).2.Sound ∧ a.sharedSpace.2.selfSpace = some a.sharedSpace.1 ∧
      ∃ s, a.sharedSpace.2.space? a.sharedSpace.1 = some s := by
  rw [Arena.sharedSpace]
  cases current : a.selfSpace.filter a.contains with
  | some id =>
      obtain ⟨shared, live⟩ := Option.filter_eq_some_iff.mp current
      exact ⟨sound, shared, (contains_iff a id).mp live⟩
  | none =>
      have root : (a.allocate none 0).2.Sound :=
        sound.allocate (Nat.zero_le _) ⟨fun _ => rfl, fun _ => rfl⟩ (fun p absent => by cases absent)
      have live : (a.allocate none 0).2.space? ⟨a.slots.size⟩ = some ⟨Table.empty, none, 0⟩ := by
        rw [space?_allocate, if_pos rfl]
      refine ⟨⟨root.emptySpace, root.bounded, root.root, root.older, root.deeper, ?_⟩, rfl,
        ⟨_, live⟩⟩
      intro id same
      cases same
      refine ⟨?_, ?_, ?_⟩
      · change a.slots.size < (a.allocate none 0).2.slots.size
        rw [allocate_size]
        omega
      · intro same
        exact Nat.ne_of_gt sound.allocated_empty (congrArg SpaceId.index same)
      · intro s found
        rw [show (a.allocate none 0).2.space? ⟨a.slots.size⟩ = some s from found] at live
        cases live
        rfl

theorem Sound.lendSharedSpace (sound : a.Sound) (v : Value) : (a.lendSharedSpace v).2.Sound := by
  obtain ⟨kept, shared, s, live⟩ := sound.sharedSpace
  obtain ⟨_, other, _⟩ := kept.shared _ shared
  rw [Arena.lendSharedSpace]
  simp only [live]
  exact kept.writeBindings live other _

/-- Every move keeps the forest in order. -/
theorem Sound.move (sound : a.Sound) (move : Move a b) : b.Sound := by
  cases move with
  | newSpace made => exact sound.newSpace made
  | bind id name v => exact sound.bind id name v
  | rebind id name v => exact sound.rebind id name v
  | unbind id name => exact sound.unbind id name
  | free id => exact sound.free id
  | freeSubtree id => exact sound.freeSubtree id
  | lend v => exact sound.lendSharedSpace v

theorem Sound.evolve (sound : a.Sound) (evolves : a.Evolves b) : b.Sound := by
  induction evolves with
  | refl => exact sound
  | tail _ move kept => exact kept.move move

theorem sound_initial (maxDepth : Nat) : (initial maxDepth).Sound := by
  have only : ∀ id s, (initial maxDepth).space? id = some s →
      id = SpaceId.empty ∧ s = ⟨Table.empty, none, 0⟩ := by
    intro id s live
    have known : id.index < 1 := allocated_of_space? _ live
    have first : id = SpaceId.empty := SpaceId.eq_of_index (Nat.lt_one_iff.mp known)
    subst first
    cases live
    exact ⟨rfl, rfl⟩
  refine ⟨rfl, ?_, ?_, ?_, ?_, ?_⟩
  · intro id s live
    rw [(only id s live).2]
    exact Nat.zero_le _
  · intro id s live
    rw [(only id s live).2]
    exact ⟨fun _ => rfl, fun _ => rfl⟩
  · intro id s parent live below
    rw [(only id s live).2] at below
    cases below
  · intro id s parent above live below
    rw [(only id s live).2] at below
    cases below
  · intro id current
    cases current

/-- The depth limit never moves, and ids are never taken back. -/
structure Grows (a b : Arena) : Prop where
  maxDepth : b.maxDepth = a.maxDepth
  size : a.slots.size ≤ b.slots.size

theorem grows_refl (a : Arena) : Grows a a := ⟨rfl, Nat.le_refl _⟩

theorem grows_trans {c : Arena} (first : Grows a b) (second : Grows b c) : Grows a c :=
  ⟨second.maxDepth.trans first.maxDepth, Nat.le_trans first.size second.size⟩

/-- A move trims what was there, after it has made at most one space. Only a new space comes to be the
shared one. -/
theorem trims_of_move (move : Move a b) :
    Trims a b ∨ ∃ parent depth shared, (shared = a.selfSpace ∨ shared = some ⟨a.slots.size⟩) ∧
      Trims { (a.allocate parent depth).2 with selfSpace := shared } b := by
  cases move with
  | newSpace made =>
      rcases newSpace_cases made with ⟨_, fresh⟩ | ⟨p, s, _, _, _, fresh⟩
      · cases fresh
        exact .inr ⟨none, 0, a.selfSpace, .inl rfl, trims_refl _⟩
      · cases fresh
        exact .inr ⟨some p, s.depth + 1, a.selfSpace, .inl rfl, trims_refl _⟩
  | bind id name v => exact .inl (trims_bind a id name v)
  | rebind id name v => exact .inl (trims_rebind a id name v)
  | unbind id name => exact .inl (trims_unbind a id name)
  | free id => exact .inl (trims_free a id)
  | freeSubtree id => exact .inl (trims_freeSubtree a id)
  | lend v =>
      have lent := trims_lendSharedSpace a v
      rw [sharedSpace] at lent
      split at lent
      · exact .inl lent
      · exact .inr ⟨none, 0, some ⟨a.slots.size⟩, .inr rfl, lent⟩

theorem grows_of_move (move : Move a b) : Grows a b := by
  rcases trims_of_move move with trims | ⟨parent, depth, shared, _, trims⟩
  · exact ⟨trims.maxDepth, Nat.le_of_eq trims.size.symm⟩
  · refine ⟨trims.maxDepth, ?_⟩
    have size : b.slots.size = a.slots.size + 1 := trims.size.trans (allocate_size a parent depth)
    omega

theorem grows_of_evolves (evolves : a.Evolves b) : Grows a b := by
  induction evolves with
  | refl => exact grows_refl a
  | tail _ move grown => exact grows_trans grown (grows_of_move move)

end Arena

end ScriptValues
