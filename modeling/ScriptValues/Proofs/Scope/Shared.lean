import ScriptValues.Proofs.Scope.Rebinding
import ScriptValues.Proofs.Scope.Sound

/-! The space that values without one of their own share.

It is a root of its own and is passed over when subtrees are released, so that only its own release
takes it away. -/

namespace ScriptValues

namespace Arena

variable {a b : Arena} {id x : SpaceId}

def Shares (a : Arena) (id : SpaceId) : Prop := a.selfSpace = some id ∧ a.contains id = true

instance (a : Arena) (id : SpaceId) : Decidable (a.Shares id) := inferInstanceAs (Decidable (_ ∧ _))

def KeepsShared (a b : Arena) : Prop := a.Sound → b.Sound ∧ ∀ id, a.Shares id → b.Shares id

theorem KeepsShared.refl (a : Arena) : a.KeepsShared a :=
  fun sound => ⟨sound, fun _ shared => shared⟩

theorem KeepsShared.trans {c : Arena} (first : a.KeepsShared b) (second : b.KeepsShared c) :
    a.KeepsShared c := by
  intro sound
  obtain ⟨sound', there⟩ := first sound
  obtain ⟨sound'', still⟩ := second sound'
  exact ⟨sound'', fun id shared => still id (there id shared)⟩

theorem Shares.unique (shared : a.Shares id) (shared' : a.Shares x) : id = x :=
  Option.some.inj (shared.1.symm.trans shared'.1)

theorem Sound.chain_of_shares (sound : a.Sound) (shared : a.Shares id) : a.chain id = [id] := by
  obtain ⟨s, live⟩ := (contains_iff a id).mp shared.2
  exact chain_of_root a live ((sound.shared id shared.1).2.2 s live)

/-! Moves -/

theorem Rebinds.trims (changed : a.Rebinds x b) : Trims a b := by
  cases changed with
  | bind name v => exact trims_bind a x name v
  | rebind name v => exact trims_rebind a x name v
  | unbind name => exact trims_unbind a x name

theorem Rebinds.sound (changed : a.Rebinds x b) (sound : a.Sound) : b.Sound := by
  cases changed with
  | bind name v => exact sound.bind x name v
  | rebind name v => exact sound.rebind x name v
  | unbind name => exact sound.unbind x name

theorem Rebinds.contains (changed : a.Rebinds x b) (id : SpaceId) :
    b.contains id = a.contains id := by
  have live := congrArg Option.isSome (changed.place id)
  rw [Option.isSome_map, Option.isSome_map] at live
  exact live

theorem Rebinds.keepsShared (changed : a.Rebinds x b) : a.KeepsShared b := by
  refine fun sound => ⟨changed.sound sound, fun id shared => ?_⟩
  exact ⟨changed.trims.selfSpace.trans shared.1, (changed.contains id).trans shared.2⟩

theorem Shares.allocate (shared : a.Shares id) (parent : Option SpaceId) (depth : Nat) :
    (a.allocate parent depth).2.Shares id := by
  obtain ⟨s, live⟩ := (contains_iff a id).mp shared.2
  have old : id.index ≠ a.slots.size := Nat.ne_of_lt (allocated_of_space? a live)
  refine ⟨shared.1, ?_⟩
  rw [contains, space?_allocate, if_neg old]
  exact shared.2

theorem keepsShared_newSpace {parent : Option SpaceId} (made : a.newSpace parent = .ok (x, b)) :
    a.KeepsShared b := by
  refine fun sound => ⟨sound.newSpace made, fun id shared => ?_⟩
  rcases newSpace_cases made with ⟨_, fresh⟩ | ⟨p, s, _, _, _, fresh⟩
  · cases fresh
    exact shared.allocate none 0
  · cases fresh
    exact shared.allocate (some p) (s.depth + 1)

theorem keepsShared_newSpace_bind {parent : Option SpaceId} (made : a.newSpace parent = .ok (x, b))
    (name : String) (v : Value) : a.KeepsShared (b.bind x name v).2 :=
  (keepsShared_newSpace made).trans (Rebinds.keepsShared (.bind name v))

/-- The shared space hangs below nothing, so it goes with no other space. -/
theorem keepsShared_freeSubtree (a : Arena) (root : SpaceId) :
    a.KeepsShared (a.freeSubtree root).2 := by
  refine fun sound => ⟨sound.freeSubtree root, fun id shared => ?_⟩
  refine ⟨(trims_freeSubtree a root).selfSpace.trans shared.1, ?_⟩
  by_cases freeable : a.freeable root = true
  · have other : root ≠ id := by
      rintro rfl
      exact ((freeable_iff a root).mp freeable).2.1 shared.1
    have outside : root ∉ a.chain id := by
      rw [sound.chain_of_shares shared, List.mem_singleton]
      exact other
    rw [contains, space?_freeSubtree_of_not_mem a outside]
    exact shared.2
  · rw [freeSubtree_of_not_freeable a (Bool.eq_false_iff.mpr freeable)]
    exact shared.2

theorem sharedSpace_cases (a : Arena) :
    (∃ id, a.Shares id ∧ a.sharedSpace = (id, a)) ∨
      (∀ id, ¬ a.Shares id) ∧ a.sharedSpace =
        (⟨a.slots.size⟩, { (a.allocate none 0).2 with selfSpace := some ⟨a.slots.size⟩ }) := by
  cases current : a.selfSpace.filter a.contains with
  | some id =>
      obtain ⟨own, live⟩ := Option.filter_eq_some_iff.mp current
      refine .inl ⟨id, ⟨own, live⟩, ?_⟩
      rw [sharedSpace, current]
  | none =>
      refine .inr ⟨fun id shared => ?_, ?_⟩
      · rw [Option.filter_eq_none_iff] at current
        exact current id shared.1 shared.2
      · rw [sharedSpace, current]
        rfl

theorem Shares.lendSharedSpace (shared : a.Shares id) (v : Value) :
    (a.lendSharedSpace v).1 = id ∧ (a.lendSharedSpace v).2.Shares id ∧
      (a.lendSharedSpace v).2.slots.size = a.slots.size := by
  obtain ⟨s, found⟩ := (contains_iff a id).mp shared.2
  have there : a.sharedSpace = (id, a) := by
    rcases a.sharedSpace_cases with ⟨x, shared', there⟩ | ⟨absent, _⟩
    · rwa [shared.unique shared']
    · exact absurd shared (absent id)
  simp only [Arena.lendSharedSpace, there, found]
  refine ⟨trivial, ⟨shared.1, ?_⟩, writeSlot_size a id _⟩
  rw [contains, space?_writeSlot_live a found, if_pos rfl]
  rfl

theorem keepsShared_lend (a : Arena) (v : Value) : a.KeepsShared (a.lendSharedSpace v).2 :=
  fun sound => ⟨sound.lendSharedSpace v, fun _ shared => (shared.lendSharedSpace v).2.1⟩

theorem Shares.free (shared : a.Shares id) (other : x ≠ id) : (a.free x).2.Shares id := by
  rw [Arena.free]
  split
  · exact shared
  · refine ⟨shared.1, ?_⟩
    rw [contains, space?_writeSlot_none, if_neg other]
    exact shared.2

end Arena

end ScriptValues
