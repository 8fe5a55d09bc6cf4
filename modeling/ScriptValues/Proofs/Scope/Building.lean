import ScriptValues.Proofs.Scope.Rebinding
import ScriptValues.Proofs.Scope.Sound

/-! Building below a space, and taking back what was built.

Spaces that are built below a space leave all older ones alone. When the topmost new space hangs
below a parent, everything new hangs below that space and nothing old does, so releasing it restores
the arena. -/

namespace ScriptValues

namespace Arena

variable {a b c : Arena} {parent root : SpaceId}

/-- `b` comes out of `a` and has the same live spaces, in the same places and with the same
bindings. -/
structure Restores (a b : Arena) : Prop where
  evolves : a.Evolves b
  same : ∀ id, b.space? id = a.space? id

/-- `b` comes out of `a`, has the spaces of `a` as they were, and all that is new in it lies below
`parent`. -/
structure BuildsBelow (parent : SpaceId) (a b : Arena) : Prop where
  evolves : a.Evolves b
  kept : ∀ id, a.Allocated id → b.space? id = a.space? id
  below : ∀ id s, a.slots.size ≤ id.index → b.space? id = some s → parent ∈ b.chain id

/-- What is new in `b` lies below `root`, which is new itself and hangs below `parent`. -/
structure Building (parent root : SpaceId) (a b : Arena) : Prop extends BuildsBelow root a b where
  new : a.slots.size ≤ root.index
  hangs : ∃ s, b.space? root = some s ∧ s.parent = some parent

theorem not_live_beyond {id : SpaceId} (beyond : a.slots.size ≤ id.index) : a.space? id = none :=
  space?_eq_none_of_not_allocated a (Nat.not_lt_of_le beyond)

theorem Rebinds.live {space id : SpaceId} (changed : a.Rebinds space b) {s : Space}
    (live : a.space? id = some s) : ∃ t, b.space? id = some t ∧ t.place = s.place := by
  have place := changed.place id
  rw [live] at place
  exact Option.map_eq_some_iff.mp place

theorem restores_refl (a : Arena) : a.Restores a := ⟨a.evolves_refl, fun _ => rfl⟩

theorem Restores.buildsBelow (restores : a.Restores b) (parent : SpaceId) :
    a.BuildsBelow parent b := by
  refine ⟨restores.evolves, fun id _ => restores.same id, ?_⟩
  intro id s beyond live
  rw [restores.same id, not_live_beyond beyond] at live
  cases live

theorem restores_freeSubtree_beyond (a : Arena) {id : SpaceId} (beyond : a.slots.size ≤ id.index) :
    a.Restores (a.freeSubtree id).2 := by
  have idle : a.freeable id = false := by
    apply Bool.eq_false_iff.mpr
    intro freeable
    obtain ⟨_, _, s, live⟩ := (freeable_iff a id).mp freeable
    rw [not_live_beyond beyond] at live
    cases live
  rw [freeSubtree_of_not_freeable a idle]
  exact restores_refl a

theorem BuildsBelow.size_le (built : a.BuildsBelow parent b) : a.slots.size ≤ b.slots.size :=
  (grows_of_evolves built.evolves).size

theorem BuildsBelow.chain (built : a.BuildsBelow parent b) {id : SpaceId} (there : a.Allocated id) :
    b.chain id = a.chain id :=
  chain_congr_below a fun x age => built.kept x (Nat.lt_of_le_of_lt age there)

theorem BuildsBelow.trans (first : a.BuildsBelow parent b) (second : b.BuildsBelow parent c) :
    a.BuildsBelow parent c where
  evolves := evolves_trans first.evolves second.evolves
  kept id there := by
    have still : b.Allocated id := Nat.lt_of_lt_of_le there first.size_le
    calc
      c.space? id = b.space? id := second.kept id still
      _ = a.space? id := first.kept id there
  below id s new live := by
    by_cases still : b.Allocated id
    · rw [second.kept id still] at live
      rw [second.chain still]
      exact first.below id s new live
    · exact second.below id s (Nat.le_of_not_lt still) live

theorem BuildsBelow.bind (built : a.BuildsBelow parent b) {space : SpaceId}
    (new : a.slots.size ≤ space.index) (name : String) (v : Value) :
    a.BuildsBelow parent (b.bind space name v).2 := by
  have bound : b.Rebinds space (b.bind space name v).2 := .bind name v
  refine ⟨evolves_trans built.evolves (evolves_of_move (.bind space name v)), ?_, ?_⟩
  · intro id there
    have old : id.index < a.slots.size := there
    have other : id ≠ space := by
      rintro rfl
      omega
    rw [bound.other other]
    exact built.kept id there
  · intro id s beyond live
    have place := bound.place id
    rw [live] at place
    obtain ⟨t, before, _⟩ := Option.map_eq_some_iff.mp place.symm
    rw [bound.chain]
    exact built.below id t beyond before

theorem building_newSpace (made : a.newSpace (some parent) = .ok (root, b)) :
    Building parent root a b := by
  rcases newSpace_cases made with ⟨absent, _⟩ | ⟨p, s, same, _, _, fresh⟩
  · cases absent
  · cases same
    obtain ⟨rfl, rfl⟩ : root = ⟨a.slots.size⟩ ∧ b = (a.allocate (some parent) (s.depth + 1)).2 :=
      ⟨congrArg Prod.fst fresh, congrArg Prod.snd fresh⟩
    have here : (a.allocate (some parent) (s.depth + 1)).2.space? ⟨a.slots.size⟩ =
        some ⟨Table.empty, some parent, s.depth + 1⟩ := by
      rw [space?_allocate, if_pos rfl]
    refine ⟨⟨evolves_of_move (.newSpace made), ?_, ?_⟩, Nat.le_refl _, _, here, rfl⟩
    · intro id there
      rw [space?_allocate, if_neg (Nat.ne_of_lt there)]
    · intro id t beyond live
      by_cases own : id.index = a.slots.size
      · rw [SpaceId.eq_of_index (y := ⟨a.slots.size⟩) own]
        exact self_mem_chain _ here
      · rw [space?_allocate, if_neg own, not_live_beyond beyond] at live
        cases live

theorem Building.allocated (building : Building parent root a b) : b.Allocated root := by
  obtain ⟨s, live, _⟩ := building.hangs
  exact allocated_of_space? b live

theorem Building.step (building : Building parent root a b) (more : b.BuildsBelow root c) :
    Building parent root a c := by
  refine ⟨building.toBuildsBelow.trans more, building.new, ?_⟩
  rw [more.kept root building.allocated]
  exact building.hangs

theorem Building.bind (building : Building parent root a b) (name : String) (v : Value) :
    Building parent root a (b.bind root name v).2 := by
  refine ⟨building.toBuildsBelow.bind building.new name v, building.new, ?_⟩
  obtain ⟨s, live, hangs⟩ := building.hangs
  have bound : b.Rebinds root (b.bind root name v).2 := .bind name v
  obtain ⟨t, now, same⟩ := bound.live live
  exact ⟨t, now, (congrArg Prod.fst same).trans hangs⟩

theorem Building.finish (building : Building parent root a b) (sound : b.Sound)
    (above : ∃ s, a.space? parent = some s) : a.BuildsBelow parent b := by
  refine ⟨building.evolves, building.kept, ?_⟩
  obtain ⟨s, live, hangs⟩ := building.hangs
  obtain ⟨t, upper⟩ := above
  rw [← building.kept parent (allocated_of_space? a upper)] at upper
  have higher : parent ∈ b.chain root := by
    rw [chain_of_parent b live hangs (sound.older root s parent live hangs)]
    exact List.mem_cons_of_mem _ (self_mem_chain b upper)
  intro id r beyond there
  exact mem_chain_trans b higher (building.below id r beyond there)

/-- The topmost space of a building may be released: it has a parent, so it is none of the shared
spaces. -/
theorem Building.freeable (building : Building parent root a b) (sound : b.Sound) :
    b.freeable root = true := by
  obtain ⟨s, live, hangs⟩ := building.hangs
  refine (freeable_iff b root).mpr ⟨?_, ?_, s, live⟩
  · rintro rfl
    rw [sound.emptySpace] at live
    cases live
    cases hangs
  · intro shared
    have rootless := (sound.shared root shared).2.2 s live
    rw [hangs] at rootless
    cases rootless

/-- Releasing the topmost space takes back the whole building and nothing else. -/
theorem Building.release (building : Building parent root a b) (sound : b.Sound) :
    a.Restores (b.freeSubtree root).2 := by
  refine ⟨evolves_trans building.evolves (evolves_of_move (.freeSubtree root)), ?_⟩
  intro id
  rw [space?_freeSubtree b (building.freeable sound)]
  by_cases there : a.Allocated id
  · have outside : root ∉ b.chain id := by
      intro above
      have older := index_le_of_mem_chain b above
      have new := building.new
      have old : id.index < a.slots.size := there
      omega
    rw [if_neg outside]
    exact building.kept id there
  · have beyond := Nat.le_of_not_lt there
    rw [not_live_beyond beyond]
    cases live : b.space? id with
    | none => exact ite_self none
    | some s => exact if_pos (building.below id s beyond live)

/-! The list of live spaces -/

theorem live_eq_append (grown : a.slots.size ≤ b.slots.size)
    (kept : ∀ id, a.Allocated id → b.space? id = a.space? id) :
    ∃ new, b.live = a.live ++ new ∧
      ∀ id, id ∈ new ↔ a.slots.size ≤ id.index ∧ ∃ s, b.space? id = some s := by
  obtain ⟨more, size⟩ := Nat.exists_eq_add_of_le grown
  have ids : b.allocated =
      a.allocated ++ ((List.range more).map (a.slots.size + ·)).map SpaceId.mk := by
    simp only [allocated, size, List.range_add, List.map_append]
  refine ⟨(((List.range more).map (a.slots.size + ·)).map SpaceId.mk).filter b.contains, ?_, ?_⟩
  · rw [live, ids, List.filter_append]
    congr 1
    apply List.filter_congr
    intro id member
    obtain ⟨i, known, rfl⟩ := List.mem_map.mp member
    rw [contains, contains, kept ⟨i⟩ (List.mem_range.mp known)]
  · intro id
    rw [List.mem_filter, contains_iff]
    constructor
    · rintro ⟨member, live⟩
      simp only [List.mem_map, List.mem_range] at member
      obtain ⟨_, ⟨i, _, rfl⟩, rfl⟩ := member
      exact ⟨Nat.le_add_right _ _, live⟩
    · rintro ⟨new, s, live⟩
      have known : id.index < b.slots.size := allocated_of_space? b live
      refine ⟨?_, s, live⟩
      simp only [List.mem_map, List.mem_range]
      exact ⟨id.index, ⟨id.index - a.slots.size, by omega, by omega⟩, rfl⟩

theorem Restores.live (restores : a.Restores b) : b.live = a.live := by
  obtain ⟨new, same, members⟩ :=
    live_eq_append (grows_of_evolves restores.evolves).size fun id _ => restores.same id
  have none : new = [] := by
    apply List.eq_nil_iff_forall_not_mem.mpr
    intro id member
    obtain ⟨beyond, s, live⟩ := (members id).mp member
    rw [restores.same id, not_live_beyond beyond] at live
    cases live
  rw [same, none, List.append_nil]

theorem size_lt_of_new (grown : a.slots.size ≤ b.slots.size)
    (kept : ∀ id, a.Allocated id → b.space? id = a.space? id) {id : SpaceId} {s : Space}
    (new : a.slots.size ≤ id.index) (live : b.space? id = some s) : a.size < b.size := by
  obtain ⟨more, same, members⟩ := live_eq_append grown kept
  have member : id ∈ more := (members id).mpr ⟨new, s, live⟩
  have nonempty := List.length_pos_of_mem member
  rw [size, size, same, List.length_append]
  omega

theorem live_ne_of_size_lt (larger : a.size < b.size) : b.live ≠ a.live := by
  intro same
  rw [size, size, same] at larger
  exact Nat.lt_irrefl a.live.length larger

end Arena

end ScriptValues
