import ScriptValues.Proofs.Scope.Rebinding
import ScriptValues.Proofs.Scope.Run

/-! What a name stands for in a space.

A lookup climbs from parent to parent through live spaces, and the first space on the way that binds
the name decides. A write therefore shows only from where the way leads past the space it names, and
nothing nearer hides it. -/

namespace ScriptValues

namespace Arena

/-- From `id` one comes to `x` by going from live spaces to their parents; `x` is live as well. -/
inductive Climbs (a : Arena) : SpaceId → SpaceId → Prop
  | here {id : SpaceId} {s : Space} (live : a.space? id = some s) : Climbs a id id
  | up {id parent x : SpaceId} {s : Space} (live : a.space? id = some s)
      (below : s.parent = some parent) (rest : Climbs a parent x) : Climbs a id x

def Nearer (a : Arena) (id y x : SpaceId) : Prop := a.Climbs id y ∧ a.Climbs y x ∧ y ≠ x

/-- The first space on the way up from `id` that binds the name is `x`, which binds it to `v`. -/
structure Sees (a : Arena) (id : SpaceId) (name : String) (x : SpaceId) (v : Value) : Prop where
  above : a.Climbs id x
  bound : a.lookupLocal x name = some v
  first : ∀ y, a.Nearer id y x → a.lookupLocal y name = none

variable {a b : Arena} {id parent x y space : SpaceId} {name other : String} {v : Value} {s : Space}

/-! The way up -/

theorem Climbs.starts (climbs : a.Climbs id x) : ∃ s, a.space? id = some s := by
  cases climbs with
  | here live => exact ⟨_, live⟩
  | up live => exact ⟨_, live⟩

theorem Climbs.trans (lower : a.Climbs id y) (upper : a.Climbs y x) : a.Climbs id x := by
  induction lower with
  | here _ => exact upper
  | up live below _ ih => exact .up live below (ih upper)

theorem Climbs.linear (first : a.Climbs id x) (second : a.Climbs id y) :
    a.Climbs x y ∨ a.Climbs y x := by
  induction first with
  | here _ => exact .inl second
  | up live below rest ih =>
      cases second with
      | here _ => exact .inr (.up live below rest)
      | up live' below' rest' =>
          cases live.symm.trans live'
          cases below.symm.trans below'
          exact ih rest'

theorem climbs_of_mem_chain (member : x ∈ a.chain id) : a.Climbs id x := by
  induction bound : id.index using Nat.strongRecOn generalizing id with
  | ind n ih =>
      rcases chain_cases a id with
        ⟨_, chain⟩ | ⟨⟨s, live⟩, chain⟩ | ⟨s, parent, live, below, older, chain⟩
      · rw [chain] at member
        cases member
      · rw [chain] at member
        cases List.mem_singleton.mp member
        exact .here live
      · rw [chain] at member
        rcases List.mem_cons.mp member with first | later
        · cases first
          exact .here live
        · exact .up live below (ih parent.index (bound ▸ older) later rfl)

theorem Sound.mem_chain_iff (sound : a.Sound) : x ∈ a.chain id ↔ a.Climbs id x := by
  refine ⟨climbs_of_mem_chain, fun climbs => ?_⟩
  induction climbs with
  | here live => exact self_mem_chain a live
  | @up id parent x s live below _ ih =>
      rw [chain_of_parent a live below (sound.older id s parent live below)]
      exact List.mem_cons_of_mem _ ih

theorem Sound.climbs_antisymm (sound : a.Sound) (up : a.Climbs x y) (down : a.Climbs y x) :
    x = y := by
  have older := index_le_of_mem_chain a (sound.mem_chain_iff.mpr up)
  have younger := index_le_of_mem_chain a (sound.mem_chain_iff.mpr down)
  exact SpaceId.eq_of_index (Nat.le_antisymm younger older)

theorem Sound.climbs_congr (sound : a.Sound) (sound' : b.Sound) (same : b.chain id = a.chain id)
    (x : SpaceId) : b.Climbs id x ↔ a.Climbs id x := by
  rw [← sound'.mem_chain_iff, ← sound.mem_chain_iff, same]

theorem lookupLocal_of_live (live : a.space? id = some s) (name : String) :
    a.lookupLocal id name = s.bindings.get? name := by
  rw [lookupLocal, live]
  rfl

/-! The nearest binding -/

theorem Sound.sees_of_bound (sound : a.Sound) (live : a.space? id = some s)
    (bound : s.bindings.get? name = some v) : a.Sees id name id v where
  above := .here live
  bound := (lookupLocal_of_live live name).trans bound
  first _ nearer := absurd (sound.climbs_antisymm nearer.2.1 nearer.1) nearer.2.2

theorem Sees.here (sees : a.Sees id name x v) (live : a.space? id = some s)
    (bound : s.bindings.get? name ≠ none) : x = id := by
  by_contra apart
  have hidden := sees.first id ⟨.here live, sees.above, Ne.symm apart⟩
  rw [lookupLocal_of_live live name] at hidden
  exact bound hidden

theorem sees_of_parent (live : a.space? id = some s) (below : s.parent = some parent)
    (unbound : s.bindings.get? name = none) (sees : a.Sees parent name x v) : a.Sees id name x v where
  above := .up live below sees.above
  bound := sees.bound
  first y nearer := by
    obtain ⟨lower, upper, apart⟩ := nearer
    cases lower with
    | here _ => exact (lookupLocal_of_live live name).trans unbound
    | up live' below' rest =>
        cases live.symm.trans live'
        cases below.symm.trans below'
        exact sees.first y ⟨rest, upper, apart⟩

theorem Sees.passes (sees : a.Sees id name x v) (live : a.space? id = some s)
    (unbound : s.bindings.get? name = none) :
    ∃ parent, s.parent = some parent ∧ a.Sees parent name x v := by
  obtain ⟨above, bound, first⟩ := sees
  cases above with
  | here _ =>
      rw [lookupLocal_of_live live name, unbound] at bound
      cases bound
  | @up _ parent _ _ live' below rest =>
      cases live.symm.trans live'
      refine ⟨parent, below, rest, bound, fun y nearer => ?_⟩
      exact first y ⟨.up live below nearer.1, nearer.2⟩

/-- A lookup finds the nearest binding. -/
theorem Sound.lookup_eq_some_iff (sound : a.Sound) :
    a.lookup id name = some v ↔ ∃ x, a.Sees id name x v := by
  induction bound : id.index using Nat.strongRecOn generalizing id with
  | ind n ih =>
      cases live : a.space? id with
      | none =>
          have unseen : ¬ ∃ x, a.Sees id name x v := by
            rintro ⟨x, sees⟩
            obtain ⟨s, found⟩ := sees.above.starts
            cases live.symm.trans found
          simp [lookup_of_dead live, unseen]
      | some s =>
          cases held : s.bindings.get? name with
          | some u =>
              rw [lookup_of_bound live held, Option.some.injEq]
              constructor
              · rintro rfl
                exact ⟨id, sound.sees_of_bound live held⟩
              · rintro ⟨x, sees⟩
                have same : x = id := sees.here live (by rw [held]; nofun)
                have found := sees.bound
                rw [same, lookupLocal_of_live live, held] at found
                exact Option.some.inj found
          | none =>
              cases below : s.parent with
              | none =>
                  have unseen : ¬ ∃ x, a.Sees id name x v := by
                    rintro ⟨x, sees⟩
                    obtain ⟨parent, above, _⟩ := sees.passes live held
                    cases below.symm.trans above
                  simp [lookup_of_root live held below, unseen]
              | some parent =>
                  have older := sound.older id s parent live below
                  rw [sound.lookup_of_parent live held below, ih parent.index (bound ▸ older) rfl]
                  constructor
                  · rintro ⟨x, sees⟩
                    exact ⟨x, sees_of_parent live below held sees⟩
                  · rintro ⟨x, sees⟩
                    obtain ⟨parent', above, sees⟩ := sees.passes live held
                    cases below.symm.trans above
                    exact ⟨x, sees⟩

theorem Sound.lookup_eq_none_iff (sound : a.Sound) :
    a.lookup id name = none ↔ ∀ x, a.Climbs id x → a.lookupLocal x name = none := by
  rw [lookup, List.findSome?_eq_none_iff]
  constructor
  · intro unbound x climbs
    exact unbound x (sound.mem_chain_iff.mpr climbs)
  · intro unbound x member
    exact unbound x (sound.mem_chain_iff.mp member)

/-! Writes -/

inductive Writes (a : Arena) (space : SpaceId) (name : String) : Arena → Prop
  | bind (v : Value) : Writes a space name (a.bind space name v).2
  | rebind (v : Value) : Writes a space name (a.rebind space name v).2
  | unbind : Writes a space name (a.unbind space name).2

/-- The space takes no names: it was freed, or it is the empty one. -/
def Closed (a : Arena) (space : SpaceId) : Prop :=
  a.contains space = false ∨ space = SpaceId.empty

/-- What can be seen of a write of `name` in `space`, which takes `a` to `b`. -/
structure WritesOnly (a : Arena) (space : SpaceId) (name : String) (b : Arena) : Prop where
  lookups : ∀ id other, b.lookup id other ≠ a.lookup id other →
    other = name ∧ a.Climbs id space ∧ ∀ y, a.Nearer id y space → a.lookupLocal y name = none
  locals : ∀ id other, b.lookupLocal id other ≠ a.lookupLocal id other → id = space ∧ other = name
  entries : ∀ id other v,
    ¬ ((other, v) ∈ (b.bindings id).rows ↔ (other, v) ∈ (a.bindings id).rows) →
    id = space ∧ other = name

theorem Writes.rebinds (written : a.Writes space name b) : a.Rebinds space b := by
  cases written with
  | bind v => exact .bind name v
  | rebind v => exact .rebind name v
  | unbind => exact .unbind name

theorem mem_rows_bindings_iff (a : Arena) (id : SpaceId) (name : String) (v : Value) :
    (name, v) ∈ (a.bindings id).rows ↔ a.lookupLocal id name = some v := by
  rw [Table.mem_rows_iff, bindings, lookupLocal]
  cases a.space? id <;> rfl

theorem lookupLocal_writeBindings (live : a.space? space = some s) (bindings : Table Value)
    (id : SpaceId) (other : String) :
    (a.writeSlot space (some { s with bindings })).lookupLocal id other =
      if space = id then bindings.get? other else a.lookupLocal id other := by
  rw [lookupLocal, space?_writeSlot_live a live]
  split <;> rfl

theorem Writes.lookupLocal (written : a.Writes space name b) (apart : id = space → other ≠ name) :
    b.lookupLocal id other = a.lookupLocal id other := by
  -- A table that agrees with the old one on the other names may take its place.
  have replaced : ∀ (s : Space) (bindings : Table Value), a.space? space = some s →
      (other ≠ name → bindings.get? other = s.bindings.get? other) →
      (a.writeSlot space (some { s with bindings })).lookupLocal id other =
        a.lookupLocal id other := by
    intro s bindings live agree
    rw [lookupLocal_writeBindings live]
    split
    · rename_i here
      subst here
      rw [agree (apart rfl), lookupLocal_of_live live]
    · rfl
  cases written with
  | bind v =>
      rw [Arena.bind]
      split
      · rfl
      · rename_i s writable
        split
        · rfl
        · exact replaced s _ (writable?_eq_some a writable).2 (Table.get?_insert_other _ _)
  | rebind v =>
      rw [Arena.rebind]
      split
      · rfl
      · rename_i s writable
        exact replaced s _ (writable?_eq_some a writable).2 (Table.get?_insert_other _ _)
  | unbind =>
      rw [Arena.unbind]
      split
      · rfl
      · rename_i s live
        exact replaced s _ live (Table.get?_erase_other _)

theorem Sees.of_writes (sound : a.Sound) (written : a.Writes space name b)
    (nearer : a.Nearer id y space) (hides : a.lookupLocal y name ≠ none)
    (sees : a.Sees id name x v) : b.Sees id name x v := by
  have climbs : ∀ id x, b.Climbs id x ↔ a.Climbs id x :=
    fun id x => sound.climbs_congr (written.rebinds.sound sound) (written.rebinds.chain id) x
  obtain ⟨below, above, apart⟩ := nearer
  have early : a.Climbs x y := by
    rcases sees.above.linear below with upper | lower
    · exact upper
    · by_contra hidden
      have distinct : y ≠ x := fun same => hidden (same ▸ lower)
      exact hides (sees.first y ⟨below, lower, distinct⟩)
  -- What is no farther than `y` is not the written space.
  have unwritten : ∀ z, a.Climbs z y → z ≠ space := by
    rintro z lower rfl
    exact apart (sound.climbs_antisymm above lower)
  refine ⟨(climbs id x).mpr sees.above, ?_, ?_⟩
  · rw [written.lookupLocal fun same => absurd same (unwritten x early)]
    exact sees.bound
  · intro z hidden
    have between : a.Nearer id z x :=
      ⟨(climbs id z).mp hidden.1, (climbs z x).mp hidden.2.1, hidden.2.2⟩
    rw [written.lookupLocal fun same => absurd same (unwritten z (between.2.1.trans early))]
    exact sees.first z between

theorem Sound.lookup_of_hidden (sound : a.Sound) (written : a.Writes space name b)
    (nearer : a.Nearer id y space) (hides : a.lookupLocal y name ≠ none) :
    b.lookup id name = a.lookup id name := by
  cases found : a.lookup id name with
  | none => exact absurd (sound.lookup_eq_none_iff.mp found y nearer.1) hides
  | some v =>
      obtain ⟨x, sees⟩ := sound.lookup_eq_some_iff.mp found
      exact (written.rebinds.sound sound).lookup_eq_some_iff.mpr
        ⟨x, sees.of_writes sound written nearer hides⟩

/-- A write shows only under its name, and only from where the written space is the nearest one on
the way up that could bind it. -/
theorem Sound.writesOnly (sound : a.Sound) (written : a.Writes space name b) :
    a.WritesOnly space name b where
  lookups id other changed := by
    have chain := written.rebinds.chain id
    have same : other = name := by
      by_contra apart
      exact changed (lookup_congr a chain fun x _ => written.lookupLocal fun _ => apart)
    subst same
    refine ⟨rfl, ?_, ?_⟩
    · by_contra outside
      refine changed (lookup_congr a chain fun x member => written.lookupLocal fun here => ?_)
      exact absurd (sound.mem_chain_iff.mp (here ▸ member)) outside
    · intro y nearer
      by_contra hides
      exact changed (sound.lookup_of_hidden written nearer hides)
  locals id other changed := by
    by_contra apart
    exact changed (written.lookupLocal fun here same => apart ⟨here, same⟩)
  entries id other v changed := by
    by_contra apart
    rw [mem_rows_bindings_iff, mem_rows_bindings_iff,
      written.lookupLocal fun here same => apart ⟨here, same⟩] at changed
    exact changed Iff.rfl

theorem writable?_eq_none_iff (a : Arena) (space : SpaceId) :
    a.writable? space = none ↔ a.Closed space := by
  rw [writable?, Closed, contains_eq_false_iff]
  split
  · rename_i filled
    simp [filled]
  · rename_i other
    simp [other]

theorem bind_answer (a : Arena) (space : SpaceId) (name : String) (v : Value) :
    (a.Closed space ∨ (a.lookupLocal space name).isSome = true →
        a.bind space name v = (false, a)) ∧
      (¬ (a.Closed space ∨ (a.lookupLocal space name).isSome = true) →
        (a.bind space name v).1 = true ∧
          (a.bind space name v).2.lookupLocal space name = some v) := by
  rw [← writable?_eq_none_iff, Arena.bind]
  cases writable : a.writable? space with
  | none => simp
  | some s =>
      have live := (writable?_eq_some a writable).2
      simp only [lookupLocal_of_live live, Table.contains]
      by_cases held : (s.bindings.get? name).isSome = true
      · simp [held]
      · simp [held, lookupLocal_writeBindings live]

theorem rebind_answer (a : Arena) (space : SpaceId) (name : String) (v : Value) :
    (a.Closed space → a.rebind space name v = (false, a)) ∧
      (¬ a.Closed space →
        (a.rebind space name v).1 = true ∧
          (a.rebind space name v).2.lookupLocal space name = some v) := by
  rw [← writable?_eq_none_iff, Arena.rebind]
  cases writable : a.writable? space with
  | none => simp
  | some s => simp [lookupLocal_writeBindings (writable?_eq_some a writable).2]

end Arena

namespace World

variable {E : Type} {embedding : Embedding E} {w : World E}

/-- In every world that a run can reach, a lookup finds the nearest binding, and nothing where there
is none. Whatever is bound, bound anew or unbound in a space shows in it alone and under its name
alone, and in a lookup only from below the space and where nothing nearer binds the name. A binding
is refused, and nothing changed, exactly where the space was freed, is the empty one or, unless the
name is bound anew, binds the name already; otherwise the name stands for the value then. -/
theorem names_stand_for_nearest (kept : embedding.Within ScopesEvolve)
    (reached : w.Reached embedding) :
    (∀ id name v, w.arena.lookup id name = some v ↔ ∃ x, w.arena.Sees id name x v) ∧
    (∀ id name, w.arena.lookup id name = none ↔
      ∀ x, w.arena.Climbs id x → w.arena.lookupLocal x name = none) ∧
    (∀ space name a, w.arena.Writes space name a → w.arena.WritesOnly space name a) ∧
    ∀ space name v,
      ((w.arena.Closed space ∨ (w.arena.lookupLocal space name).isSome = true →
          w.arena.bind space name v = (false, w.arena)) ∧
        (¬ (w.arena.Closed space ∨ (w.arena.lookupLocal space name).isSome = true) →
          (w.arena.bind space name v).1 = true ∧
            (w.arena.bind space name v).2.lookupLocal space name = some v)) ∧
      (w.arena.Closed space → w.arena.rebind space name v = (false, w.arena)) ∧
      (¬ w.arena.Closed space →
        (w.arena.rebind space name v).1 = true ∧
          (w.arena.rebind space name v).2.lookupLocal space name = some v) := by
  have sound := reached.sound kept
  refine ⟨fun id name v => sound.lookup_eq_some_iff, fun id name => sound.lookup_eq_none_iff,
    fun space name a written => sound.writesOnly written, fun space name v => ?_⟩
  exact ⟨w.arena.bind_answer space name v, w.arena.rebind_answer space name v⟩

def nestedNames : World Outside :=
  (World.initial 4 (Outside.initial "host" Table.empty)).after TableHost.embedding
    [.newSpace none, .newSpace (some ⟨1⟩), .bind ⟨1⟩ "x" .none, .bind ⟨2⟩ "x" .noneFunction]

/-- The inner binding is found and stays, whatever the outer space binds to the name. -/
theorem names_stand_for_nearest_nestedNames :
    nestedNames.arena.lookup ⟨2⟩ "x" = some .noneFunction ∧
      (nestedNames.arena.rebind ⟨1⟩ "x" .noneFunction).2.lookup ⟨2⟩ "x" =
        nestedNames.arena.lookup ⟨2⟩ "x" ∧
      nestedNames.arena.bind ⟨2⟩ "x" .none = (false, nestedNames.arena) := by
  have reached : nestedNames.Reached TableHost.embedding := ⟨_, _, _, rfl⟩
  have kept : TableHost.embedding.Within ScopesEvolve :=
    TableHost.embedding_within tracks_scopesEvolve
  obtain ⟨nearest, _, only, answers⟩ := names_stand_for_nearest kept reached
  refine ⟨(nearest _ _ _).mpr ⟨⟨2⟩, (reached.sound kept).sees_of_bound rfl rfl⟩, ?_, ?_⟩
  · by_contra changed
    obtain ⟨_, _, hidden⟩ := (only ⟨1⟩ "x" _ (.rebind _)).lookups ⟨2⟩ "x" changed
    cases hidden ⟨2⟩ ⟨.here rfl, .up rfl rfl (.here rfl), by decide⟩
  · exact (answers ⟨2⟩ "x" .none).1.1 (.inr rfl)

end World

end ScriptValues
