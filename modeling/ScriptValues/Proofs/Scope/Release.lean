import ScriptValues.Proofs.Scope.Nearest
import Mathlib.Data.Set.Card

/-! What goes when spaces are released, and what is left.

A whole subtree goes at once, or nothing of it does. A single space goes alone: its children stay
with a way up that ends below it, so from there only what is bound on the rest of the way is found. -/

namespace ScriptValues

namespace Arena

/-- A live space that is neither the empty one nor the shared one. -/
def Prunable (a : Arena) (root : SpaceId) : Prop :=
  a.contains root = true ∧ root ≠ SpaceId.empty ∧ a.selfSpace ≠ some root

/-- Releasing the subtree of `root` has taken `a` to `b`, with `count` spaces released. -/
structure Prunes (a : Arena) (root : SpaceId) (count : Nat) (b : Arena) : Prop where
  released : a.Prunable root →
    ∀ x, (a.contains x = true ∧ b.contains x = false) ↔ a.Climbs x root
  counted : a.Prunable root → {x | a.Climbs x root}.encard = count
  refused : ¬ a.Prunable root → count = 0 ∧ b = a
  shared : ∀ x, x = SpaceId.empty ∨ a.selfSpace = some x →
    a.contains x = true → b.contains x = true
  survivors : ∀ x, b.contains x = true → b.space? x = a.space? x
  parents : ∀ x s parent, b.space? x = some s → s.parent = some parent →
    a.contains parent = true → b.contains parent = true
  lookups : ∀ x, b.contains x = true → ∀ name, b.lookup x name = a.lookup x name

/-- Releasing `id` alone has taken `a` to `b` and answered with what was there. -/
structure Drops (a : Arena) (id : SpaceId) (answer : Option Space) (b : Arena) : Prop where
  answer : answer = if id = SpaceId.empty then none else a.space? id
  spaces : ∀ x, b.space? x = if x = id ∧ id ≠ SpaceId.empty then none else a.space? x
  elsewhere : ∀ x, ¬ a.Climbs x id → ∀ name, b.lookup x name = a.lookup x name
  below : ∀ x, a.Climbs x id → ∀ name v,
    b.lookup x name = some v ↔ ∃ y, a.Sees x name y v ∧ a.Nearer x y id

variable {a b : Arena} {id root x y : SpaceId} {name : String} {v : Value}

/-! A subtree -/

theorem prunable_iff (a : Arena) (root : SpaceId) :
    a.Prunable root ↔ a.freeable root = true := by
  rw [freeable_iff, Prunable, contains_iff]
  constructor
  · rintro ⟨live, filled, own⟩
    exact ⟨filled, own, live⟩
  · rintro ⟨filled, own, live⟩
    exact ⟨live, filled, own⟩

theorem subtree_nodup (a : Arena) (root : SpaceId) : (a.subtree root).Nodup := by
  have allocated : a.allocated.Nodup := by
    apply List.nodup_range.map
    intro m n same
    exact congrArg SpaceId.index same
  exact (allocated.filter _).filter _

theorem Sound.mem_subtree (sound : a.Sound) : x ∈ a.subtree root ↔ a.Climbs x root := by
  rw [mem_subtree_iff, sound.mem_chain_iff]

theorem Sound.encard_subtree (sound : a.Sound) (root : SpaceId) :
    {x | a.Climbs x root}.encard = (a.subtree root).length := by
  have listed : {x | a.Climbs x root} = ((⟨a.subtree root, subtree_nodup a root⟩ : Finset SpaceId) :
      Set SpaceId) := by
    ext x
    exact sound.mem_subtree.symm
  rw [listed, Set.encard_coe_eq_coe_finsetCard]
  rfl

theorem Sound.contains_freeSubtree (sound : a.Sound) (prunable : a.Prunable root) (x : SpaceId) :
    (a.freeSubtree root).2.contains x = true ↔ a.contains x = true ∧ ¬ a.Climbs x root := by
  rw [contains, space?_freeSubtree a ((prunable_iff a root).mp prunable), contains,
    ← sound.mem_chain_iff]
  by_cases doomed : root ∈ a.chain x <;> simp [doomed]

theorem Sound.outside_of_survivor (sound : a.Sound) (prunable : a.Prunable root)
    (survives : (a.freeSubtree root).2.contains x = true) : root ∉ a.chain x := by
  rw [sound.mem_chain_iff]
  exact ((sound.contains_freeSubtree prunable x).mp survives).2

theorem Sound.prunes (sound : a.Sound) (root : SpaceId) :
    a.Prunes root (a.freeSubtree root).1 (a.freeSubtree root).2 := by
  by_cases prunable : a.Prunable root
  · have survivor := fun x => sound.contains_freeSubtree prunable x
    constructor
    case released =>
      intro _ x
      rw [← Bool.not_eq_true, survivor x, not_and_not_right]
      constructor
      · rintro ⟨live, doomed⟩
        exact doomed live
      · intro climbs
        exact ⟨(contains_iff a x).mpr climbs.starts, fun _ => climbs⟩
    case counted =>
      intro _
      rw [sound.encard_subtree, Arena.freeSubtree, if_pos ((prunable_iff a root).mp prunable)]
    case refused => exact fun refused => absurd prunable refused
    case shared =>
      rintro x (rfl | own) live
      · exact (contains_iff _ _).mpr ⟨_, (sound.freeSubtree root).emptySpace⟩
      · exact ((keepsShared_freeSubtree a root sound).2 x ⟨own, live⟩).2
    case survivors =>
      intro x survives
      exact space?_freeSubtree_of_not_mem a (sound.outside_of_survivor prunable survives)
    case parents =>
      intro x s parent live below above
      have survives := (contains_iff _ x).mpr ⟨s, live⟩
      have outside := sound.outside_of_survivor prunable survives
      rw [space?_freeSubtree_of_not_mem a outside] at live
      refine (survivor parent).mpr ⟨above, fun climbs => ?_⟩
      exact outside (sound.mem_chain_iff.mpr (.up live below climbs))
    case lookups =>
      intro x survives name
      exact lookup_freeSubtree_of_not_mem a (sound.outside_of_survivor prunable survives) name
  · have kept : a.freeSubtree root = (0, a) := by
      rw [Arena.freeSubtree, if_neg fun freeable => prunable ((prunable_iff a root).mpr freeable)]
    rw [kept]
    exact ⟨fun h => absurd h prunable, fun h => absurd h prunable, fun _ => ⟨rfl, rfl⟩,
      fun _ _ live => live, fun _ _ => rfl,
      fun _ _ _ _ _ live => live, fun _ _ _ => rfl⟩

/-! A single space -/

theorem free_fst (a : Arena) (id : SpaceId) :
    (a.free id).1 = if id = SpaceId.empty then none else a.space? id := by
  rw [Arena.free, ← writable?]
  cases a.writable? id <;> rfl

theorem space?_free (a : Arena) (id x : SpaceId) :
    (a.free id).2.space? x = if x = id ∧ id ≠ SpaceId.empty then none else a.space? x := by
  rw [Arena.free, writable?]
  by_cases filled : id = SpaceId.empty
  · simp [filled]
  · cases live : a.space? id with
    | none =>
        by_cases same : x = id
        · simp [filled, same, live]
        · simp [filled, same]
    | some s => simp [filled, space?_writeSlot_none, eq_comm]

section Cut

/-! The way up in an arena that has lost one space. -/

variable (cut : ∀ z, b.space? z = if z = id then none else a.space? z)

include cut

theorem space?_cut {s : Space} : b.space? x = some s ↔ a.space? x = some s ∧ x ≠ id := by
  rw [cut x]
  by_cases lost : x = id <;> simp [lost]

theorem Sound.climbs_cut (sound : a.Sound) (below : a.Climbs x id) :
    b.Climbs x y ↔ a.Nearer x y id := by
  constructor
  · intro climbs
    induction climbs with
    | here live =>
        obtain ⟨live, apart⟩ := (space?_cut cut).mp live
        exact ⟨.here live, below, apart⟩
    | @up x parent y s live above _ ih =>
        obtain ⟨live, apart⟩ := (space?_cut cut).mp live
        cases below with
        | here _ => exact absurd rfl apart
        | up live' above' rest =>
            cases live.symm.trans live'
            cases above.symm.trans above'
            obtain ⟨lower, upper, apart⟩ := ih rest
            exact ⟨.up live above lower, upper, apart⟩
  · rintro ⟨lower, upper, apart⟩
    induction lower with
    | here live => exact .here ((space?_cut cut).mpr ⟨live, apart⟩)
    | @up x parent y s live above rest ih =>
        have kept : x ≠ id := by
          rintro rfl
          exact apart (sound.climbs_antisymm upper (.up live above rest))
        exact .up ((space?_cut cut).mpr ⟨live, kept⟩) above (ih (rest.trans upper) upper apart)

theorem lookupLocal_cut (apart : x ≠ id) (name : String) :
    b.lookupLocal x name = a.lookupLocal x name := by
  rw [lookupLocal, cut x, if_neg apart, lookupLocal]

theorem Sound.sees_cut (sound : a.Sound) (below : a.Climbs x id) :
    b.Sees x name y v ↔ a.Sees x name y v ∧ a.Nearer x y id := by
  constructor
  · rintro ⟨above, bound, first⟩
    have nearer := (sound.climbs_cut cut below).mp above
    rw [lookupLocal_cut cut nearer.2.2] at bound
    refine ⟨⟨nearer.1, bound, fun z hidden => ?_⟩, nearer⟩
    obtain ⟨lower, upper, apart⟩ := hidden
    have beneath : a.Climbs z id := upper.trans nearer.2.1
    have kept : z ≠ id := by
      rintro rfl
      exact nearer.2.2 (sound.climbs_antisymm nearer.2.1 upper)
    rw [← lookupLocal_cut cut kept]
    exact first z ⟨(sound.climbs_cut cut below).mpr ⟨lower, beneath, kept⟩,
      (sound.climbs_cut cut beneath).mpr ⟨upper, nearer.2⟩, apart⟩
  · rintro ⟨⟨above, bound, first⟩, nearer⟩
    refine ⟨(sound.climbs_cut cut below).mpr nearer, ?_, fun z hidden => ?_⟩
    · rw [lookupLocal_cut cut nearer.2.2]
      exact bound
    · obtain ⟨lower, upper, apart⟩ := hidden
      have lower' := (sound.climbs_cut cut below).mp lower
      have upper' := (sound.climbs_cut cut lower'.2.1).mp upper
      rw [lookupLocal_cut cut lower'.2.2]
      exact first z ⟨lower'.1, upper'.1, apart⟩

theorem Sound.lookup_cut_elsewhere (sound : a.Sound) (outside : ¬ a.Climbs x id) (name : String) :
    b.lookup x name = a.lookup x name := by
  have kept : ∀ z ∈ a.chain x, z ≠ id := by
    rintro z member rfl
    exact outside (sound.mem_chain_iff.mp member)
  have chain : b.chain x = a.chain x := by
    apply chain_congr
    · intro z _ dead
      rw [cut z, dead, ite_self]
    · intro z member
      rw [cut z, if_neg (kept z member)]
  exact lookup_congr a chain fun z member => lookupLocal_cut cut (kept z member) name

end Cut

theorem Sound.nearer_empty (sound : a.Sound) (below : a.Climbs x SpaceId.empty)
    (sees : a.Sees x name y v) : a.Nearer x y SpaceId.empty := by
  have filled : y ≠ SpaceId.empty := by
    rintro rfl
    have bound := sees.bound
    rw [lookupLocal_of_live sound.emptySpace] at bound
    cases bound
  refine ⟨sees.above, ?_, filled⟩
  rcases sees.above.linear below with upper | lower
  · exact upper
  · have member := sound.mem_chain_iff.mpr lower
    rw [sound.chain_empty, List.mem_singleton] at member
    exact absurd member filled

theorem Sound.drops (sound : a.Sound) (id : SpaceId) :
    a.Drops id (a.free id).1 (a.free id).2 := by
  by_cases filled : id = SpaceId.empty
  · subst filled
    have kept : a.free SpaceId.empty = (none, a) := by
      rw [Arena.free, writable?, if_pos rfl]
    rw [kept]
    refine ⟨by simp, by simp, fun _ _ _ => rfl, fun x below name v => ?_⟩
    rw [sound.lookup_eq_some_iff]
    constructor
    · rintro ⟨y, sees⟩
      exact ⟨y, sees, sound.nearer_empty below sees⟩
    · rintro ⟨y, sees, _⟩
      exact ⟨y, sees⟩
  · have cut : ∀ z, (a.free id).2.space? z = if z = id then none else a.space? z := by
      intro z
      rw [space?_free]
      simp [filled]
    refine ⟨free_fst a id, space?_free a id, fun x outside name => ?_, fun x below name v => ?_⟩
    · exact sound.lookup_cut_elsewhere cut outside name
    · rw [(sound.free id).lookup_eq_some_iff]
      exact exists_congr fun y => sound.sees_cut cut below

end Arena

namespace World

variable {E : Type} {embedding : Embedding E} {w : World E}

/-- In every world that a run can reach, releasing a subtree releases the spaces from which one comes
to its root and says how many they are, unless the root is gone or one of the shared spaces, when
nothing is released. The rest is as it was, hangs where it hung and finds what it found. Releasing a
single space takes that one alone, and never the empty one: where the way up does not lead through
it the same is found as before, and elsewhere what is bound on the way to it. -/
theorem releases_are_exact (kept : embedding.Within ScopesEvolve)
    (reached : w.Reached embedding) :
    (∀ root, w.arena.Prunes root (w.arena.freeSubtree root).1 (w.arena.freeSubtree root).2) ∧
      ∀ id, w.arena.Drops id (w.arena.free id).1 (w.arena.free id).2 := by
  have sound := reached.sound kept
  exact ⟨sound.prunes, sound.drops⟩

/-- Four spaces in a row, of which the second was freed, and one more below the first. Names are
bound in the first, the third and the fourth. -/
def severedScopes : World Outside :=
  (World.initial 4 (Outside.initial "host" Table.empty)).after TableHost.embedding
    [.newSpace none, .newSpace (some ⟨1⟩), .newSpace (some ⟨2⟩), .newSpace (some ⟨3⟩),
      .newSpace (some ⟨1⟩), .bind ⟨1⟩ "x" .none, .bind ⟨3⟩ "y" .none, .bind ⟨4⟩ "z" .none, .free ⟨2⟩]

/-- The subtree of the first space has lost what hung below the cut, and the third space takes its
name away from the fourth. -/
theorem releases_are_exact_severedScopes :
    {x | severedScopes.arena.Climbs x ⟨1⟩}.encard = 2 ∧
      (severedScopes.arena.freeSubtree ⟨1⟩).2.lookup ⟨4⟩ "y" =
        severedScopes.arena.lookup ⟨4⟩ "y" ∧
      ¬ (∃ y, severedScopes.arena.Sees ⟨4⟩ "y" y .none ∧ severedScopes.arena.Nearer ⟨4⟩ y ⟨3⟩) ∧
      (severedScopes.arena.free ⟨3⟩).2.lookup ⟨4⟩ "z" = some .none := by
  have reached : severedScopes.Reached TableHost.embedding := ⟨_, _, _, rfl⟩
  have kept : TableHost.embedding.Within ScopesEvolve :=
    TableHost.embedding_within tracks_scopesEvolve
  obtain ⟨prunes, drops⟩ := releases_are_exact kept reached
  have below : severedScopes.arena.Climbs ⟨4⟩ ⟨3⟩ := .up rfl rfl (.here rfl)
  have hidden : (severedScopes.arena.free ⟨3⟩).2.lookup ⟨4⟩ "y" = none := by decide +kernel
  have count : (severedScopes.arena.freeSubtree ⟨1⟩).1 = 2 := by decide +kernel
  refine ⟨?_, (prunes ⟨1⟩).lookups ⟨4⟩ (by decide +kernel) "y", ?_, ?_⟩
  · rw [(prunes ⟨1⟩).counted ⟨rfl, by decide, nofun⟩, count]
    rfl
  · rw [← (drops ⟨3⟩).below ⟨4⟩ below, hidden]
    nofun
  · exact ((drops ⟨3⟩).below ⟨4⟩ below "z" .none).mpr
      ⟨⟨4⟩, (reached.sound kept).sees_of_bound rfl rfl, .here rfl, below, by decide⟩

end World

end ScriptValues
