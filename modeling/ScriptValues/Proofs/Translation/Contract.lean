import ScriptValues.Proofs.Copy.Allocation
import ScriptValues.Proofs.Scope.Rebinding
import ScriptValues.Proofs.Scope.Run
import ScriptValues.Proofs.Translation.Owned

/-! What is asked of a translator, and what a translation that keeps to it leaves behind. -/

namespace ScriptValues

variable {E : Type}

namespace World

/-- `c` is an aggregate with a fresh space below `parent`, and everything new since `w` lies there. -/
def Fresh (w : World E) (parent : SpaceId) (c : Value) (u : World E) : Prop :=
  ∃ q s t, u.backing c = .aggregate q s ∧ w.arena.slots.size ≤ s.index ∧
    u.arena.space? s = some t ∧ t.parent = some parent ∧
    ∀ id r, w.arena.slots.size ≤ id.index → u.arena.space? id = some r → s ∈ u.arena.chain id

/-- A translation below `parent` that leads from `w` to `u`. Spaces that were there stay as they were.
A success is a fresh aggregate, and a failure leaves nothing new. A record names another space only
if what it named before was not live, as when a value that came along was itself asked for its
members. -/
structure Translation (w : World E) (parent : SpaceId) (answer : Except Fault Value)
    (u : World E) : Prop where
  evolves : w.arena.Evolves u.arena
  kept : ∀ id, w.arena.Allocated id → u.arena.space? id = w.arena.space? id
  fresh : ∀ c, answer = .ok c → w.Fresh parent c u
  undone : ∀ fault, answer = .error fault →
    (∀ id, w.arena.slots.size ≤ id.index → u.arena.space? id = none) ∧
      ∀ v, v.index < w.cells.size → (u.cell v).translated = (w.cell v).translated
  bridges : ∀ v b p t, w.backing v = .aggregateProperty b p t → u.backing v = .aggregateProperty b p t
  records : ∀ v, (u.cell v).translated = (w.cell v).translated ∨
    (∀ r, (w.cell v).translated = some r → w.arena.space? r = none) ∧
      ∀ r, (u.cell v).translated = some r → u.Recorded w.arena.slots.size v r

/-- In `w`, `v` is an aggregate property whose translator keeps to its contract when it is asked. -/
def Bridged (embedding : Embedding E) (w : World E) (v : Value) : Prop :=
  ∃ b parent translator, w.backing v = .aggregateProperty b parent translator ∧
    ((b.read w.outside).isNull = false →
      w.Translation parent (embedding.translate translator (b.read w.outside) parent w).1
        (embedding.translate translator (b.read w.outside) parent w).2)

def ReadsNull (w : World E) (v : Value) : Prop :=
  ∃ b parent translator, w.backing v = .aggregateProperty b parent translator ∧
    (b.read w.outside).isNull = true

def Refused (embedding : Embedding E) (w : World E) (v : Value) (fault : Fault) : Prop :=
  ∃ b parent translator, w.backing v = .aggregateProperty b parent translator ∧
    (b.read w.outside).isNull = false ∧
    (embedding.translate translator (b.read w.outside) parent w).1 = .error fault

variable {w u : World E} {parent : SpaceId} {answer : Except Fault Value}

theorem Translation.chain (made : w.Translation parent answer u) {id : SpaceId}
    (there : w.arena.Allocated id) : u.arena.chain id = w.arena.chain id :=
  Arena.chain_congr_below _ fun x age => made.kept x (Nat.lt_of_le_of_lt age there)

theorem Translation.record_of_live (made : w.Translation parent answer u) {v : Value} {r : SpaceId}
    (known : (w.cell v).translated = some r) (live : ∃ s, w.arena.space? r = some s) :
    (u.cell v).translated = some r := by
  rcases made.records v with same | ⟨dead, _⟩
  · exact same.trans known
  · obtain ⟨s, live⟩ := live
    rw [dead r known] at live
    cases live

theorem Recorded.translation {floor : Nat} {v : Value} {r : SpaceId} (recorded : w.Recorded floor v r)
    (made : w.Translation parent answer u) : u.Recorded floor v r := by
  obtain ⟨above, there, b, p, translator, held, hangs⟩ := recorded
  have grown := (Arena.grows_of_evolves made.evolves).size
  refine ⟨above, Nat.lt_of_lt_of_le there grown, b, p, translator, made.bridges v b p _ held, ?_⟩
  intro s live
  rw [made.kept r there] at live
  exact hangs s live

/-- After a translation, only what it brought along is still to be put on record. -/
theorem Owned.translation {values : Value → Prop} {start : Arena} {extra : List SpaceId}
    (owned : Owned values start [] w) (made : w.Translation parent answer u)
    (new : ∀ id r, w.arena.slots.size ≤ id.index → u.arena.space? id = some r →
      ∃ s ∈ extra, s ∈ u.arena.chain id) :
    Owned values start extra u where
  sound := owned.sound.evolve made.evolves
  base := owned.base
  grown := Nat.le_trans owned.grown (Arena.grows_of_evolves made.evolves).size
  old id there := by
    have still : w.arena.Allocated id := Nat.lt_of_lt_of_le there owned.grown
    calc
      u.arena.space? id = w.arena.space? id := made.kept id still
      _ = start.space? id := owned.old id there
  recorded v member r filed := by
    rcases made.records v with same | ⟨_, new⟩
    · exact (owned.recorded v member r (same.symm.trans filed)).translation made
    · obtain ⟨above, rest⟩ := new r filed
      exact ⟨Nat.le_trans owned.grown above, rest⟩
  covered id s newer live := by
    by_cases there : w.arena.Allocated id
    · rw [made.kept id there] at live
      rw [made.chain there]
      rcases owned.covered id s newer live with ⟨v, r, member, filed, above⟩ | ⟨_, listed, _⟩
      · have same := made.record_of_live filed (Arena.live_of_mem_chain _ above)
        exact .inl ⟨v, r, member, same, above⟩
      · cases listed
    · exact .inr (new id s (Nat.le_of_not_lt there) live)

theorem Allocates.translation (known : w.Allocates u) (evolves : w.arena.Evolves u.arena)
    (bare : ∀ v, w.cells.size ≤ v.index → (u.cell v).translated = none)
    (fresh : ∀ c, answer = .ok c → w.Fresh parent c u)
    (undone : ∀ fault, answer = .error fault → ∀ id, w.arena.slots.size ≤ id.index →
      u.arena.space? id = none) :
    w.Translation parent answer u where
  evolves := evolves
  kept id there := known.keeps.space? (Nat.zero_le _) there
  fresh := fresh
  undone fault answer := ⟨undone fault answer, fun _ present =>
    congrArg Cell.translated (known.keeps.cell present)⟩
  bridges v b p t held := by
    rw [known.keeps.backing (present_of_aggregateProperty held)]
    exact held
  records v := by
    by_cases present : v.index < w.cells.size
    · exact .inl (congrArg Cell.translated (known.keeps.cell present))
    · have new := Nat.le_of_not_lt present
      left
      calc
        (u.cell v).translated = none := bare v new
        _ = (w.cell v).translated := (translated_of_new new).symm

end World

open Step

/-- A translator that wraps the payload in an aggregate keeps to its contract, whether there is room
for the aggregate or not. -/
theorem newAggregate_translation (ty : Ty) (parent : SpaceId) (p : Payload) (w : World E) :
    w.Translation parent ((Prod.fst <$> newAggregate ty parent p : Step E Value) w).1
      ((Prod.fst <$> newAggregate ty parent p : Step E Value) w).2 := by
  have evolves : World.ScopesEvolve w ((Prod.fst <$> newAggregate ty parent p : Step E Value) w).2 :=
    within_map _ (within_newAggregate World.tracks_scopesEvolve.follows ty parent p) w
  revert evolves
  rw [map_apply, newAggregate, bind_apply]
  rcases made : Step.newSpace (some parent) w with ⟨fault | space, x⟩
  · intro evolves
    have same := World.newSpace_error made
    subst same
    refine (World.composes_allocates.refl x).translation evolves ?_ ?_ ?_
    · intro v new
      exact World.translated_of_new new
    · intro c answer
      cases answer
    · intro _ _ id beyond
      exact Arena.space?_eq_none_of_not_allocated _ (Nat.not_lt_of_le beyond)
  · obtain ⟨depth, same, grown⟩ := World.newSpace_ok made
    subst same grown
    let c : Cell E := { ty, mutable := true, backing := .aggregate p ⟨w.arena.slots.size⟩ }
    let y := ((w.withArena (w.arena.allocate (some parent) depth).2).addCell c).2
    let b := (y.arena.bind ⟨w.arena.slots.size⟩ selfName ⟨w.cells.size⟩).2
    intro evolves
    change w.Translation parent (.ok ⟨w.cells.size⟩) (y.withArena b)
    have known : w.Allocates (y.withArena b) :=
      (World.composes_allocates.trans (World.allocates_allocate w _ depth)
        (World.allocates_addCell _ c)).bind (Nat.le_refl _) selfName _
    have bound : y.arena.Rebinds ⟨w.arena.slots.size⟩ b := .bind selfName ⟨w.cells.size⟩
    have unbound : ∀ id, y.arena.space? id =
        if id.index = w.arena.slots.size then some ⟨Table.empty, some parent, depth⟩
        else w.arena.space? id := Arena.space?_allocate _ _ _
    have cells : ∀ v, (y.withArena b).cell v = (w.cells.push c).read v.index := fun _ => rfl
    refine known.translation evolves ?_ ?_ ?_
    · intro v new
      rw [cells]
      by_cases last : v.index = w.cells.size
      · rw [last, Heap.read_push_self]
      · rw [Heap.read_push_other _ _ last]
        exact World.translated_of_new new
    · intro d answer
      cases answer
      have place := bound.place ⟨w.arena.slots.size⟩
      rw [unbound, if_pos rfl] at place
      obtain ⟨t, live, same⟩ := Option.map_eq_some_iff.mp place
      refine ⟨p, ⟨w.arena.slots.size⟩, t, ?_, Nat.le_refl _, live, congrArg Prod.fst same, ?_⟩
      · exact congrArg Cell.backing ((cells _).trans (Heap.read_push_self w.cells c))
      · intro id r new there
        by_cases own : id = ⟨w.arena.slots.size⟩
        · subst own
          exact Arena.self_mem_chain b live
        · have other : id.index ≠ w.arena.slots.size := fun same => own (SpaceId.eq_of_index same)
          change b.space? id = some r at there
          rw [bound.other own, unbound, if_neg other,
            Arena.space?_eq_none_of_not_allocated _ (Nat.not_lt_of_le new)] at there
          cases there
    · intro fault answer
      cases answer

end ScriptValues
