import ScriptValues.Proofs.Copy.Independence
import ScriptValues.Proofs.Scope.Rebinding
import ScriptValues.Proofs.Scope.Sound
import ScriptValues.Proofs.World.Outcome

/-! The scopes that a copy lives in.

The space of each copied aggregate hangs where the space of its original hangs. For a member that was
defined within the space of the aggregate it belongs to, that is the original's space: the copied
member then depends on the original. A copy is free of the original exactly when no aggregate that it
is made from hangs below a space of the original. -/

namespace ScriptValues

variable {E : Type}

namespace World

variable {w u : World E} {v c : Value}

theorem Reaches.leads {x y : Value} (path : w.Reaches x y) : w.Leads x y := by
  induction path with
  | refl => exact Relation.ReflTransGen.refl
  | tail _ step ih => exact Relation.ReflTransGen.tail ih (.content step)

def MemberSpace (w : World E) (v : Value) (id : SpaceId) : Prop :=
  ∃ x p, w.Reaches v x ∧ w.backing x = .aggregate p id

/-- No aggregate that a copy of `v` is made from hangs below a member space of `v`. -/
def Detached (w : World E) (v : Value) : Prop :=
  ∀ x p id parent, w.CarriesOn v x → w.backing x = .aggregate p id →
    (w.arena.space? id).bind (·.parent) = some parent →
    ∀ y ∈ w.arena.chain parent, ¬ w.MemberSpace v y

/-- In `u`, the chains of the aggregates within `c` keep clear of the member spaces that `v` had in
`w`. -/
def ApartFrom (w : World E) (v : Value) (u : World E) (c : Value) : Prop :=
  ∀ d p id, u.Reaches c d → u.backing d = .aggregate p id →
    ∀ y ∈ u.arena.chain id, ¬ w.MemberSpace v y

theorem Whole.allocated_memberSpace (whole : w.Whole v) {id : SpaceId}
    (space : w.MemberSpace v id) : w.arena.Allocated id := by
  obtain ⟨x, p, path, held⟩ := space
  have there := (whole x path).2
  rw [held] at there
  exact there

theorem Keeps.chain (keeps : w.Keeps u) {id : SpaceId} (there : w.arena.Allocated id) :
    u.arena.chain id = w.arena.chain id :=
  Arena.chain_congr_below _ fun _ age =>
    keeps.space? (Nat.zero_le _) (Nat.lt_of_le_of_lt age there)

/-- Above its own space, the chain of a copied aggregate is that of the original. -/
theorem mem_chain_of_copy (keeps : w.Keeps u) (sound : w.arena.Sound) {space id : SpaceId}
    (there : w.arena.Allocated space) (new : w.arena.slots.size ≤ id.index) {s : Space}
    (live : u.arena.space? id = some s)
    (hangs : s.parent = (w.arena.space? space).bind (·.parent)) (y : SpaceId) :
    y ∈ u.arena.chain id ↔
      y = id ∨ ∃ parent, (w.arena.space? space).bind (·.parent) = some parent ∧
        y ∈ w.arena.chain parent := by
  cases found : (w.arena.space? space).bind (·.parent) with
  | none =>
      rw [Arena.chain_of_root _ live (hangs.trans found), List.mem_singleton]
      constructor
      · exact .inl
      · rintro (same | ⟨_, absent, _⟩)
        · exact same
        · cases absent
  | some parent =>
      obtain ⟨r, original, below⟩ := Option.bind_eq_some_iff.mp found
      have older : parent.index < w.arena.slots.size :=
        Nat.lt_trans (sound.older space r parent original below) there
      rw [Arena.chain_of_parent _ live (hangs.trans found) (Nat.lt_of_lt_of_le older new),
        List.mem_cons, keeps.chain older]
      constructor
      · rintro (first | later)
        · exact .inl first
        · exact .inr ⟨parent, rfl, later⟩
      · rintro (first | ⟨_, same, later⟩)
        · exact .inl first
        · cases same
          exact .inr later

theorem Whole.not_memberSpace_of_new (whole : w.Whole v) {id : SpaceId}
    (new : w.arena.slots.size ≤ id.index) : ¬ w.MemberSpace v id :=
  fun space => Nat.not_lt_of_le new (whole.allocated_memberSpace space)

theorem Whole.allocated (whole : w.Whole v) {x : Value} (path : w.Reaches v x) {p : Payload}
    {space : SpaceId} (held : w.backing x = .aggregate p space) : w.arena.Allocated space :=
  whole.allocated_memberSpace ⟨x, p, path, held⟩

section

variable (keeps : w.Keeps u) (sound : w.arena.Sound) (whole : w.Whole v) (copied : w.Copied u v c)

include keeps sound whole copied

theorem apartFrom_of_detached (detached : w.Detached v) : w.ApartFrom v u c := by
  intro d p id path now y member
  obtain ⟨x, carried, n, _, _, copy⟩ := copied.of_leads keeps path.leads
  obtain ⟨space, s, held, new, live, hangs, _⟩ := copy.of_aggregate keeps now
  have there := whole.allocated carried.reaches held
  rcases (mem_chain_of_copy keeps sound there new live hangs y).mp member with
    same | ⟨parent, below, above⟩
  · exact same ▸ whole.not_memberSpace_of_new new
  · exact detached x p space parent carried held below y above

theorem detached_of_apartFrom (apart : w.ApartFrom v u c) : w.Detached v := by
  intro x p space parent carried held below y above
  obtain ⟨d, path, n, _, _, copy⟩ := copied.of_carriesOn carried
  obtain ⟨id, s, now, new, live, hangs⟩ := copy.to_aggregate held
  have there := whole.allocated carried.reaches held
  apply apart d p id path now y
  exact (mem_chain_of_copy keeps sound there new live hangs y).mpr (.inr ⟨parent, below, above⟩)

end

/-- A copy keeps clear of the original's member spaces exactly when no aggregate that it is made from
hangs below one of them. In that case releasing the original and binding names in its spaces leave
every member of the copy and every lookup from the copy as they were. -/
theorem deepCopy_apart_iff (grounded : w.Grounded) (sound : w.arena.Sound)
    (acyclic : w.Acyclic v) (whole : w.Whole v) (done : deepCopy v w = (.ok c, u)) :
    (w.ApartFrom v u c ↔ w.Detached v) ∧
      (w.Detached v → ∀ d q id, u.Reaches c d → u.backing d = .aggregate q id → ∀ name,
        (∀ p space, w.backing v = .aggregate p space →
          (∀ embedding, (member embedding d name (u.releaseSubtree space)).1 =
            (member embedding d name u).1) ∧
          (u.releaseSubtree space).arena.lookup id name = u.arena.lookup id name) ∧
        ∀ a, Arena.RebindsIn (w.MemberSpace v) u.arena a →
          a.lookup id name = u.arena.lookup id name) := by
  obtain ⟨_, grown, copied⟩ := deepCopy_copied grounded.space acyclic whole done
  have apart := apartFrom_of_detached grown.keeps sound whole copied
  refine ⟨⟨detached_of_apartFrom grown.keeps sound whole copied, apart⟩, ?_⟩
  intro detached d q id path now name
  have clear := apart detached d q id path now
  refine ⟨fun p space held => ?_, fun a changed => changed.lookup clear name⟩
  have outside : space ∉ u.arena.chain id :=
    fun above => clear space above ⟨v, p, reaches_refl v, held⟩
  refine ⟨fun embedding => ?_, Arena.lookup_freeSubtree_of_not_mem _ outside name⟩
  rw [member_aggregate now, member_aggregate (w := u.releaseSubtree space) now]
  simp only [releaseSubtree, withArena, Arena.lookupLocal,
    Arena.space?_freeSubtree_of_not_mem _ outside]

def silentEmbedding : Embedding Unit := ⟨fun _ _ _ => return .none, fun _ _ _ => return .none⟩

theorem sound_aggregateWithList : aggregateWithList.arena.Sound := by
  have made : (Arena.initial 4).newSpace (some SpaceId.empty) =
      .ok ((Arena.initial 4).allocate (some SpaceId.empty) 1) := rfl
  have grown := (Arena.sound_initial 4).move (.newSpace made)
  exact (grown.move (.bind ⟨1⟩ selfName ⟨2⟩)).move (.bind ⟨1⟩ "items" ⟨4⟩)

theorem memberSpace_aggregateWithList {id : SpaceId}
    (space : aggregateWithList.MemberSpace ⟨2⟩ id) : id = ⟨1⟩ := by
  obtain ⟨x, p, path, held⟩ := space
  rcases reaches_aggregateWithList path with same | same | same
  · subst same
    cases held
    rfl
  · subst same
    cases held
  · subst same
    cases held

theorem detached_aggregateWithList : aggregateWithList.Detached ⟨2⟩ := by
  intro x p id parent carried held below y above member
  have same := memberSpace_aggregateWithList ⟨x, p, carried.reaches, held⟩
  subst same
  cases below
  have only : aggregateWithList.arena.chain SpaceId.empty = [SpaceId.empty] :=
    Arena.chain_of_root _ rfl rfl
  rw [only, List.mem_singleton] at above
  rw [above] at member
  cases memberSpace_aggregateWithList member

/-- Releasing the original leaves the copy's list in place. -/
theorem deepCopy_apart_aggregateWithList :
    let u := (deepCopy ⟨2⟩ aggregateWithList).2
    (member silentEmbedding ⟨5⟩ "items" (u.releaseSubtree ⟨1⟩)).1 = .ok ⟨7⟩ := by
  intro u
  have grounded : aggregateWithList.Grounded :=
    ⟨show 0 < 2 by decide, show 0 < 5 by decide, rfl, rfl⟩
  have done : deepCopy ⟨2⟩ aggregateWithList = (.ok ⟨5⟩, u) := rfl
  have now : u.backing ⟨5⟩ = .aggregate .null ⟨2⟩ := rfl
  have kept := (deepCopy_apart_iff grounded sound_aggregateWithList
    height_aggregateWithList.acyclic whole_aggregateWithList done).2
    detached_aggregateWithList ⟨5⟩ .null ⟨2⟩ (reaches_refl _) now "items"
  rw [(kept.1 .null ⟨1⟩ rfl).1 silentEmbedding, member_aggregate now]
  rfl

/-- A default aggregate whose member is itself an aggregate, chained to the space of the outer one. -/
def nestedDefault : World Unit :=
  (defaultFor (.aggregate "Outer" [⟨"inner", .aggregate "Inner" [⟨"x", .int, .field⟩] false, .field⟩]
    false) ⟨1⟩ (Step.newSpace none (World.initial 4 ())).2).2

/-- The copy of a nested default hangs below the original: once the original is released, the copy's
inner member has lost its own members. -/
theorem deepCopy_nestedDefault_not_apart :
    let u := (deepCopy ⟨2⟩ nestedDefault).2
    deepCopy ⟨2⟩ nestedDefault = (.ok ⟨5⟩, u) ∧ nestedDefault.backing ⟨2⟩ = .aggregate .null ⟨2⟩ ∧
      u.backing ⟨6⟩ = .aggregate .null ⟨5⟩ ∧ u.Reaches ⟨5⟩ ⟨6⟩ ∧
      ¬ nestedDefault.ApartFrom ⟨2⟩ u ⟨5⟩ ∧
      (member silentEmbedding ⟨6⟩ "x" u).1 = .ok ⟨7⟩ ∧
      (member silentEmbedding ⟨6⟩ "x" (u.releaseSubtree ⟨2⟩)).1 = .ok .none := by
  intro u
  have inner : u.backing ⟨6⟩ = .aggregate .null ⟨5⟩ := rfl
  have other : "inner" ≠ selfName := by decide
  have path : u.Reaches ⟨5⟩ ⟨6⟩ := (reaches_refl _).tail (.member rfl other rfl)
  have above : (⟨2⟩ : SpaceId) ∈ u.arena.chain ⟨5⟩ := by
    have below : u.arena.chain ⟨5⟩ = ⟨5⟩ :: u.arena.chain ⟨2⟩ :=
      Arena.chain_of_parent _ rfl rfl (by decide)
    rw [below]
    exact List.mem_cons_of_mem _ (Arena.self_mem_chain u.arena rfl)
  refine ⟨rfl, rfl, inner, path, ?_, ?_, ?_⟩
  · intro apart
    exact apart ⟨6⟩ .null ⟨5⟩ path inner ⟨2⟩ above ⟨⟨2⟩, .null, reaches_refl _, rfl⟩
  · rw [member_aggregate inner]
    rfl
  · have freeable : u.arena.freeable ⟨2⟩ = true := rfl
    have gone : (u.releaseSubtree ⟨2⟩).arena.space? ⟨5⟩ = none := by
      simp only [releaseSubtree, withArena, Arena.space?_freeSubtree _ freeable, if_pos above]
    rw [member_aggregate (w := u.releaseSubtree ⟨2⟩) inner, Arena.lookupLocal, gone]
    rfl

end World

end ScriptValues
