import ScriptValues.Proofs.Scope.Slots

/-! The chain of a space: what is on it, and what leaves it as it is.

A chain runs from a space to older and older ones, so `x ∈ a.chain y` is the order of the forest of
scopes: reflexive on live spaces, transitive, and only ever downwards in age. -/

namespace ScriptValues

namespace Arena

variable (a : Arena)

theorem chain_of_dead {id : SpaceId} (dead : a.space? id = none) : a.chain id = [] := by
  rw [chain]
  simp only [dead]

theorem chain_of_root {id : SpaceId} {s : Space} (live : a.space? id = some s)
    (root : s.parent = none) : a.chain id = [id] := by
  rw [chain]
  simp only [live, root]

theorem chain_of_parent {id parent : SpaceId} {s : Space} (live : a.space? id = some s)
    (below : s.parent = some parent) (older : parent.index < id.index) :
    a.chain id = id :: a.chain parent := by
  rw [chain]
  simp only [live, below, if_pos older]

theorem chain_cases (id : SpaceId) :
    (a.space? id = none ∧ a.chain id = []) ∨
      ((∃ s, a.space? id = some s) ∧ a.chain id = [id]) ∨
      ∃ s parent, a.space? id = some s ∧ s.parent = some parent ∧ parent.index < id.index ∧
        a.chain id = id :: a.chain parent := by
  cases found : a.space? id with
  | none => exact Or.inl ⟨rfl, chain_of_dead a found⟩
  | some s =>
      cases below : s.parent with
      | none => exact Or.inr (Or.inl ⟨⟨s, rfl⟩, chain_of_root a found below⟩)
      | some parent =>
          by_cases older : parent.index < id.index
          · exact Or.inr (Or.inr ⟨s, parent, rfl, below, older,
              chain_of_parent a found below older⟩)
          · refine Or.inr (Or.inl ⟨⟨s, rfl⟩, ?_⟩)
            rw [chain]
            simp only [found, below, if_neg older]

theorem self_mem_chain {id : SpaceId} {s : Space} (live : a.space? id = some s) :
    id ∈ a.chain id := by
  rcases chain_cases a id with ⟨dead, _⟩ | ⟨_, chain⟩ | ⟨_, _, _, _, _, chain⟩
  · rw [live] at dead
    cases dead
  · rw [chain]
    exact List.mem_cons_self
  · rw [chain]
    exact List.mem_cons_self

theorem live_of_mem_chain {x id : SpaceId} (member : x ∈ a.chain id) :
    ∃ s, a.space? x = some s := by
  induction bound : id.index using Nat.strongRecOn generalizing id with
  | ind n ih =>
      rcases chain_cases a id with ⟨_, chain⟩ | ⟨live, chain⟩ | ⟨s, parent, live, _, older, chain⟩
      · rw [chain] at member
        cases member
      · rw [chain] at member
        exact List.mem_singleton.mp member ▸ live
      · rw [chain] at member
        rcases List.mem_cons.mp member with first | later
        · exact ⟨s, first ▸ live⟩
        · exact ih parent.index (bound ▸ older) later rfl

theorem allocated_of_mem_chain {x id : SpaceId} (member : x ∈ a.chain id) : a.Allocated id := by
  cases found : a.space? id with
  | none =>
      rw [chain_of_dead a found] at member
      cases member
  | some s => exact allocated_of_space? a found

theorem index_le_of_mem_chain {x id : SpaceId} (member : x ∈ a.chain id) : x.index ≤ id.index := by
  induction bound : id.index using Nat.strongRecOn generalizing id with
  | ind n ih =>
      rcases chain_cases a id with ⟨_, chain⟩ | ⟨_, chain⟩ | ⟨_, parent, _, _, older, chain⟩
      · rw [chain] at member
        cases member
      · rw [chain] at member
        exact Nat.le_of_eq (bound ▸ congrArg SpaceId.index (List.mem_singleton.mp member))
      · rw [chain] at member
        rcases List.mem_cons.mp member with first | later
        · exact Nat.le_of_eq (bound ▸ congrArg SpaceId.index first)
        · have upper := ih parent.index (bound ▸ older) later rfl
          omega

theorem mem_chain_trans {x y z : SpaceId} (lower : x ∈ a.chain y) (upper : y ∈ a.chain z) :
    x ∈ a.chain z := by
  induction bound : z.index using Nat.strongRecOn generalizing z with
  | ind n ih =>
      rcases chain_cases a z with ⟨_, chain⟩ | ⟨_, chain⟩ | ⟨_, parent, _, _, older, chain⟩
      · rw [chain] at upper
        cases upper
      · rw [chain] at upper
        exact List.mem_singleton.mp upper ▸ lower
      · rw [chain] at upper
        rcases List.mem_cons.mp upper with first | later
        · exact first ▸ lower
        · rw [chain]
          exact List.mem_cons_of_mem _ (ih parent.index (bound ▸ older) later rfl)

theorem chain_congr {b : Arena} {id : SpaceId}
    (dead : ∀ x, x.index ≤ id.index → a.space? x = none → b.space? x = none)
    (agree : ∀ x ∈ a.chain id, (b.space? x).map Space.parent = (a.space? x).map Space.parent) :
    b.chain id = a.chain id := by
  induction bound : id.index using Nat.strongRecOn generalizing id with
  | ind n ih =>
      cases found : a.space? id with
      | none =>
          rw [chain_of_dead a found, chain_of_dead b (dead id (Nat.le_refl _) found)]
      | some s =>
          have same := agree id (self_mem_chain a found)
          rw [found] at same
          obtain ⟨t, live, parents⟩ := Option.map_eq_some_iff.mp same
          cases below : s.parent with
          | none =>
              rw [chain_of_root a found below, chain_of_root b live (parents.trans below)]
          | some parent =>
              by_cases older : parent.index < id.index
              · rw [chain_of_parent a found below older,
                  chain_of_parent b live (parents.trans below) older]
                have rest : b.chain parent = a.chain parent := by
                  refine ih parent.index (bound ▸ older) ?_ ?_ rfl
                  · intro x age
                    exact dead x (Nat.le_trans age (Nat.le_of_lt older))
                  · intro x member
                    apply agree x
                    rw [chain_of_parent a found below older]
                    exact List.mem_cons_of_mem _ member
                rw [rest]
              · rw [chain, chain]
                simp only [found, live, parents, below, if_neg older]

theorem chain_congr_below {b : Arena} {id : SpaceId}
    (agree : ∀ x, x.index ≤ id.index → b.space? x = a.space? x) : b.chain id = a.chain id := by
  refine chain_congr a ?_ ?_
  · intro x age absent
    rw [agree x age, absent]
  · intro x member
    rw [agree x (index_le_of_mem_chain a member)]

theorem lookup_congr {b : Arena} {id : SpaceId} {name : String} (same : b.chain id = a.chain id)
    (agree : ∀ x ∈ a.chain id, b.lookupLocal x name = a.lookupLocal x name) :
    b.lookup id name = a.lookup id name := by
  unfold lookup
  rw [same]
  generalize a.chain id = ids at agree
  induction ids with
  | nil => rfl
  | cons x rest ih =>
      rw [List.findSome?_cons, List.findSome?_cons, agree x List.mem_cons_self,
        ih (fun y member => agree y (List.mem_cons_of_mem _ member))]

/-! Releasing a subtree -/

theorem freeable_iff (id : SpaceId) :
    a.freeable id = true ↔
      id ≠ SpaceId.empty ∧ a.selfSpace ≠ some id ∧ ∃ s, a.space? id = some s := by
  simp only [freeable, Bool.and_eq_true, decide_eq_true_eq, contains_iff, and_assoc]

theorem mem_subtree_iff (root id : SpaceId) : id ∈ a.subtree root ↔ root ∈ a.chain id := by
  constructor
  · intro member
    exact of_decide_eq_true (List.mem_filter.mp member).2
  · intro above
    have live : a.contains id = true := by
      rw [contains_iff]
      cases found : a.space? id with
      | none =>
          rw [chain_of_dead a found] at above
          cases above
      | some s => exact ⟨s, rfl⟩
    exact List.mem_filter.mpr ⟨(mem_live_iff a id).mpr live, decide_eq_true above⟩

theorem freeSubtree_of_not_freeable {root : SpaceId} (kept : a.freeable root = false) :
    (a.freeSubtree root).2 = a := by
  simp [freeSubtree, kept]

theorem freeSubtree_size (root : SpaceId) :
    (a.freeSubtree root).2.slots.size = a.slots.size := by
  rw [freeSubtree]
  split
  · exact release_size a _
  · rfl

theorem freeSubtree_shared (root : SpaceId) :
    (a.freeSubtree root).2.selfSpace = a.selfSpace ∧
      (a.freeSubtree root).2.maxDepth = a.maxDepth := by
  rw [freeSubtree]
  split
  · exact release_shared a _
  · exact ⟨rfl, rfl⟩

/-- Exactly the spaces whose chain runs through the root go. -/
theorem space?_freeSubtree {root : SpaceId} (freeable : a.freeable root = true) (id : SpaceId) :
    (a.freeSubtree root).2.space? id = if root ∈ a.chain id then none else a.space? id := by
  simp only [freeSubtree, if_pos freeable, space?_release, mem_subtree_iff]

theorem space?_freeSubtree_of_not_mem {root id : SpaceId} (outside : root ∉ a.chain id) :
    (a.freeSubtree root).2.space? id = a.space? id := by
  by_cases freeable : a.freeable root = true
  · rw [space?_freeSubtree a freeable, if_neg outside]
  · rw [freeSubtree_of_not_freeable a (Bool.eq_false_iff.mpr freeable)]

/-- The chain of a survivor is whole, since nothing on it can hang below the root. -/
theorem chain_freeSubtree_of_not_mem {root id : SpaceId} (outside : root ∉ a.chain id) :
    (a.freeSubtree root).2.chain id = a.chain id := by
  refine chain_congr a ?_ ?_
  · intro x _ dead
    rw [space?_freeSubtree_of_not_mem a (by rw [chain_of_dead a dead]; exact List.not_mem_nil)]
    exact dead
  · intro x member
    have apart : root ∉ a.chain x := fun below => outside (mem_chain_trans a below member)
    rw [space?_freeSubtree_of_not_mem a apart]

theorem lookup_freeSubtree_of_not_mem {root id : SpaceId} (outside : root ∉ a.chain id)
    (name : String) : (a.freeSubtree root).2.lookup id name = a.lookup id name := by
  apply lookup_congr a (chain_freeSubtree_of_not_mem a outside)
  intro x member
  have apart : root ∉ a.chain x := fun below => outside (mem_chain_trans a below member)
  simp only [lookupLocal, space?_freeSubtree_of_not_mem a apart]

end Arena

end ScriptValues
