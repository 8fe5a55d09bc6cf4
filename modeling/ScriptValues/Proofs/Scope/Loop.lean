import ScriptValues.Proofs.Scope.Sound

/-! The two loops over parents, counted.

A loop goes from parent to parent and knows nothing of the age of a space, so that it ends has to be
proved. Each loop below stops without an answer when it would read one more live space than it was
allowed; in an arena that is in order it never does, with the depth limit and one as the allowance. -/

namespace ScriptValues

namespace Arena

variable {a : Arena}

/-- Looks for a name in a space and then in its parents, reading at most so many live spaces. -/
def lookupLoop (a : Arena) (name : String) : Nat → SpaceId → Option (Option Value)
  | 0, id => if a.contains id then none else some none
  | reads + 1, id =>
      match a.space? id with
      | none => some none
      | some s =>
          match s.bindings.get? name with
          | some v => some (some v)
          | none =>
              match s.parent with
              | none => some none
              | some parent => a.lookupLoop name reads parent

def descendsLoop (a : Arena) (ancestor : SpaceId) : Nat → SpaceId → Option Bool
  | 0, id => if id = ancestor then some true else if a.contains id then none else some false
  | reads + 1, id =>
      if id = ancestor then some true
      else
        match (a.space? id).bind (·.parent) with
        | none => some false
        | some parent => a.descendsLoop ancestor reads parent

theorem Sound.depth_of_parent (sound : a.Sound) {id parent : SpaceId} {s : Space} {reads : Nat}
    (live : a.space? id = some s) (below : s.parent = some parent) (enough : s.depth < reads + 1) :
    ∀ t, a.space? parent = some t → t.depth < reads := by
  intro t upper
  have level := sound.deeper id s parent t live below upper
  omega

theorem lookup_of_dead {id : SpaceId} (dead : a.space? id = none) (name : String) :
    a.lookup id name = none := by
  simp only [lookup, chain_of_dead a dead, List.findSome?_nil]

theorem lookup_of_bound {id : SpaceId} {s : Space} (live : a.space? id = some s) {name : String}
    {v : Value} (bound : s.bindings.get? name = some v) : a.lookup id name = some v := by
  have here : a.lookupLocal id name = some v := by simp only [lookupLocal, live, Option.bind, bound]
  rw [lookup]
  rcases chain_cases a id with ⟨dead, _⟩ | ⟨_, chain⟩ | ⟨_, _, _, _, _, chain⟩
  · rw [live] at dead
    cases dead
  · rw [chain, List.findSome?_cons, here]
  · rw [chain, List.findSome?_cons, here]

theorem lookup_of_root {id : SpaceId} {s : Space} (live : a.space? id = some s) {name : String}
    (unbound : s.bindings.get? name = none) (root : s.parent = none) :
    a.lookup id name = none := by
  simp only [lookup, chain_of_root a live root, List.findSome?_cons, List.findSome?_nil,
    lookupLocal, live, Option.bind, unbound]

theorem Sound.lookup_of_parent (sound : a.Sound) {id parent : SpaceId} {s : Space}
    (live : a.space? id = some s) {name : String} (unbound : s.bindings.get? name = none)
    (below : s.parent = some parent) : a.lookup id name = a.lookup parent name := by
  simp only [lookup, chain_of_parent a live below (sound.older id s parent live below),
    List.findSome?_cons, lookupLocal, live, Option.bind, unbound]

/-- The loop of a lookup ends within one read more than the depth, and finds what `lookup` says. -/
theorem Sound.lookupLoop_eq (sound : a.Sound) (name : String) (reads : Nat) (id : SpaceId)
    (enough : ∀ s, a.space? id = some s → s.depth < reads) :
    a.lookupLoop name reads id = some (a.lookup id name) := by
  induction reads generalizing id with
  | zero =>
      have dead : a.space? id = none := by
        cases live : a.space? id with
        | none => rfl
        | some s => exact absurd (enough s live) (Nat.not_lt_zero _)
      have gone : a.contains id = false := (contains_eq_false_iff a id).mpr dead
      simp only [lookupLoop, gone, lookup_of_dead dead]
      rfl
  | succ reads ih =>
      cases live : a.space? id with
      | none => simp only [lookupLoop, live, lookup_of_dead live]
      | some s =>
          cases bound : s.bindings.get? name with
          | some v => simp only [lookupLoop, live, bound, lookup_of_bound live bound]
          | none =>
              cases below : s.parent with
              | none => simp only [lookupLoop, live, bound, below, lookup_of_root live bound below]
              | some parent =>
                  have rest := ih parent (sound.depth_of_parent live below (enough s live))
                  simp only [lookupLoop, live, bound, below, rest,
                    sound.lookup_of_parent live bound below]

/-- The search for an ancestor ends within one read more than the depth. A live ancestor is found
exactly when it is on the chain. -/
theorem Sound.descendsLoop_eq (sound : a.Sound) (ancestor : SpaceId) (reads : Nat) (id : SpaceId)
    (enough : ∀ s, a.space? id = some s → s.depth < reads) :
    ∃ answer, a.descendsLoop ancestor reads id = some answer ∧
      (a.contains ancestor = true → (answer = true ↔ ancestor ∈ a.chain id)) := by
  induction reads generalizing id with
  | zero =>
      have dead : a.space? id = none := by
        cases live : a.space? id with
        | none => rfl
        | some s => exact absurd (enough s live) (Nat.not_lt_zero _)
      have gone : a.contains id = false := (contains_eq_false_iff a id).mpr dead
      by_cases same : id = ancestor
      · refine ⟨true, by simp only [descendsLoop, if_pos same], ?_⟩
        intro live
        rw [← same, gone] at live
        cases live
      · refine ⟨false, by simp [descendsLoop, if_neg same, gone], ?_⟩
        intro _
        simp [chain_of_dead a dead]
  | succ reads ih =>
      by_cases same : id = ancestor
      · refine ⟨true, by simp only [descendsLoop, if_pos same], ?_⟩
        intro live
        obtain ⟨s, found⟩ := (contains_iff a ancestor).mp live
        subst same
        exact ⟨fun _ => self_mem_chain a found, fun _ => rfl⟩
      · cases live : a.space? id with
        | none =>
            refine ⟨false, by simp only [descendsLoop, if_neg same, live, Option.bind], ?_⟩
            intro _
            simp [chain_of_dead a live]
        | some s =>
            cases below : s.parent with
            | none =>
                refine ⟨false, by simp only [descendsLoop, if_neg same, live, Option.bind, below],
                  ?_⟩
                intro _
                rw [chain_of_root a live below]
                simp [Ne.symm same]
            | some parent =>
                obtain ⟨answer, found, meaning⟩ :=
                  ih parent (sound.depth_of_parent live below (enough s live))
                refine ⟨answer,
                  by simp only [descendsLoop, if_neg same, live, Option.bind, below, found], ?_⟩
                intro known
                rw [chain_of_parent a live below (sound.older id s parent live below),
                  meaning known, List.mem_cons]
                exact ⟨Or.inr, fun h => h.resolve_left (fun first => same first.symm)⟩

theorem Sound.scopeDepthExceeded (sound : a.Sound) {parent : Option SpaceId} {depth limit : Nat}
    (refused : a.newSpace parent = .error (.scopeDepthExceeded depth limit)) :
    depth = a.maxDepth + 1 ∧ limit = a.maxDepth := by
  cases parent with
  | none => cases refused
  | some p =>
      cases live : a.space? p with
      | none =>
          simp only [Arena.newSpace, live] at refused
          cases refused
      | some s =>
          simp only [Arena.newSpace, live] at refused
          split at refused
          · cases refused
          · rename_i full
            have bound := sound.bounded p s live
            cases refused
            exact ⟨by omega, rfl⟩

end Arena

end ScriptValues
