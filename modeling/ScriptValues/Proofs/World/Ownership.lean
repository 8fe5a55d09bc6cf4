import ScriptValues.Proofs.World.Homes

/-! Which aggregates own their spaces in a run.

Every way to make an aggregate gives it a space of its own. As long as no aggregate is moved, and no
script takes the name of an aggregate away from it, the aggregate stays the owner of that space. -/

namespace ScriptValues

variable {E : Type} {embedding : Embedding E}

namespace Operation

/-- The operation neither gives an aggregate another space nor binds or unbinds the name of an
aggregate by force. -/
def LeavesHomes (w : World E) : Operation E → Prop
  | rehome _ _ => False
  | assign v u => ¬ (w.family v = .aggregate ∧ w.family u = .aggregate)
  | rebind _ name _ | unbind _ name => name ≠ selfName
  | _ => True

theorem homely_of_leavesHomes (w : World E) (operation : Operation E)
    (settled : operation.LeavesHomes w) (deed : Deed) (done : operation.does w deed) :
    deed.homely := by
  cases deed with
  | fill c => trivial
  | view v => trivial
  | rehome v =>
      cases operation with
      | rehome => exact settled
      | assign => exact settled done.2
      | _ => exact done
  | rename space name =>
      cases operation with
      | rebind => exact done.2 ▸ settled
      | unbind => exact done.2 ▸ settled
      | rehome => exact settled.elim
      | assign v u =>
          exact absurd ⟨done.2.1, Backing.family_of_space? done.2.2⟩ settled
      | _ => exact done.elim

/-- The aggregates that an operation makes, when it starts from `u`: all the new ones that a
constructor, a default or a copy brings along, the one that comes to stand for a host object, and of
what translators and routines make all that is no view of an older aggregate. -/
def Makes (embedding : Embedding E) (u : World E) (operation : Operation E) (v : Value) : Prop :=
  u.cells.size ≤ v.index ∧ (operation.step embedding u).2.family v = .aggregate ∧
    match operation with
    | newAggregate _ _ _ | newDefault _ _ | deepCopy _ => True
    | encapsulate host ty schema translator parent =>
        (ScriptValues.encapsulate embedding host ty schema translator parent u).1 = .ok v ∨
          (operation.step embedding u).2.Founds v
    | _ => (operation.step embedding u).2.Founds v

end Operation

namespace World

def Produced (embedding : Embedding E) (operations : List (Operation E)) (w : World E) (v : Value) :
    Prop :=
  ∃ before operation later, operations = before ++ operation :: later ∧
    operation.Makes embedding (w.after embedding before) v

/-- The aggregates in `made` own their spaces: each is bound to its name in its space while that is
live, no two of them share a space, and no aggregate lives in a space that all values have in
common. -/
structure OwnSpaces (w : World E) (made : Value → Prop) : Prop where
  aggregate : ∀ v, made v → w.family v = .aggregate
  bound : ∀ v space, made v → (w.backing v).space? = some space → w.arena.contains space = true →
    w.arena.lookupLocal space selfName = some v
  apart : ∀ v x space, made v → made x → (w.backing v).space? = some space →
    (w.backing x).space? = some space → v = x
  reserved : ∀ v space, (w.backing v).space? = some space →
    space ≠ SpaceId.empty ∧ w.arena.selfSpace ≠ some space

theorem ownSpaces_of_founds {w : World E} {made : Value → Prop} (homed : w.Homed)
    (founds : ∀ v, made v → w.Founds v) : w.OwnSpaces made where
  aggregate v there := by
    obtain ⟨space, own, _⟩ := founds v there
    exact Backing.family_of_space? own
  bound v space there own live := (founds v there).bound homed own live
  apart v x space there there' own own' := (founds v there).unique (founds x there') own own'
  reserved v space own := (homed.reserved v space own).2

theorem encapsulate_founds
    (kept : embedding.Within fun u w => u.Homed → w.Homed ∧ u.KeepsSpaces w) {host : HostId} {ty : Ty}
    {schema : Schema E} {translator : TranslatorId} {parent : SpaceId} {u w : World E} {v : Value}
    (homed : u.Homed) (done : encapsulate embedding host ty schema translator parent u = (.ok v, w)) :
    w.Founds v := by
  cases known : ty.aggregate? with
  | none =>
      rw [encapsulate, known] at done
      cases done
  | some definition =>
      rw [encapsulate_aggregate embedding host known] at done
      have made := within_newAggregate tracks_founding.follows ty parent (.host host) u homed
      rw [newAggregate_apply] at made done
      rcases opened : u.arena.newSpace (some parent) with _ | ⟨space, a⟩
      · rw [opened] at done
        cases done
      · simp only [opened] at made done
        obtain ⟨settled, _, founds⟩ := made
        have exposed := within_exposeMembers tracks_homed.follows kept schema translator host space
          definition.members _ settled
        split at done
        · cases done
        · rename_i result
          rw [result] at exposed
          cases done
          refine (founds _ (Nat.le_refl _) ?_).keep exposed.2
          exact congrArg Backing.family (backing_addCell_new (u.withArena a) _)

theorem founds_of_within {α : Type} {step : Step E α}
    (within : Step.Within (fun u w => u.Homed → w.Homed ∧ u.KeepsSpaces w ∧ u.FoundsNew w) step)
    {u : World E} (homed : u.Homed) {v : Value} (new : u.cells.size ≤ v.index)
    (family : (Operation.dropped step u).2.family v = .aggregate) :
    (Operation.dropped step u).2.Founds v :=
  (Step.within_map (fun _ => ()) within u homed).2.2 v new family

/-- Whatever an operation makes founds its space. -/
theorem founds_of_makes (kept : embedding.Within fun u w => u.Homed → w.Homed ∧ u.KeepsSpaces w)
    {u : World E} (homed : u.Homed) {operation : Operation E} {v : Value}
    (makes : operation.Makes embedding u v) : (operation.step embedding u).2.Founds v := by
  obtain ⟨new, family, kind⟩ := makes
  cases operation with
  | newAggregate ty parent p =>
      exact founds_of_within (within_newAggregate tracks_founding.follows ty parent p) homed new family
  | newDefault ty parent =>
      exact founds_of_within (within_defaultFor tracks_founding.follows ty parent) homed new family
  | deepCopy x =>
      exact founds_of_within (within_deepCopy tracks_founding.follows x) homed new family
  | encapsulate host ty schema translator parent =>
      rcases kind with answered | founds
      · rcases done : ScriptValues.encapsulate embedding host ty schema translator parent u
          with ⟨answer, w⟩
        rw [done] at answered
        cases answered
        have founds := encapsulate_founds kept homed done
        rw [Operation.step, Operation.dropped, Step.map_snd, done]
        exact founds
      · exact founds
  | _ => exact kind

/-- In every run that moves no aggregate, the aggregates that are made own their spaces. -/
theorem aggregates_own_spaces (kept : embedding.Within (Through Deed.homely)) (maxDepth : Nat)
    (outside : E) (operations : List (Operation E))
    (settled : Throughout embedding (fun w operation => operation.LeavesHomes w) operations
      (World.initial maxDepth outside)) :
    ((World.initial maxDepth outside).after embedding operations).OwnSpaces
      (Produced embedding operations (World.initial maxDepth outside)) := by
  have quiet := kept.follow tracks_homed
  have homed := homed_initial maxDepth outside
  generalize World.initial maxDepth outside = w at homed settled ⊢
  have run : ∀ {part : List (Operation E)} {u : World E}, u.Homed →
      Throughout embedding (fun w operation => operation.LeavesHomes w) part u →
      (u.after embedding part).Homed ∧ u.KeepsSpaces (u.after embedding part) :=
    fun homed part =>
      throughout_within tracks_homed quiet Operation.homely_of_leavesHomes part homed
  apply ownSpaces_of_founds (run homed settled).1
  rintro v ⟨before, operation, later, rfl, makes⟩
  rw [throughout_append, Throughout] at settled
  have start := (run homed settled.1).1
  have founds := founds_of_makes quiet start makes
  have next : Throughout embedding (fun w operation => operation.LeavesHomes w) [operation]
      (w.after embedding before) := ⟨settled.2.1, trivial⟩
  rw [after_append]
  exact founds.keep (run (run start next).1 settled.2.2).2

def crowdedTy : Ty :=
  .aggregate "crowded"
    [⟨selfName, .int, .field⟩, ⟨"x", .aggregate "leaf" [] false, .field⟩, ⟨"x", .int, .field⟩] false

/-- The default of a crowded type is bound to its name all the same, also after the shared space was
lent to one of its members and the whole was copied. -/
theorem aggregates_own_spaces_crowded :
    ((World.initial 4 (Outside.initial "host" Table.empty)).after TableHost.embedding
        [.newSpace none, .newDefault crowdedTy ⟨1⟩, .memberSpace ⟨3⟩, .deepCopy ⟨2⟩]).OwnSpaces
      (Produced TableHost.embedding
        [.newSpace none, .newDefault crowdedTy ⟨1⟩, .memberSpace ⟨3⟩, .deepCopy ⟨2⟩]
        (World.initial 4 (Outside.initial "host" Table.empty))) ∧
    ((World.initial 4 (Outside.initial "host" Table.empty)).after TableHost.embedding
        [.newSpace none, .newDefault crowdedTy ⟨1⟩, .memberSpace ⟨3⟩,
          .deepCopy ⟨2⟩]).arena.lookupLocal ⟨2⟩ selfName = some ⟨2⟩ := by
  have own := aggregates_own_spaces (TableHost.embedding_within (tracks_through Deed.homely)) 4
    (Outside.initial "host" Table.empty)
    [.newSpace none, .newDefault crowdedTy ⟨1⟩, .memberSpace ⟨3⟩, .deepCopy ⟨2⟩]
    ⟨trivial, trivial, trivial, trivial, trivial⟩
  have made : Produced TableHost.embedding
      [.newSpace none, .newDefault crowdedTy ⟨1⟩, .memberSpace ⟨3⟩, .deepCopy ⟨2⟩]
      (World.initial 4 (Outside.initial "host" Table.empty)) ⟨2⟩ :=
    ⟨[.newSpace none], .newDefault crowdedTy ⟨1⟩, [.memberSpace ⟨3⟩, .deepCopy ⟨2⟩], rfl,
      by decide, rfl, trivial⟩
  exact ⟨own, own.bound ⟨2⟩ ⟨2⟩ made rfl rfl⟩

end World

end ScriptValues
