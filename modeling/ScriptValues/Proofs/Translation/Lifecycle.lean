import ScriptValues.Proofs.Translation.Contract

/-! Translations over whole runs.

Every access keeps the spaces and the records in balance: what a property was translated into before
is released before the new space is put on record, so a run of accesses neither leaks a space nor
releases one that belongs to somebody else. -/

namespace ScriptValues

variable {E : Type}

namespace World

variable {w u : World E} {p : Value} {r space : SpaceId}

/-- The record of `p` is gone with everything below it, and all other spaces are as they were. -/
structure Forgets (w : World E) (p : Value) (u : World E) : Prop where
  record : (u.cell p).translated = none
  gone : ∀ r, (w.cell p).translated = some r → ∀ id, r ∈ w.arena.chain id → u.arena.space? id = none
  kept : ∀ id, (∀ r, (w.cell p).translated = some r → r ∉ w.arena.chain id) →
    u.arena.space? id = w.arena.space? id

namespace Owned

variable {values : Value → Prop} {start : Arena} {extra : List SpaceId}

theorem not_above (owned : Owned values start extra w) (member : values p) {b : Binding E}
    {parent : SpaceId} {translator : TranslatorId}
    (held : w.backing p = .aggregateProperty b parent translator)
    (known : (w.cell p).translated = some r) : r ∉ w.arena.chain parent := by
  intro above
  obtain ⟨_, _, c, q, _, backing, hangs⟩ := owned.recorded p member r known
  rw [held] at backing
  cases backing
  obtain ⟨s, live⟩ := Arena.live_of_mem_chain _ above
  have below := owned.sound.older r s parent live (hangs s live)
  exact Nat.not_lt_of_le (Arena.index_le_of_mem_chain _ above) below

theorem settle (owned : Owned values start (r :: extra) w) (member : values p)
    (known : (w.cell p).translated = some r) : Owned values start extra w where
  sound := owned.sound
  base := owned.base
  grown := owned.grown
  old := owned.old
  recorded := owned.recorded
  covered id s new live := by
    rcases owned.covered id s new live with owner | ⟨q, listed, above⟩
    · exact .inl owner
    · rcases List.mem_cons.mp listed with same | other
      · exact .inl ⟨p, r, member, known, same ▸ above⟩
      · exact .inr ⟨q, other, above⟩

theorem releaseTranslated (owned : Owned values start extra w) (member : values p) :
    Owned values start extra (w.releaseTranslated p) ∧ w.Forgets p (w.releaseTranslated p) := by
  cases known : (w.cell p).translated with
  | none =>
      rw [releaseTranslated_none known]
      exact ⟨owned, known, fun r filed => (nomatch known.symm.trans filed), fun _ _ => rfl⟩
  | some r =>
      obtain ⟨new, _, b, parent, translator, _, hangs⟩ := owned.recorded p member r known
      have child : ∀ s, w.arena.space? r = some s → s.parent ≠ none := by
        intro s live root
        rw [hangs s live] at root
        cases root
      have present := (owned.recorded p member r known).present
      have loose := owned.forget member known
      rw [releaseTranslated_some known]
      refine ⟨loose.release new child, ?_, ?_, ?_⟩
      · exact congrArg Cell.translated (cell_setTranslated_self present none)
      · intro q filed id below
        cases known.symm.trans filed
        exact (loose.space?_release new child id).trans (if_pos below)
      · exact fun id apart => Arena.space?_freeSubtree_of_not_mem _ (apart r known)

end Owned

/-- An access of `p` that led from `w` to `u` and answered with `space`. What `p` had on record is
gone with everything below it, and a space other than the empty one is on record and live. -/
structure Renews (w : World E) (p : Value) (space : SpaceId) (u : World E) : Prop where
  gone : ∀ r, (w.cell p).translated = some r → ∀ id, r ∈ w.arena.chain id → u.arena.space? id = none
  filed : (w.ReadsNull p ∧ space = SpaceId.empty ∧ (u.cell p).translated = none) ∨
    (¬ w.ReadsNull p ∧ (u.cell p).translated = some space ∧ ∃ s, u.arena.space? space = some s)

structure Leaves (w : World E) (p : Value) (u : World E) : Prop where
  spaces : ∀ id, u.arena.space? id = w.arena.space? id
  record : (u.cell p).translated = (w.cell p).translated

theorem Owned.record_empty {values : Value → Prop} {start : Arena} {b : Binding E} {parent : SpaceId}
    {translator : TranslatorId} (owned : Owned values start [] w) (member : values p)
    (held : w.backing p = .aggregateProperty b parent translator)
    (null : (b.read w.outside).isNull = true) :
    Owned values start [] (w.recordTranslated p SpaceId.empty) ∧
      w.Renews p SpaceId.empty (w.recordTranslated p SpaceId.empty) := by
  have present : p.index < w.cells.size := present_of_aggregateProperty held
  have other : (w.cell p).translated ≠ some SpaceId.empty := by
    intro known
    exact owned.not_empty (owned.recorded p member _ known).1 rfl
  obtain ⟨settled, free, gone, _⟩ := owned.releaseTranslated member
  rw [recordTranslated_eq present other, if_pos rfl, setTranslated_idle free]
  exact ⟨settled, gone, .inl ⟨⟨b, parent, translator, held, null⟩, rfl, free⟩⟩

/-- The space of a new translation is put on record once the old one is released with everything
below it, which the new space is not. -/
theorem Owned.record_fresh {values : Value → Prop} {start : Arena} {b : Binding E} {parent : SpaceId}
    {translator : TranslatorId} {t : Space} (owned : Owned values start [space] w)
    (member : values p) (held : w.backing p = .aggregateProperty b parent translator)
    (new : start.slots.size ≤ space.index) (live : w.arena.space? space = some t)
    (hangs : t.parent = some parent) :
    Owned values start [] (w.recordTranslated p space) ∧
      ((w.recordTranslated p space).cell p).translated = some space ∧
      (w.recordTranslated p space).arena.space? space = some t ∧
      ∀ r, (w.cell p).translated = some r → r ≠ space → ∀ id, r ∈ w.arena.chain id →
        (w.recordTranslated p space).arena.space? id = none := by
  have present : p.index < w.cells.size := present_of_aggregateProperty held
  have nonempty := owned.not_empty new
  by_cases known : (w.cell p).translated = some space
  · have idle : w.recordTranslated p space = w := by
      rw [recordTranslated]
      simp only [known, if_true, if_neg nonempty]
      exact setTranslated_idle known
    rw [idle]
    refine ⟨owned.settle member known, known, live, ?_⟩
    intro r filed other
    rw [known] at filed
    cases filed
    exact absurd rfl other
  · have apart : ∀ r, (w.cell p).translated = some r → r ∉ w.arena.chain space := by
      intro r filed above
      rw [Arena.chain_of_parent _ live hangs (owned.sound.older _ t parent live hangs)] at above
      rcases List.mem_cons.mp above with same | higher
      · exact known (same ▸ filed)
      · exact owned.not_above member held filed higher
    obtain ⟨settled, free, gone, kept⟩ := owned.releaseTranslated member
    have survives : (w.releaseTranslated p).arena.space? space = some t :=
      (kept space apart).trans live
    have fit : (w.releaseTranslated p).Recorded start.slots.size p space := by
      refine ⟨new, Arena.allocated_of_space? _ survives, b, parent, translator, ?_, ?_⟩
      · calc
          (w.releaseTranslated p).backing p = w.backing p := backing_releaseTranslated p p
          _ = .aggregateProperty b parent translator := held
      · intro r there
        rw [survives] at there
        cases there
        exact hangs
    have wide : p.index < (w.releaseTranslated p).cells.size := by
      rw [size_releaseTranslated]
      exact present
    rw [recordTranslated_eq present known, if_neg nonempty]
    refine ⟨settled.file member free fit, ?_, survives, fun r filed _ => gone r filed⟩
    rw [cell_setTranslated_self wide]

theorem Owned.record_translation {values : Value → Prop} {start : Arena} {b : Binding E}
    {parent : SpaceId} {translator : TranslatorId} (owned : Owned values start [] w)
    (member : values p) (held : w.backing p = .aggregateProperty b parent translator) {c : Value}
    (null : (b.read w.outside).isNull = false) (made : w.Translation parent (.ok c) u) :
    ∃ q s, u.backing c = .aggregate q s ∧ Owned values start [] (u.recordTranslated p s) ∧
      w.Renews p s (u.recordTranslated p s) := by
  obtain ⟨q, s, t, now, new, live, hangs, lower⟩ := made.fresh c rfl
  have loose : Owned values start [s] u := by
    apply owned.translation made
    intro id r newer there
    exact ⟨s, List.mem_singleton_self s, lower id r newer there⟩
  obtain ⟨settled, filed, there, gone⟩ := loose.record_fresh member
    (made.bridges p b parent translator held) (Nat.le_trans owned.grown new) live hangs
  refine ⟨q, s, now, settled, ?_, .inr ⟨?_, filed, t, there⟩⟩
  · intro r known id below
    have still := made.record_of_live known (Arena.live_of_mem_chain _ below)
    have other : r ≠ s := by
      intro same
      rw [← same] at new
      exact Nat.not_lt_of_le new (owned.recorded p member r known).2.1
    apply gone r still other id
    rw [made.chain (Arena.allocated_of_mem_chain _ below)]
    exact below
  · rintro ⟨_, _, _, backing, reads⟩
    rw [held] at backing
    cases backing
    rw [null] at reads
    cases reads

/-- One access keeps the balance, whatever its outcome, and it only fails where the translator does. -/
theorem Owned.access_space {values : Value → Prop} {start : Arena} {embedding : Embedding E}
    (owned : Owned values start [] w) (member : values p) (bridged : w.Bridged embedding p) :
    Owned values start [] (memberSpace embedding p w).2 ∧
      (∀ space u, memberSpace embedding p w = (.ok space, u) → w.Renews p space u) ∧
      ∀ fault u, memberSpace embedding p w = (.error fault, u) →
        w.Refused embedding p fault ∧ w.Leaves p u := by
  obtain ⟨b, parent, translator, held, contract⟩ := bridged
  have present : p.index < w.cells.size := present_of_aggregateProperty held
  have asked : memberSpace embedding p w =
      memberSpaceWithin embedding (w.cells.size + 1) p w := rfl
  rw [asked, memberSpaceWithin_aggregateProperty embedding _ held]
  cases null : (b.read w.outside).isNull with
  | true =>
      obtain ⟨settled, renewed⟩ := owned.record_empty member held null
      rw [if_pos rfl]
      refine ⟨settled, ?_, nofun⟩
      intro space u answer
      cases answer
      exact renewed
  | false =>
      have made := contract null
      rw [if_neg (by decide)]
      rcases done : embedding.translate translator (b.read w.outside) parent w with ⟨fault | c, u⟩
      · rw [done] at made
        obtain ⟨undone, records⟩ := made.undone fault rfl
        refine ⟨owned.translation made ?_, nofun, ?_⟩
        · intro id r new live
          rw [undone id new] at live
          cases live
        · intro other x answer
          cases answer
          refine ⟨⟨b, parent, translator, held, null, congrArg Prod.fst done⟩, ?_, records p present⟩
          intro id
          by_cases there : w.arena.Allocated id
          · exact made.kept id there
          · rw [undone id (Nat.le_of_not_lt there), Arena.space?_eq_none_of_not_allocated _ there]
      · rw [done] at made
        obtain ⟨q, s, now, settled, renewed⟩ := owned.record_translation member held null made
        obtain ⟨n, size⟩ := Nat.exists_eq_succ_of_ne_zero (Nat.ne_zero_of_lt present)
        dsimp only
        rw [size, memberSpaceWithin_aggregate embedding n now]
        refine ⟨settled, ?_, nofun⟩
        intro space x answer
        cases answer
        exact renewed

inductive Accesses (v : Value) : Operation E → Prop
  | memberSpace : Accesses v (.memberSpace v)
  | member (name : String) : Accesses v (.member v name)
  | release : Accesses v (.release v)

def AccessedFrom (embedding : Embedding E) (values : Value → Prop) : World E → World E → Prop :=
  Relation.ReflTransGen fun w u => ∃ v operation, values v ∧ w.Bridged embedding v ∧
    Accesses v operation ∧ u = (operation.step embedding w).2

section

variable {embedding : Embedding E} {values : Value → Prop} {start : Arena}

theorem Owned.access {v : Value} {operation : Operation E} (owned : Owned values start [] w)
    (member : values v) (bridged : w.Bridged embedding v) (accesses : Accesses v operation) :
    Owned values start [] (operation.step embedding w).2 := by
  have settled := (owned.access_space member bridged).1
  cases accesses with
  | memberSpace =>
      rw [Operation.step, Operation.dropped, Step.map_snd]
      exact settled
  | member name =>
      rw [Operation.step, Operation.dropped, Step.map_snd, member_snd]
      exact settled
  | release => exact (owned.releaseTranslated member).1

theorem owned_start (sound : w.arena.Sound)
    (untranslated : ∀ v, values v → (w.cell v).translated = none) :
    Owned values w.arena [] w where
  sound := sound
  base := sound.allocated_empty
  grown := Nat.le_refl _
  old _ _ := rfl
  recorded v member r filed := by
    rw [untranslated v member] at filed
    cases filed
  covered id s new live :=
    absurd (Arena.allocated_of_space? _ live) (Nat.not_lt_of_le new)

theorem owned_after_accesses (sound : u.arena.Sound)
    (untranslated : ∀ v, values v → (u.cell v).translated = none)
    (run : u.AccessedFrom embedding values w) : Owned values u.arena [] w := by
  induction run with
  | refl => exact owned_start sound untranslated
  | tail _ step owned =>
      obtain ⟨v, operation, member, bridged, accesses, same⟩ := step
      subst same
      exact owned.access member bridged accesses

/-- After every run of accesses, the spaces of the start are live and unchanged, and every other live
space lies in or below the translation on record for one of the values. An access then renews the
translation of its value, unless the translator refuses: in that case nothing changes. A release takes
the translation of its value and nothing else. -/
theorem translations_after_accesses (sound : u.arena.Sound)
    (untranslated : ∀ v, values v → (u.cell v).translated = none)
    (run : u.AccessedFrom embedding values w) :
    (∀ id s, u.arena.space? id = some s → w.arena.space? id = some s) ∧
      (∀ id s, w.arena.space? id = some s → u.arena.space? id = some s ∨
        ∃ v r, values v ∧ (w.cell v).translated = some r ∧ r ∈ w.arena.chain id) ∧
      (∀ p, values p → w.Bridged embedding p →
        (∀ space x, memberSpace embedding p w = (.ok space, x) →
          w.Renews p space x) ∧
        ∀ fault x, memberSpace embedding p w = (.error fault, x) →
          w.Refused embedding p fault ∧ w.Leaves p x) ∧
      ∀ p, values p → w.Forgets p (w.releaseTranslated p) := by
  have owned := owned_after_accesses sound untranslated run
  refine ⟨?_, ?_, ?_, fun p member => (owned.releaseTranslated member).2⟩
  · intro id s live
    rw [owned.old id (Arena.allocated_of_space? _ live)]
    exact live
  · intro id s live
    by_cases there : u.arena.Allocated id
    · rw [owned.old id there] at live
      exact .inl live
    · rcases owned.covered id s (Nat.le_of_not_lt there) live with owner | ⟨_, listed, _⟩
      · exact .inr owner
      · cases listed
  · intro p member bridged
    exact (owned.access_space member bridged).2

end

end World

def wrapping : Embedding Unit where
  translate _ p parent := Prod.fst <$> newAggregate (.aggregate "Door" [] false) parent p
  routine _ _ _ := return .none

def doorTwice : World Unit :=
  let w := (Step.newSpace none (World.initial 4 ())).2
  let (door, w) := w.newAggregateProperty (.aggregate "Door" [] false)
    ⟨⟨.readOnly, fun _ _ => .bool true, fun _ _ o => (.error .notSettable, o)⟩, ⟨0⟩⟩ ⟨1⟩ ⟨0⟩ true
  (w.shallowView door).2

namespace World

theorem bridged_wrapping {w : World Unit} {v : Value} {b : Binding Unit} {parent : SpaceId}
    {translator : TranslatorId} (held : w.backing v = .aggregateProperty b parent translator) :
    w.Bridged wrapping v :=
  ⟨b, parent, translator, held, fun _ => newAggregate_translation _ parent _ w⟩

/-- The property is translated again after its view: its first translation is gone. -/
theorem translations_after_accesses_doorTwice :
    let w := doorTwice.after wrapping [.memberSpace ⟨2⟩, .member ⟨3⟩ "open"]
    memberSpace wrapping ⟨2⟩ w = (.ok ⟨4⟩, (memberSpace wrapping ⟨2⟩ w).2) ∧
      w.Renews ⟨2⟩ ⟨4⟩ (memberSpace wrapping ⟨2⟩ w).2 := by
  intro w
  have made : (Arena.initial 4).newSpace none = .ok ((Arena.initial 4).allocate none 0) := rfl
  have sound : doorTwice.arena.Sound :=
    (Arena.sound_initial 4).move (.newSpace made)
  have run : doorTwice.AccessedFrom wrapping (fun v => v = ⟨2⟩ ∨ v = ⟨3⟩) w := by
    refine .tail (.tail .refl ⟨⟨2⟩, .memberSpace ⟨2⟩, .inl rfl, bridged_wrapping rfl,
      .memberSpace, rfl⟩) ⟨⟨3⟩, .member ⟨3⟩ "open", .inr rfl, bridged_wrapping rfl, .member _, rfl⟩
  have untranslated : ∀ v : Value, v = ⟨2⟩ ∨ v = ⟨3⟩ → (doorTwice.cell v).translated = none := by
    rintro v (same | same)
    · rw [same]
      rfl
    · rw [same]
      rfl
  have answer : memberSpace wrapping ⟨2⟩ w = (.ok ⟨4⟩, (memberSpace wrapping ⟨2⟩ w).2) := rfl
  have after := (translations_after_accesses sound untranslated run).2.2.1 ⟨2⟩ (.inl rfl)
    (bridged_wrapping rfl)
  exact ⟨answer, after.1 ⟨4⟩ _ answer⟩

end World

end ScriptValues
