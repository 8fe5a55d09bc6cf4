import ScriptValues.Proofs.Failure.AllOrNothing
import ScriptValues.Value.MemberSpace

/-! Host objects that cannot be exposed.

The aggregate that stands for a host object is built on a site of its own, like a default, but the
site is not released when a member cannot be translated. The aggregate's space then stays behind,
with all that was built below it. -/

namespace ScriptValues

open Step

variable {E : Type} {embedding : Embedding E} {translator : TranslatorId}

/-- The translator builds below the parent it is given, or fails and leaves the arena alone. -/
def Embedding.Clean (embedding : Embedding E) (translator : TranslatorId) : Prop :=
  ∀ p parent, (embedding.translate translator p parent).AllOrNothing parent

/-- There is nothing to expose in a type that is no aggregate, nor without room for its space. -/
def World.RefusesAggregate (w : World E) (ty : Ty) (parent : SpaceId) : Prop :=
  ty.aggregate? = none ∨ ∃ fault, w.arena.newSpace (some parent) = .error fault

theorem encapsulate_refused (embedding : Embedding E) (schema : Schema E)
    (translator : TranslatorId) (host : HostId) {ty : Ty} {parent : SpaceId} {w : World E}
    (refused : w.RefusesAggregate ty parent) :
    ∃ fault, encapsulate embedding host ty schema translator parent w = (.error fault, w) := by
  cases known : ty.aggregate? with
  | none =>
      refine ⟨.notAggregate ty.name, ?_⟩
      simp only [encapsulate, known]
      rfl
  | some definition =>
      rcases refused with absent | ⟨fault, full⟩
      · rw [known] at absent
        cases absent
      · refine ⟨fault, ?_⟩
        rw [encapsulate_aggregate embedding host known, newAggregate_apply]
        simp only [full]

section

variable (clean : embedding.Clean translator) (schema : Schema E) (host : HostId)

include clean

theorem exposedMember_allOrNothing (space : SpaceId) (m : Member) :
    (exposedMember embedding schema translator host space m).AllOrNothing space := by
  rw [exposedMember]
  cases m.kind with
  | field =>
      dsimp only
      cases schema.field? m.name with
      | none => exact allOrNothing_of_idle fun _ => rfl
      | some accessor =>
          dsimp only
          cases m.ty.isAggregate with
          | false => exact allOrNothing_of_idle fun _ => rfl
          | true =>
              -- The only member that needs spaces, and only the translator makes them.
              apply allOrNothing_of_get
              intro w
              by_cases null : ((⟨accessor, host⟩ : Binding E).readAlways w.outside).isNull = true
              · simp only [null, if_true]
                exact allOrNothing_of_idle fun _ => rfl
              · simp only [null]
                exact (clean _ space).map some
  | property =>
      dsimp only
      cases schema.property? m.name with
      | none => exact allOrNothing_of_idle fun _ => rfl
      | some accessor =>
          dsimp only
          cases m.ty.isAggregate with
          | true => exact allOrNothing_of_idle fun _ => rfl
          | false => exact allOrNothing_of_idle fun _ => rfl

theorem exposeMembers_site (members : List Member) {parent root : SpaceId} {a : Arena} {w : World E}
    (site : w.Site parent root a) :
    (exposeMembers embedding schema translator host root members w).2.Site parent root a := by
  induction members generalizing w with
  | nil => exact site
  | cons m rest ih =>
      have exposed := site.after (exposedMember_allOrNothing clean schema host root m)
      rw [exposeMembers, bind_apply]
      generalize exposedMember embedding schema translator host root m w = outcome at exposed ⊢
      rcases outcome with ⟨_ | _ | v, u⟩
      · exact exposed
      · exact ih exposed
      · exact ih (exposed.bindName m.name v)

/-- Where there is room for the aggregate, it gets a site of its own, also if the exposing fails. -/
theorem encapsulate_site {ty : Ty} {parent : SpaceId} {w : World E} (sound : w.arena.Sound)
    (room : ¬ w.RefusesAggregate ty parent) :
    (encapsulate embedding host ty schema translator parent w).2.Site parent
        ⟨w.arena.slots.size⟩ w.arena ∧
      ∃ s, w.arena.space? parent = some s := by
  cases known : ty.aggregate? with
  | none => exact absurd (.inl known) room
  | some definition =>
      rw [encapsulate_aggregate embedding host known]
      rcases newAggregate_cases ty parent (.host host) sound with
        ⟨fault, full, _⟩ | ⟨v, u, made, site, above⟩
      · exact absurd (.inr ⟨fault, full⟩) room
      · have exposed := exposeMembers_site clean schema host definition.members site
        rw [made]
        refine ⟨?_, above⟩
        dsimp only
        generalize exposeMembers embedding schema translator host _ definition.members u = outcome
          at exposed ⊢
        rcases outcome with ⟨_ | _, x⟩
        · exact exposed
        · exact exposed

theorem encapsulate_buildsBelow (ty : Ty) (parent : SpaceId) {w : World E} (sound : w.arena.Sound) :
    w.arena.BuildsBelow parent
      (encapsulate embedding host ty schema translator parent w).2.arena := by
  by_cases refused : w.RefusesAggregate ty parent
  · obtain ⟨fault, same⟩ := encapsulate_refused embedding schema translator host refused
    rw [same]
    exact (Arena.restores_refl w.arena).buildsBelow parent
  · obtain ⟨site, above⟩ := encapsulate_site clean schema host sound refused
    exact site.finish above

end

namespace World

variable {w u : World E}

theorem refusesAggregate_congr {ty : Ty} {parent : SpaceId}
    (same : u.arena.space? parent = w.arena.space? parent)
    (limit : u.arena.maxDepth = w.arena.maxDepth) :
    u.RefusesAggregate ty parent ↔ w.RefusesAggregate ty parent := by
  simp only [RefusesAggregate, Arena.newSpace, same, limit]
  cases w.arena.space? parent with
  | none => simp
  | some above =>
      dsimp only
      split <;> simp

/-- What a failed exposing of a host object leaves behind. All spaces that were there are as they
were. The arena is the same only if the type is no aggregate or there was no room for its space;
otherwise it has grown by that space and what was built below it, as it will at the next try, and
releasing that space would restore it. -/
theorem failedEncapsulate_leftover (sound : w.arena.Sound) {embedding : Embedding E}
    {translator : TranslatorId} (clean : embedding.Clean translator) {host : HostId} {ty : Ty}
    {schema : Schema E} {parent : SpaceId} {fault : Fault}
    (failed : encapsulate embedding host ty schema translator parent w = (.error fault, u)) :
    (∀ id, w.arena.Allocated id → u.arena.space? id = w.arena.space? id) ∧
      (u.arena.live = w.arena.live ↔ w.RefusesAggregate ty parent) ∧
      (¬ w.RefusesAggregate ty parent →
        w.arena.size < u.arena.size ∧ ¬ u.RefusesAggregate ty parent) ∧
      (u.releaseSubtree ⟨w.arena.slots.size⟩).arena.live = w.arena.live ∧
      ∀ id, (u.releaseSubtree ⟨w.arena.slots.size⟩).arena.space? id = w.arena.space? id := by
  have built := encapsulate_buildsBelow clean schema host ty parent sound
  rw [failed] at built
  by_cases refused : w.RefusesAggregate ty parent
  · obtain ⟨_, same⟩ := encapsulate_refused embedding schema translator host refused
    obtain rfl : w = u := congrArg Prod.snd (same.symm.trans failed)
    have idle := Arena.restores_freeSubtree_beyond w.arena (Nat.le_refl w.arena.slots.size)
    exact ⟨built.kept, iff_of_true rfl refused, fun room => absurd refused room, idle.live,
      idle.same⟩
  · obtain ⟨site, t, above⟩ := encapsulate_site clean schema host sound refused
    rw [failed] at site
    obtain ⟨s, live, _⟩ := site.building.hangs
    have grown : w.arena.size < u.arena.size :=
      Arena.size_lt_of_new built.size_le built.kept site.building.new live
    have changed : u.arena.live ≠ w.arena.live := Arena.live_ne_of_size_lt grown
    have room : ¬ u.RefusesAggregate ty parent := by
      have parentKept := built.kept parent (Arena.allocated_of_space? w.arena above)
      have limit := (Arena.grows_of_evolves built.evolves).maxDepth
      rwa [refusesAggregate_congr parentKept limit]
    exact ⟨built.kept, iff_of_false changed refused, fun _ => ⟨grown, room⟩, site.release.live,
      site.release.same⟩

def refusingEmbedding : Embedding Unit :=
  ⟨fun _ _ _ => throw .unknownSpace, fun _ _ _ => return .none⟩

theorem clean_refusingEmbedding (translator : TranslatorId) :
    refusingEmbedding.Clean translator :=
  fun _ _ => allOrNothing_of_idle fun _ => rfl

def shellTy : Ty := .aggregate "Outer" [⟨"inner", .aggregate "Inner" [] false, .field⟩] false

def unitFields : Schema Unit where
  field? _ := some ⟨.readOnly, fun _ _ => .int 1, fun _ _ outside => (.error .notSettable, outside)⟩
  property? _ := none

def openRoot : World Unit := (Step.newSpace none (World.initial 4 ())).2

theorem sound_openRoot : openRoot.arena.Sound := by
  have made : (Arena.initial 4).newSpace none = .ok ((Arena.initial 4).allocate none 0) := rfl
  exact (Arena.sound_initial 4).move (.newSpace made)

/-- Releasing the space of the shell takes back what the refused field left behind. -/
theorem failedEncapsulate_leftover_shell :
    let u := (encapsulate refusingEmbedding ⟨0⟩ shellTy unitFields ⟨0⟩ ⟨1⟩ openRoot).2
    u.arena.contains ⟨2⟩ = true ∧ (u.releaseSubtree ⟨2⟩).arena.live = openRoot.arena.live := by
  intro u
  have failed : encapsulate refusingEmbedding ⟨0⟩ shellTy unitFields ⟨0⟩ ⟨1⟩ openRoot =
      (.error .unknownSpace, u) := rfl
  have left := failedEncapsulate_leftover sound_openRoot (clean_refusingEmbedding ⟨0⟩) failed
  exact ⟨rfl, left.2.2.2.1⟩

/-- The translator leaves no trace when it refuses the field, but every try to expose the shell
leaves one more space. -/
theorem failedEncapsulate_grows :
    let once := encapsulate refusingEmbedding ⟨0⟩ shellTy unitFields ⟨0⟩ ⟨1⟩ openRoot
    let twice := encapsulate refusingEmbedding ⟨0⟩ shellTy unitFields ⟨0⟩ ⟨1⟩ once.2
    openRoot.arena.Sound ∧ refusingEmbedding.Clean ⟨0⟩ ∧ once.1 = .error .unknownSpace ∧
      once.2.arena.live ≠ openRoot.arena.live ∧ openRoot.arena.size = 2 ∧ once.2.arena.size = 3 ∧
      twice.1 = .error .unknownSpace ∧ twice.2.arena.size = 4 := by
  intro once twice
  have live : once.2.arena.live = [⟨0⟩, ⟨1⟩, ⟨2⟩] := rfl
  have before : openRoot.arena.live = [⟨0⟩, ⟨1⟩] := rfl
  refine ⟨sound_openRoot, clean_refusingEmbedding ⟨0⟩, rfl, ?_, rfl, rfl, rfl, rfl⟩
  rw [live, before]
  decide

end World

end ScriptValues
