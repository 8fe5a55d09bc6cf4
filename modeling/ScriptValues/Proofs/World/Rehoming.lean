import ScriptValues.Proofs.Scope.Nearest
import ScriptValues.Proofs.World.Assignment
import ScriptValues.Proofs.World.Homes

/-! Aggregates that move.

An aggregate may move to any space that is there. The space calls itself by the newcomer from then on,
whatever it was called by before, and nothing else about any space changes. Only the empty space,
which takes no names, is not even called by the aggregates that live in it. -/

namespace ScriptValues

namespace Arena

variable {a b : Arena} {space : SpaceId} {v : Value}

structure MovedIn (a : Arena) (v : Value) (space : SpaceId) (b : Arena) : Prop where
  self : space ≠ SpaceId.empty → b.lookupLocal space selfName = some v
  closed : space = SpaceId.empty → b.space? space = a.space? space
  names : ∀ name, name ≠ selfName → b.lookupLocal space name = a.lookupLocal space name
  place : (b.space? space).map Space.place = (a.space? space).map Space.place
  others : ∀ x, x ≠ space → b.space? x = a.space? x
  fixed : b.slots.size = a.slots.size ∧ b.selfSpace = a.selfSpace ∧ b.maxDepth = a.maxDepth

def moveIn (a : Arena) (v : Value) (space : SpaceId) : Arena :=
  ((a.unbind space selfName).2.bind space selfName v).2

theorem moveIn_empty (a : Arena) (v : Value) :
    a.moveIn v SpaceId.empty = (a.unbind SpaceId.empty selfName).2 := by
  rw [moveIn, bind, writable?, if_pos rfl]

theorem moveIn_of_live {s : Space} (live : a.space? space = some s) (other : space ≠ SpaceId.empty)
    (v : Value) : a.moveIn v space = (a.rebind space selfName v).2 := by
  rw [moveIn, bind_unbind live other]

theorem writes_moveIn (live : a.contains space = true) (v : Value) :
    a.Writes space selfName (a.moveIn v space) := by
  obtain ⟨s, found⟩ := (contains_iff a space).mp live
  by_cases filled : space = SpaceId.empty
  · rw [filled, moveIn_empty]
    exact .unbind
  · rw [moveIn_of_live found filled]
    exact .rebind v

theorem Sound.movedIn (sound : a.Sound) (live : a.contains space = true) (v : Value) :
    a.MovedIn v space (a.moveIn v space) := by
  have written := writes_moveIn live v
  have trims := written.rebinds.trims
  obtain ⟨s, found⟩ := (contains_iff a space).mp live
  constructor
  case self =>
    intro other
    rw [moveIn_of_live found other, lookupLocal, space?_rebind found other]
    exact Table.get?_insert_self _ _ _
  case closed =>
    -- There is nothing in the empty space to drop.
    rintro rfl
    rw [moveIn_empty, Arena.unbind, sound.emptySpace]
    exact (space?_writeSlot_live a sound.emptySpace _ _).trans (if_pos rfl)
  case names => exact fun name other => written.lookupLocal fun _ => other
  case place => exact written.rebinds.place space
  case others => exact fun x apart => written.rebinds.other apart
  case fixed => exact ⟨trims.size, trims.selfSpace, trims.maxDepth⟩

end Arena

namespace World

variable {E : Type} {embedding : Embedding E} {u w : World E} {v : Value} {space : SpaceId}

structure Rehomed (w : World E) (v : Value) (space : SpaceId) (u : World E) : Prop where
  moved : ∃ p old, w.backing v = .aggregate p old ∧
    u = (w.setBacking v (.aggregate p space)).withArena u.arena
  spaces : w.arena.MovedIn v space u.arena

/-- What lives in a space now lives there later. -/
def KeepsHome (v : Value) : World E → World E → Prop := KeepsCell (fun c => c.backing.space?) v

theorem KeepsSpaces.keepsHome (kept : u.KeepsSpaces w) (v : Value) : KeepsHome v u w :=
  fun there => ⟨Nat.lt_of_lt_of_le there kept.present, kept.same v there⟩

theorem tracks_keepsHome (v : Value) : Tracks (· ≠ .rehome v) (KeepsHome (E := E) v) where
  toComposes := composes_keepsCell _ v
  change := by
    intro u w changed
    cases changed with
    | addCell c => exact (keepsSpaces_addCell u c).keepsHome v
    | addAggregate c =>
        have kept := keepsSpaces_addCell u c
        exact KeepsSpaces.keepsHome ⟨kept.present, kept.same⟩ v
    | setBacking x b family writable home =>
        refine keepsCell_writeCell u fun same => ?_
        subst same
        exact home.elim (fun kept => kept) (fun moved => absurd rfl moved)
    | setDirty x => exact keepsCell_setDirty u fun _ _ => rfl
    | setTranslated x space => exact keepsCell_writeCell u fun same => same ▸ rfl
    | _ => exact KeepsSpaces.keepsHome ⟨Nat.le_refl _, fun _ _ => rfl⟩ v

theorem member_of_home (home : (w.backing v).space? = some space) (name : String) :
    memberSpace embedding v w = (.ok space, w) ∧
      member embedding v name w = (.ok ((w.arena.lookupLocal space name).getD .none), w) := by
  cases held : w.backing v with
  | aggregate p own =>
      rw [held] at home
      cases home
      exact ⟨memberSpaceWithin_aggregate embedding w.cells.size held,
        member_aggregate held embedding name⟩
  | _ =>
      rw [held] at home
      cases home

theorem rehome_of_live (sound : w.arena.Sound) (live : w.arena.contains space = true)
    (family : w.family v = .aggregate) :
    ∃ u, rehome v space w = (.ok (), u) ∧ w.Rehomed v space u ∧
      (u.backing v).space? = some space := by
  cases held : w.backing v with
  | aggregate p old =>
      have there : v.index < w.cells.size := present_of_backing (by rw [held]; nofun)
      refine ⟨(w.setBacking v (.aggregate p space)).withArena (w.arena.moveIn v space),
        ?_, ⟨⟨p, old, held, rfl⟩, sound.movedIn live v⟩, ?_⟩
      · rw [rehome_aggregate held, if_pos live, Arena.moveIn]
      · change ((w.setBacking v (.aggregate p space)).cell v).backing.space? = some space
        rw [cell_setBacking there]
        rfl
  | _ =>
      rw [World.family, held] at family
      cases family

theorem rehome_of_dead (dead : w.arena.contains space = false) (v : Value) :
    rehome v space w = (.error .unknownSpace, w) := by
  rw [rehome, Step.bind_apply, Step.get_apply]
  simp only [dead]
  rfl

theorem rehome_of_other (live : w.arena.contains space = true) (other : w.family v ≠ .aggregate) :
    rehome v space w = (.error (.notAggregate (w.ty v).name), w) := by
  rw [rehome, Step.bind_apply, Step.get_apply]
  simp only [live, if_true]
  rw [World.family] at other
  cases held : w.backing v with
  | aggregate p old => exact absurd (by rw [held, Backing.family]) other
  | _ => rfl

/-- In every world that a run can reach, an aggregate moves to any space that is there. It is looked
for there from then on, and unless it is the empty space, the space calls itself by the aggregate.
Nothing else about that space changes and nothing at all about the others, the one it moved out of
included; the empty space is left alone altogether. Until the aggregate moves again, whatever its
space binds to a name is the member of that name. A space that is not there and a value of another
family are refused, and nothing has changed then. -/
theorem rehoming_renames_home (kept : embedding.Within ScopesEvolve)
    (reached : w.Reached embedding) (v : Value) (space : SpaceId) :
    (w.arena.contains space = true → w.family v = .aggregate →
      ∃ u, rehome v space w = (.ok (), u) ∧ w.Rehomed v space u ∧
        memberSpace embedding v u = (.ok space, u) ∧
        (embedding.Within (KeepsHome v) → ∀ operations,
          Throughout embedding (fun x operation => ¬ operation.rehomes x v) operations u →
          ∀ name, member embedding v name (u.after embedding operations) =
            (.ok (((u.after embedding operations).arena.lookupLocal space name).getD .none),
              u.after embedding operations))) ∧
    (w.arena.contains space = false → rehome v space w = (.error .unknownSpace, w)) ∧
    (w.arena.contains space = true → w.family v ≠ .aggregate →
      rehome v space w = (.error (.notAggregate (w.ty v).name), w)) := by
  refine ⟨fun live family => ?_, fun dead => rehome_of_dead dead v, rehome_of_other⟩
  obtain ⟨u, done, rehomed, home⟩ := rehome_of_live (reached.sound kept) live family
  refine ⟨u, done, rehomed, (member_of_home home selfName).1, fun quiet operations settled => ?_⟩
  have permitted : ∀ (x : World E) (operation : Operation E), ¬ operation.rehomes x v →
      ∀ deed, operation.does x deed → deed ≠ .rehome v := by
    rintro x operation stays deed done rfl
    exact stays done
  have stays := throughout_within (tracks_keepsHome v) quiet permitted settled
  have home' := ((stays (present_of_space? home)).2).trans home
  exact fun name => (member_of_home home' name).2

/-- An aggregate, and a space in which a number is bound to two names, of which one is that of the
space itself. -/
def strangersSpace : World Outside :=
  (World.initial 4 (Outside.initial "host" Table.empty)).after TableHost.embedding
    [.newSpace none, .newAggregate (.aggregate "T" [] false) ⟨1⟩ .null, .newSpace (some ⟨1⟩),
      .newBasic (.scalar .int) (.int 0) false, .bind ⟨3⟩ selfName ⟨3⟩, .bind ⟨3⟩ "x" ⟨3⟩]

/-- The number keeps one of its names when the aggregate moves in, and has another one afterwards by
which it is a member of the aggregate. -/
theorem rehoming_renames_home_strangersSpace :
    ∃ u, rehome ⟨2⟩ ⟨3⟩ strangersSpace = (.ok (), u) ∧
      u.arena.lookupLocal ⟨3⟩ selfName = some ⟨2⟩ ∧ u.arena.lookupLocal ⟨3⟩ "x" = some ⟨3⟩ ∧
      (member TableHost.embedding ⟨2⟩ "y"
        (u.after TableHost.embedding [.bind ⟨3⟩ "y" ⟨3⟩])).1 = .ok ⟨3⟩ := by
  have moves := (rehoming_renames_home (TableHost.embedding_within tracks_scopesEvolve)
    (⟨_, _, _, rfl⟩ : strangersSpace.Reached TableHost.embedding) ⟨2⟩ ⟨3⟩).1
  obtain ⟨u, done, rehomed, _, later⟩ := moves rfl rfl
  have named := rehomed.spaces.self (by decide)
  have kept := rehomed.spaces.names "x" (by decide)
  refine ⟨u, done, named, kept, ?_⟩
  have members := later (TableHost.embedding_within (tracks_keepsHome ⟨2⟩)) [.bind ⟨3⟩ "y" ⟨3⟩]
    ⟨nofun, trivial⟩
  rw [members "y"]
  cases done
  rfl

/-- The empty space takes an aggregate in and does not call itself by it. -/
theorem rehoming_unnamed_in_empty :
    ¬ ∀ (w u : World Outside) (v : Value) (space : SpaceId), w.Reached TableHost.embedding →
      w.arena.contains space = true → w.family v = .aggregate →
      rehome v space w = (.ok (), u) → u.arena.lookupLocal space selfName = some v := by
  intro named
  have bound := named strangersSpace _ ⟨2⟩ SpaceId.empty ⟨_, _, _, rfl⟩ rfl rfl rfl
  cases bound

end World

end ScriptValues
