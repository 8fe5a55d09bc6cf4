import ScriptValues.Proofs.Failure.AllOrNothing

/-! Defaults that cannot be built.

A default is built on a site of its own, below which the defaults of its members go. When one of
them does not fit, the site is released, and with it all that the members before it were given. -/

namespace ScriptValues

open Step

variable {E : Type}

theorem newAggregate_allOrNothing (ty : Ty) (parent : SpaceId) (p : Payload) :
    (newAggregate ty parent p : Step E (Value × SpaceId)).AllOrNothing parent := by
  intro w sound
  rcases newAggregate_cases ty parent p sound with ⟨_, _, failed⟩ | ⟨v, u, made, site, above⟩
  · rw [failed]
    exact Arena.restores_refl w.arena
  · rw [made]
    exact site.finish above

theorem defaultFor_adapted (name : String) (members : List Member) (parent : SpaceId) :
    (defaultFor (.aggregate name members true) parent : Step E Value) =
      Prod.fst <$> newAggregate (.aggregate name members true) parent .null := by
  rw [defaultFor]
  rfl

mutual

/-- The default of an aggregate leaves the arena as it was unless all its members fit. -/
theorem defaultFor_allOrNothing (ty : Ty) (parent : SpaceId) :
    (defaultFor ty parent : Step E Value).AllOrNothing parent := by
  cases ty with
  | aggregate name members adapted =>
      cases adapted with
      | true =>
          rw [defaultFor_adapted]
          exact (newAggregate_allOrNothing (.aggregate name members true) parent .null).map Prod.fst
      | false =>
          intro w sound
          rw [defaultFor_aggregate]
          rcases newAggregate_cases (.aggregate name members false) parent .null sound with
            ⟨_, _, failed⟩ | ⟨v, u, made, site, above⟩
          · rw [failed]
            exact Arena.restores_refl w.arena
          · rw [made]
            -- Finished or not, the members lie below the new space, which goes if one fails.
            have filled := bindDefaults_site members site
            dsimp only
            generalize bindDefaults members _ u = outcome at filled ⊢
            rcases outcome with ⟨_ | _, x⟩
            · exact filled.release
            · exact filled.finish above
  | scalar s =>
      rw [defaultFor]
      apply allOrNothing_of_idle
      intro w
      cases s <;> rfl
  | _ =>
      rw [defaultFor]
      exact allOrNothing_of_idle fun _ => rfl

/-- However far the members get, what they were given lies below the space they are bound in. -/
theorem bindDefaults_site (members : List Member) {parent root : SpaceId} {a : Arena} {w : World E}
    (site : w.Site parent root a) : (bindDefaults members root w).2.Site parent root a := by
  cases members with
  | nil =>
      rw [bindDefaults]
      exact site
  | cons member rest =>
      obtain ⟨name, ty, kind⟩ := member
      have built := site.after (defaultFor_allOrNothing ty root)
      rw [bindDefaults, bind_apply]
      rcases made : defaultFor ty root w with ⟨_ | v, u⟩
      · rw [made] at built
        exact built
      · rw [made] at built
        exact bindDefaults_site rest (built.bindName name v)

end

/-! Room -/

mutual

/-- How many spaces below one another the default of a type takes. -/
def Ty.levels : Ty → Nat
  | .aggregate _ members adapted => if adapted then 1 else memberLevels members + 1
  | _ => 0

def memberLevels : List Member → Nat
  | [] => 0
  | ⟨_, ty, _⟩ :: rest => max ty.levels (memberLevels rest)

end

def Arena.Fits (a : Arena) (levels : Nat) (parent : SpaceId) : Prop :=
  levels = 0 ∨ ∃ s, a.space? parent = some s ∧ s.depth + levels ≤ a.maxDepth

namespace Arena

variable {a : Arena} {parent : SpaceId} {levels : Nat}

theorem fits_iff_of_live (sound : a.Sound) {s : Space} (live : a.space? parent = some s) :
    a.Fits levels parent ↔ s.depth + levels ≤ a.maxDepth := by
  have within : s.depth ≤ a.maxDepth := sound.bounded parent s live
  constructor
  · rintro (none | ⟨t, same, room⟩)
    · omega
    · rw [live] at same
      cases same
      exact room
  · intro room
    exact .inr ⟨s, live, room⟩

theorem not_fits_of_newSpace {fault : Fault} (refused : a.newSpace (some parent) = .error fault) :
    ¬ a.Fits (levels + 1) parent := by
  rintro (none | ⟨s, live, room⟩)
  · cases none
  · have first : s.depth + 1 ≤ a.maxDepth := by omega
    simp only [newSpace, live, if_pos first] at refused
    cases refused

end Arena

theorem World.Site.depth {parent root : SpaceId} {a : Arena} {w : World E}
    (site : w.Site parent root a) {s : Space} (above : a.space? parent = some s) :
    ∃ t, w.arena.space? root = some t ∧ t.depth = s.depth + 1 := by
  obtain ⟨t, live, hangs⟩ := site.building.hangs
  have upper : w.arena.space? parent = some s := by
    rw [site.building.kept parent (Arena.allocated_of_space? a above)]
    exact above
  exact ⟨t, live, site.sound.deeper root t parent s live hangs upper⟩

mutual

/-- A default is built exactly where there is room for it. -/
theorem defaultFor_iff_fits (ty : Ty) (parent : SpaceId) {w : World E} (sound : w.arena.Sound) :
    (∃ v, (defaultFor ty parent w).1 = .ok v) ↔ w.arena.Fits ty.levels parent := by
  cases ty with
  | aggregate name members adapted =>
      cases adapted with
      | true =>
          rw [defaultFor_adapted, map_apply, Ty.levels, if_pos rfl]
          rcases newAggregate_cases (.aggregate name members true) parent .null sound with
            ⟨fault, full, failed⟩ | ⟨v, u, made, site, s, above⟩
          · rw [failed]
            exact iff_of_false nofun (Arena.not_fits_of_newSpace full)
          · obtain ⟨t, live, depth⟩ := site.depth above
            have room : t.depth ≤ u.arena.maxDepth := site.sound.bounded _ t live
            have limit := (Arena.grows_of_evolves site.building.evolves).maxDepth
            rw [made, Arena.fits_iff_of_live sound above]
            exact iff_of_true ⟨v, rfl⟩ (by omega)
      | false =>
          rw [defaultFor_aggregate, Ty.levels, if_neg Bool.false_ne_true]
          rcases newAggregate_cases (.aggregate name members false) parent .null sound with
            ⟨fault, full, failed⟩ | ⟨v, u, made, site, s, above⟩
          · rw [failed]
            exact iff_of_false nofun (Arena.not_fits_of_newSpace full)
          · obtain ⟨t, live, depth⟩ := site.depth above
            have filled := bindDefaults_iff_fits members site.sound live
            have limit := (Arena.grows_of_evolves site.building.evolves).maxDepth
            have deeper :
                s.depth + (memberLevels members + 1) = t.depth + memberLevels members := by
              omega
            rw [made, Arena.fits_iff_of_live sound above, deeper, ← limit, ← filled]
            dsimp only
            rcases bindDefaults members _ u with ⟨fault | _, x⟩
            · exact iff_of_false nofun nofun
            · exact iff_of_true ⟨v, rfl⟩ rfl
  | _ =>
      rw [defaultFor]
      exact iff_of_true ⟨_, rfl⟩ (.inl rfl)

theorem bindDefaults_iff_fits (members : List Member) {root : SpaceId} {w : World E}
    (sound : w.arena.Sound) {s : Space} (live : w.arena.space? root = some s) :
    (bindDefaults members root w).1 = .ok () ↔
      s.depth + memberLevels members ≤ w.arena.maxDepth := by
  cases members with
  | nil =>
      rw [bindDefaults]
      exact iff_of_true rfl (sound.bounded root s live)
  | cons member rest =>
      obtain ⟨name, ty, kind⟩ := member
      have fits := defaultFor_iff_fits ty root sound
      have built := (defaultFor_allOrNothing ty root).buildsBelow sound
      rw [bindDefaults, bind_apply, memberLevels]
      rw [Arena.fits_iff_of_live sound live] at fits
      rcases made : defaultFor ty root w with ⟨fault | v, u⟩
      · rw [made] at fits
        have full := mt fits.mpr nofun
        exact iff_of_false nofun (by omega)
      · rw [made] at fits built
        have room := fits.mp ⟨v, rfl⟩
        have still : u.arena.space? root = some s :=
          (built.kept root (Arena.allocated_of_space? w.arena live)).trans live
        -- The space keeps its depth while members are bound in it, so the rest sees the same room.
        have bound : u.arena.Rebinds root (u.arena.bind root name v).2 := .bind name v
        obtain ⟨t, now, place⟩ := bound.live still
        have depth : t.depth = s.depth := congrArg Prod.snd place
        have limit : (u.arena.bind root name v).2.maxDepth = w.arena.maxDepth :=
          (Arena.grows_of_evolves (Arena.evolves_trans built.evolves
            (Arena.evolves_of_move (.bind root name v)))).maxDepth
        have others : (bindDefaults rest root (u.withArena (u.arena.bind root name v).2)).1 =
            .ok () ↔ t.depth + memberLevels rest ≤ (u.arena.bind root name v).2.maxDepth :=
          bindDefaults_iff_fits rest ((sound.evolve built.evolves).bind root name v) now
        change (bindDefaults rest root (u.withArena (u.arena.bind root name v).2)).1 = .ok () ↔ _
        rw [others, depth, limit]
        omega

end

namespace World

variable {w u : World E}

/-- A default is built exactly where there is room for it. Where there is none, the same spaces are
left behind as there were before: the same ids are live, each with the bindings, the parent and the
depth that it had. -/
theorem failedDefault_restores (sound : w.arena.Sound) (ty : Ty) (parent : SpaceId) :
    ((∃ v, (defaultFor ty parent w).1 = .ok v) ↔ w.arena.Fits ty.levels parent) ∧
      ∀ fault u, defaultFor ty parent w = (.error fault, u) →
        u.arena.live = w.arena.live ∧ ∀ id, u.arena.space? id = w.arena.space? id := by
  refine ⟨defaultFor_iff_fits ty parent sound, ?_⟩
  intro fault u failed
  have restored := (defaultFor_allOrNothing ty parent).restores sound failed
  exact ⟨restored.live, restored.same⟩

def leafAndTwig : Ty :=
  .aggregate "Pair"
    [⟨"first", .aggregate "Leaf" [] false, .field⟩,
      ⟨"second", .aggregate "Twig" [⟨"leaf", .aggregate "Leaf" [] false, .field⟩] false, .field⟩]
    false

def shallowRoot : World Unit := (Step.newSpace none (World.initial 2 ())).2

/-- The leaf of the twig does not fit. By then the pair, its first leaf and the twig had spaces. -/
theorem failedDefault_restores_leafAndTwig :
    (defaultFor leafAndTwig ⟨1⟩ shallowRoot).1 = .error (.scopeDepthExceeded 3 2) ∧
      (defaultFor leafAndTwig ⟨1⟩ shallowRoot).2.arena.live = shallowRoot.arena.live ∧
      ∀ id, (defaultFor leafAndTwig ⟨1⟩ shallowRoot).2.arena.space? id =
        shallowRoot.arena.space? id := by
  have made : (Arena.initial 2).newSpace none = .ok ((Arena.initial 2).allocate none 0) := rfl
  have sound : shallowRoot.arena.Sound := (Arena.sound_initial 2).move (.newSpace made)
  have refused :
      (defaultFor leafAndTwig ⟨1⟩ shallowRoot).1 = .error (.scopeDepthExceeded 3 2) := rfl
  exact ⟨refused, (failedDefault_restores sound leafAndTwig ⟨1⟩).2 _ _ (Prod.ext refused rfl)⟩

end World

end ScriptValues
