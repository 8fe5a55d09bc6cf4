import ScriptValues.Proofs.Copy.Allocation
import ScriptValues.Proofs.Copy.Content
import ScriptValues.Proofs.Scope.Building
import ScriptValues.Proofs.Scope.Run

/-! Copies that cannot be made.

A copy fails where an aggregate hangs below a space that was freed, since its own space would hang
there too. The walk comes to the aggregates of a value one after the other. If the first one cannot
be copied, no space was made yet; if it can, its space stays behind whatever happens to the
others. -/

namespace ScriptValues

open World Step

variable {E α β : Type}

theorem findSome?_cons_eq_or (f : α → Option β) (x : α) (rest : List α) :
    (x :: rest).findSome? f = (f x).or (rest.findSome? f) := by
  rw [List.findSome?_cons]
  cases f x <;> rfl

namespace World

/-- The first aggregate that a copy of `v` comes to, within `bound` steps. -/
def firstAggregateWithin (w : World E) : Nat → Value → Option Value
  | 0, _ => none
  | bound + 1, v =>
      match w.backing v with
      | .aggregate _ _ => some v
      | .list l => (w.list l).items.findSome? (w.firstAggregateWithin bound)
      | .set s => (w.set s).items.findSome? (w.firstAggregateWithin bound)
      | .map m =>
          (w.map m).entries.findSome? fun entry =>
            (w.firstAggregateWithin bound entry.1).or (w.firstAggregateWithin bound entry.2)
      | _ => none

def firstAggregate? (w : World E) (v : Value) : Option Value := w.firstAggregateWithin w.walkBound v

/-- The space of the aggregate `a` hangs below one that was freed. -/
def LostScope (w : World E) (a : Value) : Prop :=
  ∃ p space s parent, w.backing a = .aggregate p space ∧ w.arena.space? space = some s ∧
    s.parent = some parent ∧ w.arena.space? parent = none

variable {w : World E} {a : Value} {p : Payload} {space : SpaceId}

theorem lostScope_iff (held : w.backing a = .aggregate p space) :
    w.LostScope a ↔
      ∃ parent, (w.arena.space? space).bind (·.parent) = some parent ∧
        w.arena.space? parent = none := by
  constructor
  · rintro ⟨q, id, s, parent, same, live, hangs, dead⟩
    rw [held] at same
    cases same
    exact ⟨parent, Option.bind_eq_some_iff.mpr ⟨s, live, hangs⟩, dead⟩
  · rintro ⟨parent, found, dead⟩
    obtain ⟨s, live, hangs⟩ := Option.bind_eq_some_iff.mp found
    exact ⟨p, space, s, parent, held, live, hangs, dead⟩

/-- There is room beside an aggregate as long as there is something for it to hang below. -/
theorem newSpace_beside (sound : w.arena.Sound) (held : w.backing a = .aggregate p space) :
    (w.LostScope a ∧
        w.arena.newSpace ((w.arena.space? space).bind (·.parent)) = .error .unknownSpace) ∨
      (¬ w.LostScope a ∧ ∃ depth,
        w.arena.newSpace ((w.arena.space? space).bind (·.parent)) =
          .ok (w.arena.allocate ((w.arena.space? space).bind (·.parent)) depth)) := by
  rw [lostScope_iff held]
  cases found : (w.arena.space? space).bind (·.parent) with
  | none =>
      refine .inr ⟨?_, 0, rfl⟩
      rintro ⟨_, absent, _⟩
      cases absent
  | some parent =>
      obtain ⟨s, live, hangs⟩ := Option.bind_eq_some_iff.mp found
      cases above : w.arena.space? parent with
      | none =>
          refine .inl ⟨⟨parent, rfl, above⟩, ?_⟩
          rw [Arena.newSpace, above]
      | some upper =>
          have beside : s.depth = upper.depth + 1 :=
            sound.deeper space s parent upper live hangs above
          have room : upper.depth + 1 ≤ w.arena.maxDepth := beside ▸ sound.bounded space s live
          refine .inr ⟨?_, upper.depth + 1, ?_⟩
          · rintro ⟨_, same, dead⟩
            cases same
            rw [above] at dead
            cases dead
          · simp only [Arena.newSpace, above, if_pos room]

/-- How a copying step ends that started from the arena of `w` and has a given aggregate to come to
first: without one it succeeds and leaves the arena alone; it fails at one that has lost its scope;
and after any other there is a new space. -/
inductive Ends (w : World E) : Option Value → Except Fault α × World E → Prop
  | idle {c : α} {u : World E} (same : u.arena = w.arena) : w.Ends none (.ok c, u)
  | refused {a : Value} {u : World E} (lost : w.LostScope a) (same : u.arena = w.arena) :
      w.Ends (some a) (.error .unknownSpace, u)
  | grown {a : Value} {answer : Except Fault α} {u : World E} {id : SpaceId} {s : Space}
      (chained : ¬ w.LostScope a) (new : w.arena.slots.size ≤ id.index)
      (live : u.arena.space? id = some s) : w.Ends (some a) (answer, u)

/-- From every world that has the arena of `w`, and all else that `w` has, the step ends as the
first aggregate decides. -/
structure Decides (w : World E) (first : Option Value) (step : Step E α) : Prop where
  allocates : Within Allocates step
  ends : ∀ u, w.Allocates u → u.arena = w.arena → w.Ends first (step u)

theorem decides_pure (w : World E) (c : α) : w.Decides none (pure c) where
  allocates := within_pure composes_allocates c
  ends _ _ same := .idle same

theorem Decides.bind {first : Step E α} {next : α → Step E β} {a b : Option Value}
    (head : w.Decides a first) (tail : ∀ c, w.Decides b (next c)) :
    w.Decides (a.or b) (first >>= next) where
  allocates := within_bind composes_allocates head.allocates fun c => (tail c).allocates
  ends u known same := by
    have grown := head.allocates u
    have ended := head.ends u known same
    rw [bind_apply]
    generalize first u = answer at grown ended ⊢
    cases ended with
    | idle same => exact (tail _).ends _ (composes_allocates.trans known grown) same
    | refused lost same => exact .refused lost same
    | @grown _ answer x id s chained new live =>
        cases answer with
        | error fault => exact .grown chained new live
        | ok c =>
            -- The new space outlives the second step, which releases nothing.
            have more := (tail c).allocates x
            have still := more.keeps.space? (Nat.zero_le _) (Arena.allocated_of_space? x.arena live)
            exact .grown chained new (still.trans live)

theorem decides_get {first : Option Value} {next : World E → Step E α}
    (each : ∀ u, w.Decides first (next u)) : w.Decides first (get >>= next : Step E α) where
  allocates := within_get_bind fun u => (each u).allocates u
  ends u := (each u).ends u

theorem decides_change (w : World E) (f : World E → α × World E)
    (allocates : ∀ u : World E, u.Allocates (f u).2)
    (still : ∀ u, (f u).2.arena = u.arena) :
    w.Decides none (change f) where
  allocates := within_change f allocates
  ends u _ same := .idle ((still u).trans same)

theorem Decides.settle {first : Step E α} {next : α → Step E β} {a : Option Value}
    (head : w.Decides a first) (tail : ∀ c, w.Decides none (next c)) :
    w.Decides a (first >>= next) := by
  rw [← Option.or_none (o := a)]
  exact head.bind tail

theorem decides_duplicate (w : World E) (v : Value) (b : Backing E) :
    w.Decides none (change fun u : World E => u.duplicate v b) :=
  decides_change w _ (fun u => allocates_addCell u _) fun _ => rfl

section Loops

variable {copy : Value → Step E Value} {first : Value → Option Value}

theorem decides_mapM {items : List Value} (each : ∀ v ∈ items, w.Decides (first v) (copy v)) :
    w.Decides (items.findSome? first) (items.mapM copy) := by
  induction items with
  | nil =>
      rw [List.mapM_nil]
      exact decides_pure w []
  | cons item rest ih =>
      have later := ih fun v member => each v (List.mem_cons_of_mem item member)
      rw [findSome?_cons_eq_or, List.mapM_cons]
      apply (each item List.mem_cons_self).bind
      intro c
      exact later.settle fun cs => decides_pure w (c :: cs)

theorem decides_copyItems {items : List Value} (each : ∀ v ∈ items, w.Decides (first v) (copy v))
    (box : SetBox) : w.Decides (items.findSome? first) (copyItems copy items box) := by
  induction items generalizing box with
  | nil => exact decides_pure w box
  | cons item rest ih =>
      rw [findSome?_cons_eq_or, copyItems]
      apply (each item List.mem_cons_self).bind
      intro c
      apply decides_get
      intro u
      exact ih (fun v member => each v (List.mem_cons_of_mem item member)) _

theorem decides_copyEntries {entries : List (Value × Value)}
    (each : ∀ entry ∈ entries, w.Decides (first entry.1) (copy entry.1) ∧
      w.Decides (first entry.2) (copy entry.2)) (box : MapBox) :
    w.Decides (entries.findSome? fun entry => (first entry.1).or (first entry.2))
      (copyEntries copy entries box) := by
  induction entries generalizing box with
  | nil => exact decides_pure w box
  | cons entry rest ih =>
      have here := each entry List.mem_cons_self
      rw [findSome?_cons_eq_or, Option.or_assoc, copyEntries]
      apply here.1.bind
      intro key
      apply here.2.bind
      intro element
      apply decides_get
      intro u
      exact ih (fun other member => each other (List.mem_cons_of_mem entry member)) _

end Loops

theorem copyMembers_live {copy : Value → Step E Value} (each : ∀ v, Within Allocates (copy v))
    {space : SpaceId} (rows : List (String × Value)) {x : World E} {s : Space}
    (live : x.arena.space? space = some s) :
    ∃ t, (copyMembers copy space rows x).2.arena.space? space = some t := by
  induction rows generalizing x s with
  | nil => exact ⟨s, live⟩
  | cons row rest ih =>
      obtain ⟨name, v⟩ := row
      rw [copyMembers]
      by_cases itself : name = selfName
      · rw [if_pos itself]
        exact ih live
      · have grown := each v x
        have still := grown.keeps.space? (Nat.zero_le _) (Arena.allocated_of_space? x.arena live)
        rw [if_neg itself, bind_apply]
        generalize copy v x = answer at still ⊢
        obtain ⟨_ | c, y⟩ := answer
        · exact ⟨s, still.trans live⟩
        · have bound : y.arena.Rebinds space (y.arena.bind space name c).2 := .bind name c
          obtain ⟨t, now, _⟩ := bound.live (still.trans live)
          exact ih now

theorem deepCopyWithin_live (bound : Nat) {v : Value} {u : World E}
    (held : u.backing v = .aggregate p space) {depth : Nat}
    (made : u.arena.newSpace ((u.arena.space? space).bind (·.parent)) =
      .ok (u.arena.allocate ((u.arena.space? space).bind (·.parent)) depth)) :
    ∃ t, (deepCopyWithin (bound + 1) v u).2.arena.space? ⟨u.arena.slots.size⟩ = some t := by
  rw [deepCopyWithin_aggregate held, Step.newSpace, made]
  generalize (u.arena.space? space).bind (·.parent) = parent
  have fresh : (u.arena.allocate parent depth).2.space? ⟨u.arena.slots.size⟩ =
      some ⟨Table.empty, parent, depth⟩ := by
    rw [Arena.space?_allocate, if_pos rfl]
  have named : (u.arena.allocate parent depth).2.Rebinds ⟨u.arena.slots.size⟩
      ((u.withArena (u.arena.allocate parent depth).2).duplicateInto v p
        ⟨u.arena.slots.size⟩).2.arena :=
    .bind selfName _
  obtain ⟨s, live, _⟩ := named.live fresh
  have filled :=
    copyMembers_live (deepCopyWithin_allocates bound) (u.arena.bindings space).rows live
  dsimp only [Arena.allocate] at filled ⊢
  generalize copyMembers (deepCopyWithin bound) _ _ _ = answer at filled ⊢
  obtain ⟨_ | _, x⟩ := answer
  · exact filled
  · exact filled

/-- A copy within any bound ends as the first aggregate within that bound decides. -/
theorem deepCopyWithin_decides (sound : w.arena.Sound) (bound : Nat) {v : Value}
    (whole : w.Whole v) : w.Decides (w.firstAggregateWithin bound v) (deepCopyWithin bound v) := by
  induction bound generalizing v with
  | zero => exact decides_pure w v
  | succ bound ih =>
      have deeper : ∀ x, w.Holds v x →
          w.Decides (w.firstAggregateWithin bound x) (deepCopyWithin bound x) :=
        fun x step => ih (whole.of_holds step)
      refine ⟨deepCopyWithin_allocates (bound + 1) v, fun u known same => ?_⟩
      obtain ⟨present, there⟩ := whole.known
      have backing := known.keeps.backing present
      rw [firstAggregateWithin]
      cases held : w.backing v with
      | aggregate p space =>
          have now : u.backing v = .aggregate p space := backing.trans held
          rcases newSpace_beside sound held with ⟨lost, refused⟩ | ⟨chained, depth, made⟩
          · rw [deepCopyWithin_aggregate now, Step.newSpace, same, refused]
            exact .refused lost same
          · rw [← same] at made
            obtain ⟨t, live⟩ := deepCopyWithin_live bound now made
            have new : w.arena.slots.size ≤ u.arena.slots.size := by rw [same]
            exact .grown chained new live
      | list l =>
          rw [held] at there
          rw [deepCopyWithin, bind_apply, get_apply]
          simp only [backing.trans held, known.keeps.list there]
          have copied := decides_mapM fun x member => deeper x (.listItem held member)
          refine (copied.settle fun items => ?_).ends u known same
          exact (decides_change w _ (fun x => allocates_addList x _) fun _ => rfl).settle fun k =>
            decides_duplicate w v (.list k)
      | set s =>
          rw [held] at there
          rw [deepCopyWithin, bind_apply, get_apply]
          simp only [backing.trans held, known.keeps.set there]
          have copied := decides_copyItems (fun x member => deeper x (.setItem held member))
            (w.set s).cleared
          refine (copied.settle fun box => ?_).ends u known same
          exact (decides_change w _ (fun x => allocates_addSet x box) fun _ => rfl).settle fun k =>
            decides_duplicate w v (.set k)
      | map m =>
          rw [held] at there
          rw [deepCopyWithin, bind_apply, get_apply]
          simp only [backing.trans held, known.keeps.map there]
          have copied := decides_copyEntries
            (fun entry member => ⟨deeper entry.1 (.key held member),
              deeper entry.2 (.element held member)⟩) (w.map m).cleared
          refine (copied.settle fun box => ?_).ends u known same
          exact (decides_change w _ (fun x => allocates_addMap x box) fun _ => rfl).settle fun k =>
            decides_duplicate w v (.map k)
      | _ =>
          rw [deepCopyWithin, bind_apply, get_apply]
          simp only [backing.trans held]
          exact .idle same

/-- What a failed copy leaves behind. All spaces that were there are as they were. The first
aggregate that the copy came to decides about the rest: if that one has lost its scope, the arena is
the same as before, and otherwise it has grown by at least the space that was made for its copy. -/
theorem failedDeepCopy_leftover {u : World E} {v : Value} (sound : w.arena.Sound)
    (whole : w.Whole v) {fault : Fault} (failed : deepCopy v w = (.error fault, u)) :
    ∃ a, w.firstAggregate? v = some a ∧
      (∀ id, w.arena.Allocated id → u.arena.space? id = w.arena.space? id) ∧
      (u.arena = w.arena ↔ w.LostScope a) ∧
      (¬ w.LostScope a → w.arena.size < u.arena.size) := by
  have allocated := deepCopy_allocates v w
  have ended : w.Ends (w.firstAggregate? v) (deepCopy v w) :=
    (deepCopyWithin_decides sound w.walkBound whole).ends w (composes_allocates.refl w) rfl
  rw [failed] at allocated ended
  have kept : ∀ id, w.arena.Allocated id → u.arena.space? id = w.arena.space? id :=
    fun id there => allocated.keeps.space? (Nat.zero_le _) there
  generalize w.firstAggregate? v = first at ended ⊢
  cases ended with
  | refused lost same =>
      exact ⟨_, rfl, kept, iff_of_true same lost, fun chained => absurd lost chained⟩
  | grown chained new live =>
      have larger : w.arena.size < u.arena.size :=
        Arena.size_lt_of_new allocated.keeps.slots.size kept new live
      have changed : u.arena ≠ w.arena := mt (congrArg Arena.live) (Arena.live_ne_of_size_lt larger)
      exact ⟨_, rfl, kept, iff_of_false changed chained, fun _ => larger⟩

def strandedMember : World Outside :=
  (World.initial 4 (Outside.initial "host" Table.empty)).after TableHost.embedding
    [.newSpace none, .newAggregate (.aggregate "Outer" [] false) ⟨1⟩ .null, .newSpace (some ⟨1⟩),
      .newAggregate (.aggregate "Inner" [] false) ⟨3⟩ .null, .bind ⟨2⟩ "inner" ⟨3⟩, .free ⟨3⟩]

theorem sound_strandedMember : strandedMember.arena.Sound :=
  sound_arenaAfter (TableHost.embedding_within tracks_scopesEvolve) 4
    (Outside.initial "host" Table.empty) _

theorem holds_strandedMember {x y : Value} (known : x = ⟨2⟩ ∨ x = ⟨3⟩)
    (step : strandedMember.Holds x y) : x = ⟨2⟩ ∧ y = ⟨3⟩ := by
  rcases known with same | same
  · subst same
    cases step with
    | @member p space name held other bound =>
        cases held
        have row : (name, y) ∈ [("inner", (⟨3⟩ : Value)), (selfName, ⟨2⟩)] :=
          (Table.mem_rows_iff _ name y).mpr bound
        rcases List.mem_cons.mp row with inner | itself
        · cases inner
          exact ⟨rfl, rfl⟩
        · cases List.mem_singleton.mp itself
          exact absurd rfl other
    | listItem held | setItem held | key held | element held => cases held
  · subst same
    cases step with
    | @member p space name held other bound =>
        cases held
        have row : (name, y) ∈ [(selfName, (⟨3⟩ : Value))] :=
          (Table.mem_rows_iff _ name y).mpr bound
        cases List.mem_singleton.mp row
        exact absurd rfl other
    | listItem held | setItem held | key held | element held => cases held

theorem reaches_strandedMember {x : Value} (path : strandedMember.Reaches ⟨2⟩ x) :
    x = ⟨2⟩ ∨ x = ⟨3⟩ := by
  induction path with
  | refl => exact .inl rfl
  | tail _ step ih => exact .inr (holds_strandedMember ih step).2

theorem whole_strandedMember : strandedMember.Whole ⟨2⟩ := by
  intro x path
  rcases reaches_strandedMember path with same | same
  · subst same
    exact ⟨show 2 < 4 by decide, show 2 < 5 by decide⟩
  · subst same
    exact ⟨show 3 < 4 by decide, show 4 < 5 by decide⟩

theorem height_strandedMember : strandedMember.Height 2 ⟨2⟩ := by
  intro inner step
  obtain ⟨_, same⟩ := holds_strandedMember (.inl rfl) step
  subst same
  intro nothing step
  cases (holds_strandedMember (.inr rfl) step).1

/-- The member itself cannot be copied either, and trying leaves nothing behind. -/
theorem failedDeepCopy_leftover_strandedMember :
    (deepCopy ⟨3⟩ strandedMember).1 = .error .unknownSpace ∧
      (deepCopy ⟨3⟩ strandedMember).2.arena = strandedMember.arena := by
  have held : strandedMember.Holds ⟨2⟩ ⟨3⟩ := .member rfl (show "inner" ≠ selfName by decide) rfl
  have failed : deepCopy ⟨3⟩ strandedMember = (.error .unknownSpace, strandedMember) := rfl
  obtain ⟨a, found, _, same, _⟩ := failedDeepCopy_leftover sound_strandedMember
    (whole_strandedMember.of_holds held) failed
  have lost : strandedMember.LostScope a := by
    cases found
    exact ⟨.null, ⟨4⟩, _, ⟨3⟩, rfl, rfl, rfl, rfl⟩
  rw [failed]
  exact ⟨rfl, same.mpr lost⟩

/-- The copy of the outer aggregate fails at its member, when the space for the copy was already
made. -/
theorem failedDeepCopy_grows :
    strandedMember.arena.Sound ∧ strandedMember.Acyclic ⟨2⟩ ∧
      (deepCopy ⟨2⟩ strandedMember).1 = .error .unknownSpace ∧
      (deepCopy ⟨2⟩ strandedMember).2.arena.live ≠ strandedMember.arena.live ∧
      strandedMember.arena.size = 4 ∧ (deepCopy ⟨2⟩ strandedMember).2.arena.size = 5 := by
  have before : strandedMember.arena.live = [⟨0⟩, ⟨1⟩, ⟨2⟩, ⟨4⟩] := rfl
  have after : (deepCopy ⟨2⟩ strandedMember).2.arena.live = [⟨0⟩, ⟨1⟩, ⟨2⟩, ⟨4⟩, ⟨5⟩] := rfl
  refine ⟨sound_strandedMember, height_strandedMember.acyclic, rfl, ?_, rfl, rfl⟩
  rw [before, after]
  decide

end World

end ScriptValues
