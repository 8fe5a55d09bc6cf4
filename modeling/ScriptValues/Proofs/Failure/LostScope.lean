import ScriptValues.Proofs.Failure.Copy

/-! Which values can be copied.

A copy is refused for one reason only: somewhere within the value there is an aggregate that has
lost its scope. The spaces that a copy makes on the way change nothing about that, and there is
always room for them beside those of the original. -/

namespace ScriptValues

open World Step

variable {E α β : Type}

namespace World

/-- Somewhere within `v` there is an aggregate that has lost its scope. -/
def Stranded (w : World E) (v : Value) : Prop := ∃ x, w.Reaches v x ∧ w.LostScope x

variable {w : World E} {v : Value}

theorem stranded_iff : w.Stranded v ↔ w.LostScope v ∨ ∃ x, w.Holds v x ∧ w.Stranded x := by
  constructor
  · rintro ⟨x, path, lost⟩
    rcases Relation.ReflTransGen.cases_head path with same | ⟨y, step, rest⟩
    · exact .inl (same ▸ lost)
    · exact .inr ⟨y, step, x, rest, lost⟩
  · rintro (lost | ⟨y, step, x, rest, lost⟩)
    · exact ⟨v, reaches_refl v, lost⟩
    · exact ⟨x, Relation.ReflTransGen.head step rest, lost⟩

theorem stranded_iff_holds {b : Backing E} (held : w.backing v = b)
    (other : b.family ≠ .aggregate) : w.Stranded v ↔ ∃ x, w.Holds v x ∧ w.Stranded x := by
  have kept : ¬ w.LostScope v := by
    rintro ⟨p, space, _, _, same, _⟩
    cases held.symm.trans same
    exact other rfl
  rw [stranded_iff, or_iff_right kept]

theorem stranded_list {l : ListId} (held : w.backing v = .list l) :
    w.Stranded v ↔ ∃ x ∈ (w.list l).items, w.Stranded x := by
  rw [stranded_iff_holds held Family.noConfusion]
  refine exists_congr fun x => and_congr_left fun _ => ⟨fun step => ?_, .listItem held⟩
  cases step with
  | listItem here item =>
      cases held.symm.trans here
      exact item
  | setItem here | key here | element here | member here => cases held.symm.trans here

theorem stranded_set {s : SetId} (held : w.backing v = .set s) :
    w.Stranded v ↔ ∃ x ∈ (w.set s).items, w.Stranded x := by
  rw [stranded_iff_holds held Family.noConfusion]
  refine exists_congr fun x => and_congr_left fun _ => ⟨fun step => ?_, .setItem held⟩
  cases step with
  | setItem here item =>
      cases held.symm.trans here
      exact item
  | listItem here | key here | element here | member here => cases held.symm.trans here

theorem stranded_map {m : MapId} (held : w.backing v = .map m) :
    w.Stranded v ↔ ∃ entry ∈ (w.map m).entries, w.Stranded entry.1 ∨ w.Stranded entry.2 := by
  rw [stranded_iff_holds held Family.noConfusion]
  constructor
  · rintro ⟨x, step, lost⟩
    cases step with
    | @key _ e here entry =>
        cases held.symm.trans here
        exact ⟨(x, e), entry, .inl lost⟩
    | @element _ k here entry =>
        cases held.symm.trans here
        exact ⟨(k, x), entry, .inr lost⟩
    | listItem here | setItem here | member here => cases held.symm.trans here
  · rintro ⟨⟨k, e⟩, entry, lost | lost⟩
    · exact ⟨k, .key held entry, lost⟩
    · exact ⟨e, .element held entry, lost⟩

theorem stranded_aggregate {p : Payload} {space : SpaceId}
    (held : w.backing v = .aggregate p space) :
    w.Stranded v ↔ w.LostScope v ∨
      ∃ row ∈ (w.arena.bindings space).rows, row.1 ≠ selfName ∧ w.Stranded row.2 := by
  rw [stranded_iff]
  refine or_congr_right ⟨?_, ?_⟩
  · rintro ⟨x, step, lost⟩
    cases step with
    | @member _ _ name here other bound =>
        cases held.symm.trans here
        exact ⟨(name, x), (Table.mem_rows_iff _ name x).mpr bound, other, lost⟩
    | listItem here | setItem here | key here | element here => cases held.symm.trans here
  · rintro ⟨⟨name, x⟩, row, other, lost⟩
    exact ⟨x, .member held other ((Table.mem_rows_iff _ name x).mp row), lost⟩

theorem not_stranded {b : Backing E} (held : w.backing v = b)
    (empty : b.plain = true ∨ b = .absent) : ¬ w.Stranded v := by
  have other : b.family ≠ .aggregate := by
    rintro same
    rcases empty with plain | absent
    · cases b with
      | aggregate => cases plain
      | _ => cases same
    · subst absent
      cases same
  rw [stranded_iff_holds held other]
  rintro ⟨x, step, _⟩
  cases step with
  | listItem here | setItem here | key here | element here | member here =>
      cases held.symm.trans here
      rcases empty with plain | absent
      · cases plain
      · cases absent

/-- How a step ends that leaves all of `w` in place and fails for want of a scope if it has `lost`
one. -/
inductive Judged (w : World E) (lost : Prop) : Except Fault α × World E → Prop
  | refused {u : World E} (why : lost) (known : w.Allocates u) :
      w.Judged lost (.error .unknownSpace, u)
  | made {c : α} {u : World E} (fine : ¬ lost) (known : w.Allocates u) : w.Judged lost (.ok c, u)

/-- From every world that has all of `w`, the step fails exactly if it has `lost` a scope. -/
def FailsIf (w : World E) (lost : Prop) (step : Step E α) : Prop :=
  ∀ u, w.Allocates u → w.Judged lost (step u)

variable {first : Step E α} {next : α → Step E β} {lost other : Prop}

theorem FailsIf.congr (fails : w.FailsIf lost first) (same : other ↔ lost) :
    w.FailsIf other first :=
  propext same ▸ fails

theorem FailsIf.bind (head : w.FailsIf lost first) (tail : ∀ c, w.FailsIf other (next c)) :
    w.FailsIf (lost ∨ other) (first >>= next) := by
  intro u known
  have judged := head u known
  rw [bind_apply]
  generalize first u = ended at judged ⊢
  cases judged with
  | refused why known => exact .refused (.inl why) known
  | made fine known => exact (tail _).congr (or_iff_right fine) _ known

theorem failsIf_pure (w : World E) (c : α) : w.FailsIf False (pure c) :=
  fun _ known => .made not_false known

theorem failsIf_get {next : World E → Step E α} (each : ∀ u, w.FailsIf lost (next u)) :
    w.FailsIf lost (get >>= next : Step E α) :=
  fun u => each u u

theorem failsIf_change (w : World E) (f : World E → α × World E)
    (allocates : ∀ u : World E, u.Allocates (f u).2) : w.FailsIf False (change f) :=
  fun u known => .made not_false (composes_allocates.trans known (allocates u))

theorem failsIf_duplicate (w : World E) (v : Value) (b : Backing E) :
    w.FailsIf False (change fun u : World E => u.duplicate v b) :=
  failsIf_change w _ fun u => allocates_addCell u _

theorem FailsIf.settle (head : w.FailsIf lost first) (tail : ∀ c, w.FailsIf False (next c)) :
    w.FailsIf lost (first >>= next) :=
  (head.bind tail).congr (or_iff_left not_false).symm

section Loops

variable {copy : Value → Step E Value} {lost : Value → Prop}

theorem failsIf_mapM {items : List Value} (each : ∀ v ∈ items, w.FailsIf (lost v) (copy v)) :
    w.FailsIf (∃ v ∈ items, lost v) (items.mapM copy) := by
  induction items with
  | nil =>
      rw [List.mapM_nil]
      exact (failsIf_pure w []).congr (by simp)
  | cons item rest ih =>
      have later := ih fun v member => each v (List.mem_cons_of_mem item member)
      rw [List.mapM_cons]
      refine FailsIf.congr ?_ (List.exists_mem_cons_iff _ _ _)
      apply (each item List.mem_cons_self).bind
      intro c
      exact later.settle fun cs => failsIf_pure w (c :: cs)

theorem failsIf_copyItems {items : List Value} (each : ∀ v ∈ items, w.FailsIf (lost v) (copy v))
    (box : SetBox) : w.FailsIf (∃ v ∈ items, lost v) (copyItems copy items box) := by
  induction items generalizing box with
  | nil => exact (failsIf_pure w box).congr (by simp)
  | cons item rest ih =>
      rw [copyItems]
      refine FailsIf.congr ?_ (List.exists_mem_cons_iff _ _ _)
      apply (each item List.mem_cons_self).bind
      intro c
      apply failsIf_get
      intro u
      exact ih (fun v member => each v (List.mem_cons_of_mem item member)) _

theorem failsIf_copyEntries {entries : List (Value × Value)}
    (each : ∀ entry ∈ entries, w.FailsIf (lost entry.1) (copy entry.1) ∧
      w.FailsIf (lost entry.2) (copy entry.2)) (box : MapBox) :
    w.FailsIf (∃ entry ∈ entries, lost entry.1 ∨ lost entry.2) (copyEntries copy entries box) := by
  induction entries generalizing box with
  | nil => exact (failsIf_pure w box).congr (by simp)
  | cons entry rest ih =>
      have here := each entry List.mem_cons_self
      rw [copyEntries]
      refine FailsIf.congr ?_ ((List.exists_mem_cons_iff _ _ _).trans or_assoc)
      apply here.1.bind
      intro key
      apply here.2.bind
      intro element
      apply failsIf_get
      intro u
      exact ih (fun other member => each other (List.mem_cons_of_mem entry member)) _

theorem failsIf_copyMembers {space : SpaceId} (fresh : w.arena.slots.size ≤ space.index)
    {rows : List (String × Value)}
    (each : ∀ row ∈ rows, row.1 ≠ selfName → w.FailsIf (lost row.2) (copy row.2)) :
    w.FailsIf (∃ row ∈ rows, row.1 ≠ selfName ∧ lost row.2) (copyMembers copy space rows) := by
  induction rows with
  | nil => exact (failsIf_pure w ()).congr (by simp)
  | cons row rest ih =>
      obtain ⟨name, v⟩ := row
      have later := ih fun row member => each row (List.mem_cons_of_mem _ member)
      rw [copyMembers]
      refine FailsIf.congr ?_ (List.exists_mem_cons_iff _ _ _)
      by_cases itself : name = selfName
      · rw [if_pos itself]
        exact later.congr (or_iff_right fun here => here.1 itself)
      · rw [if_neg itself]
        have here := each (name, v) List.mem_cons_self itself
        refine (here.congr (and_iff_right itself)).bind fun c => ?_
        have bound : w.FailsIf False (Step.bindName space name c) :=
          fun u known => .made not_false (known.bind fresh name c)
        exact (bound.bind fun _ => later).congr (or_iff_right not_false).symm

end Loops

theorem newSpace_alike {a b : Arena} {hanging : Option SpaceId}
    (kept : ∀ parent, hanging = some parent → b.space? parent = a.space? parent)
    (limit : b.maxDepth = a.maxDepth) :
    (∃ fault, a.newSpace hanging = .error fault ∧ b.newSpace hanging = .error fault) ∨
      ∃ depth, a.newSpace hanging = .ok (a.allocate hanging depth) ∧
        b.newSpace hanging = .ok (b.allocate hanging depth) := by
  cases hanging with
  | none => exact .inr ⟨0, rfl, rfl⟩
  | some parent =>
      simp only [Arena.newSpace, kept parent rfl, limit]
      cases a.space? parent with
      | none => exact .inl ⟨_, rfl, rfl⟩
      | some above =>
          by_cases room : above.depth + 1 ≤ a.maxDepth
          · exact .inr ⟨_, if_pos room, if_pos room⟩
          · exact .inl ⟨_, if_neg room, if_neg room⟩

/-- The space for a copy is refused exactly where the original has lost its scope. Depth is no
reason to refuse it, since the original fits beside it. -/
theorem failsIf_newSpace (sound : w.arena.Sound) {p : Payload} {space : SpaceId}
    (held : w.backing v = .aggregate p space) (there : w.arena.Allocated space) :
    w.FailsIf (w.LostScope v) (Step.newSpace ((w.arena.space? space).bind (·.parent))) := by
  intro u known
  have kept : ∀ parent, (w.arena.space? space).bind (·.parent) = some parent →
      u.arena.space? parent = w.arena.space? parent := by
    intro parent hangs
    obtain ⟨s, live, below⟩ := Option.bind_eq_some_iff.mp hangs
    have older : parent.index < space.index := sound.older space s parent live below
    exact known.keeps.space? (Nat.zero_le _) (Nat.lt_trans older there)
  have beside := newSpace_beside sound held
  rw [Step.newSpace]
  rcases newSpace_alike kept known.maxDepth with ⟨fault, refused, same⟩ | ⟨depth, made, same⟩
  · rw [refused] at beside
    rw [same]
    rcases beside with ⟨lost, unknown⟩ | ⟨_, _, made⟩
    · cases unknown
      exact .refused lost known
    · cases made
  · rw [made] at beside
    rw [same]
    rcases beside with ⟨_, refused⟩ | ⟨chained, _⟩
    · cases refused
    · exact .made chained (composes_allocates.trans known (allocates_allocate u _ depth))

/-- From wherever all of the value is still there, its copy fails exactly if the value is
stranded. -/
theorem deepCopyWithin_failsIf (sound : w.arena.Sound) {n : Nat} (height : w.Height n v)
    (whole : w.Whole v) : w.FailsIf (w.Stranded v) (deepCopyWithin n v) := by
  induction n generalizing v with
  | zero => exact height.elim
  | succ n ih =>
      have deeper : ∀ x, w.Holds v x → w.FailsIf (w.Stranded x) (deepCopyWithin n x) :=
        fun x step => ih (height x step) (whole.of_holds step)
      intro u known
      obtain ⟨present, there⟩ := whole.known
      have backing := known.keeps.backing present
      cases held : w.backing v with
      | aggregate p space =>
          rw [held] at there
          have now : u.backing v = .aggregate p space := backing.trans held
          have still : u.arena.space? space = w.arena.space? space :=
            known.keeps.space? (Nat.zero_le _) there
          have bindings : u.arena.bindings space = w.arena.bindings space := by
            rw [Arena.bindings, Arena.bindings, still]
          have judged := failsIf_newSpace sound held there u known
          rw [deepCopyWithin_aggregate now, still, bindings]
          generalize made : Step.newSpace ((w.arena.space? space).bind (·.parent)) u = answer
            at judged ⊢
          cases judged with
          | refused lost known =>
              exact .refused ((stranded_aggregate held).mpr (.inl lost)) known
          | @made id x chained grown =>
              have fresh := Nat.le_trans known.keeps.slots.size (newSpace_allocates made).1
              have members := failsIf_copyMembers fresh
                (fun row member other => deeper row.2
                  (.member held other ((Table.mem_rows_iff _ row.1 row.2).mp member)))
                _ (grown.duplicateInto fresh v p)
              dsimp only
              generalize copyMembers (deepCopyWithin n) id (w.arena.bindings space).rows
                (x.duplicateInto v p id).2 = filled at members ⊢
              cases members with
              | refused lost known =>
                  exact .refused ((stranded_aggregate held).mpr (.inr lost)) known
              | made fine known =>
                  refine .made (fun lost => ?_) known
                  rcases (stranded_aggregate held).mp lost with here | within
                  · exact chained here
                  · exact fine within
      | list l =>
          rw [held] at there
          rw [deepCopyWithin, bind_apply, get_apply]
          simp only [backing.trans held, known.keeps.list there]
          have copied := failsIf_mapM fun x member => deeper x (.listItem held member)
          refine ((copied.settle fun items => ?_).congr (stranded_list held)) u known
          exact (failsIf_change w _ fun x => allocates_addList x _).settle fun k =>
            failsIf_duplicate w v (.list k)
      | set s =>
          rw [held] at there
          rw [deepCopyWithin, bind_apply, get_apply]
          simp only [backing.trans held, known.keeps.set there]
          have copied := failsIf_copyItems (fun x member => deeper x (.setItem held member))
            (w.set s).cleared
          refine ((copied.settle fun box => ?_).congr (stranded_set held)) u known
          exact (failsIf_change w _ fun x => allocates_addSet x box).settle fun k =>
            failsIf_duplicate w v (.set k)
      | map m =>
          rw [held] at there
          rw [deepCopyWithin, bind_apply, get_apply]
          simp only [backing.trans held, known.keeps.map there]
          have copied := failsIf_copyEntries
            (fun entry member => ⟨deeper entry.1 (.key held member),
              deeper entry.2 (.element held member)⟩) (w.map m).cleared
          refine ((copied.settle fun box => ?_).congr (stranded_map held)) u known
          exact (failsIf_change w _ fun x => allocates_addMap x box).settle fun k =>
            failsIf_duplicate w v (.map k)
      | absent =>
          rw [deepCopyWithin_absent (backing.trans held)]
          exact .made (not_stranded held (.inr rfl)) known
      | _ =>
          rw [deepCopyWithin_plain (by rw [backing, held]; rfl)]
          exact .made (not_stranded held (.inl rfl))
            (composes_allocates.trans known (allocates_addCell u _))

/-- A copy of a value that does not lead back to itself fails if and only if an aggregate within the
value, or the value itself, has lost its scope, and then it says that the space is unknown. However
close to the depth limit the spaces of the value are, it never fails for depth. -/
theorem deepCopy_fails_iff (sound : w.arena.Sound) (acyclic : w.Acyclic v) (whole : w.Whole v) :
    ((∃ fault, (deepCopy v w).1 = .error fault) ↔ ∃ x, w.Reaches v x ∧ w.LostScope x) ∧
      ∀ fault, (deepCopy v w).1 = .error fault → fault = .unknownSpace := by
  have height : w.Height w.walkBound v := (acyclic.height whole).mono (Nat.le_succ _)
  have judged : w.Judged (w.Stranded v) (deepCopy v w) :=
    deepCopyWithin_failsIf sound height whole w (composes_allocates.refl w)
  generalize deepCopy v w = answer at judged ⊢
  cases judged with
  | refused lost known =>
      refine ⟨iff_of_true ⟨_, rfl⟩ lost, ?_⟩
      rintro fault ⟨⟩
      rfl
  | made fine known => exact ⟨iff_of_false (fun ⟨_, failed⟩ => nomatch failed) fine, nofun⟩

/-- The outer aggregate is chained to a space that is there; its member is what has lost its
scope. -/
theorem deepCopy_fails_iff_strandedMember :
    ¬ strandedMember.LostScope ⟨2⟩ ∧ (∃ fault, (deepCopy ⟨2⟩ strandedMember).1 = .error fault) := by
  have lost : strandedMember.LostScope ⟨3⟩ := ⟨.null, ⟨4⟩, _, ⟨3⟩, rfl, rfl, rfl, rfl⟩
  have held : strandedMember.Holds ⟨2⟩ ⟨3⟩ := .member rfl (show "inner" ≠ selfName by decide) rfl
  refine ⟨?_, ?_⟩
  · rintro ⟨p, space, s, parent, same, live, hangs, dead⟩
    cases same
    cases live
    cases hangs
    cases dead
  · exact (deepCopy_fails_iff sound_strandedMember height_strandedMember.acyclic
      whole_strandedMember).1.mpr ⟨⟨3⟩, (reaches_refl _).tail held, lost⟩

end World

end ScriptValues
