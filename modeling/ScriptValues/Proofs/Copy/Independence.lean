import ScriptValues.Proofs.Copy.Correspondence
import ScriptValues.Proofs.Copy.Edits
import ScriptValues.Proofs.World.Grounded

/-! A deep copy is independent of what it was made from.

Making it only allocates; what can be read from it was allocated for it; and no edit of the copy can
be seen in the original. Host objects, callables and templates are shared, so payloads of the
original are compared under the same outside state. -/

namespace ScriptValues

namespace World

variable {E : Type} {w u : World E}

theorem Keeps.payloadWithin (keeps : w.Keeps u) (outside : u.outside = w.outside) {n m : Nat}
    {v : Value} (height : w.Height n v) (whole : w.Whole v) (enough : n ≤ m) :
    u.payloadWithin m v = w.payloadWithin n v := by
  induction n generalizing v m with
  | zero => exact height.elim
  | succ n ih =>
      obtain ⟨m, rfl⟩ : ∃ k, m = k + 1 := ⟨m - 1, by omega⟩
      have fewer : n ≤ m := Nat.le_of_succ_le_succ enough
      have deeper : ∀ x, w.Holds v x → u.payloadWithin m x = w.payloadWithin n x :=
        fun x step => ih (height x step) (whole.of_holds step) fewer
      obtain ⟨present, there⟩ := whole.known
      have same := keeps.backing present
      cases held : w.backing v with
      | list l =>
          rw [held] at there same
          have items := fun x member => deeper x (.listItem held member)
          simp only [World.payloadWithin, held, same, keeps.list there, List.map_congr_left items]
      | set s =>
          rw [held] at there same
          have items := fun x member => deeper x (.setItem held member)
          simp only [World.payloadWithin, held, same, keeps.set there, List.map_congr_left items]
      | map q =>
          rw [held] at there same
          have entries : ∀ entry ∈ (w.map q).entries,
              (u.payloadWithin m entry.1, u.payloadWithin m entry.2) =
                (w.payloadWithin n entry.1, w.payloadWithin n entry.2) :=
            fun entry member => Prod.ext (deeper _ (.key held member))
              (deeper _ (.element held member))
          simp only [World.payloadWithin, held, same, keeps.map there, List.map_congr_left entries]
      | enum variant =>
          rw [held] at same
          cases variant <;> simp only [World.payloadWithin, held, same]
      | function callable =>
          rw [held] at same
          cases callable <;> simp only [World.payloadWithin, held, same]
      | _ =>
          rw [held] at same
          simp only [World.payloadWithin, held, same, outside]

theorem Keeps.payload (keeps : w.Keeps u) {v : Value} (acyclic : w.Acyclic v) (whole : w.Whole v) :
    ({ u with outside := w.outside } : World E).payload v = w.payload v := by
  have height : w.Height w.walkBound v := (acyclic.height whole).mono (Nat.le_succ _)
  have kept : w.Keeps { u with outside := w.outside } :=
    ⟨keeps.cells, keeps.lists, keeps.sets, keeps.maps, keeps.slots⟩
  exact kept.payloadWithin rfl height whole (Nat.succ_le_succ keeps.cells.size)

/-- `x` was allocated on the way from `w` to `u`, and so was its container or member space. -/
def NewIn (w u : World E) (x : Value) : Prop :=
  w.cells.size ≤ x.index ∧ w.Beyond (u.backing x) ∧ u.Known x

/-- A copy only allocates, everything that can be read from it is new or the absent value, and edits
of it leave alone whatever was there before the copy. -/
theorem deepCopy_independent (grounded : w.Grounded) {v c : Value} (acyclic : w.Acyclic v)
    (whole : w.Whole v) (done : deepCopy v w = (.ok c, u)) :
    w.Allocates u ∧
      (∀ x, u.Leads c x → w.NewIn u x ∨ (w.isAbsent x = true ∧ u.cell x = w.cell x)) ∧
      ∀ made u', Edited u c made u' →
        w.Keeps u' ∧ ∀ x, w.Reaches v x →
          u'.cell x = w.cell x ∧
            ({ u' with outside := w.outside } : World E).payload x = w.payload x := by
  obtain ⟨separate, grown, copied⟩ := deepCopy_copied grounded.space acyclic whole done
  refine ⟨grown, ?_, ?_⟩
  · intro x path
    obtain ⟨y, _, n, _, _, copy⟩ := copied.of_leads grown.keeps path
    by_cases absent : w.backing y = .absent
    · obtain ⟨same, old⟩ := copy.absent absent
      subst same
      refine .inr ⟨?_, grown.keeps.cell old⟩
      rw [isAbsent, family, absent]
      rfl
    · have new := (copy.new absent).1
      exact .inl ⟨new, separate.cells x.index new, copy.known grown.keeps⟩
  · intro made u' edited
    obtain ⟨n, _, _, copy⟩ := copied
    have keeps := (separate.edited grounded.absent copy.vacant edited).1.keeps
    refine ⟨keeps, fun x path => ⟨keeps.cell (whole x path).1, ?_⟩⟩
    exact keeps.payload (acyclic.of_reaches path) (whole.of_reaches path)

def aggregateWithList : World Unit :=
  let w := (newAggregate (.aggregate "Bag" [] false) SpaceId.empty .null (World.initial 4 ())).2
  let (item, w) := w.newInt 7
  let (list, w) := w.newListOf (.list .int) [item]
  w.withArena (w.arena.bind ⟨1⟩ "items" list).2

theorem holds_aggregateWithList {x y : Value} (known : x = ⟨2⟩ ∨ x = ⟨4⟩ ∨ x = ⟨3⟩)
    (step : aggregateWithList.Holds x y) : (x = ⟨2⟩ ∧ y = ⟨4⟩) ∨ (x = ⟨4⟩ ∧ y = ⟨3⟩) := by
  rcases known with same | same | same
  · subst same
    cases step with
    | @member p space name held other bound =>
        cases held
        have row : (name, y) ∈ [("items", (⟨4⟩ : Value)), (selfName, ⟨2⟩)] :=
          (Table.mem_rows_iff _ name y).mpr bound
        rcases List.mem_cons.mp row with items | itself
        · cases items
          exact .inl ⟨rfl, rfl⟩
        · cases List.mem_singleton.mp itself
          exact absurd rfl other
    | listItem held | setItem held | key held | element held => cases held
  · subst same
    cases step with
    | listItem held item =>
        cases held
        exact .inr ⟨rfl, List.mem_singleton.mp item⟩
    | member held | setItem held | key held | element held => cases held
  · subst same
    cases step with
    | member held | listItem held | setItem held | key held | element held => cases held

theorem reaches_aggregateWithList {x : Value} (path : aggregateWithList.Reaches ⟨2⟩ x) :
    x = ⟨2⟩ ∨ x = ⟨4⟩ ∨ x = ⟨3⟩ := by
  induction path with
  | refl => exact .inl rfl
  | tail _ step ih =>
      rcases holds_aggregateWithList ih step with ⟨_, same⟩ | ⟨_, same⟩
      · exact .inr (.inl same)
      · exact .inr (.inr same)

theorem height_aggregateWithList : aggregateWithList.Height 3 ⟨2⟩ := by
  intro list step
  rcases holds_aggregateWithList (.inl rfl) step with ⟨_, same⟩ | ⟨impossible, _⟩
  · subst same
    intro item step
    rcases holds_aggregateWithList (.inr (.inl rfl)) step with ⟨impossible, _⟩ | ⟨_, same⟩
    · cases impossible
    · subst same
      intro nothing step
      rcases holds_aggregateWithList (.inr (.inr rfl)) step with ⟨impossible, _⟩ | ⟨impossible, _⟩
      · cases impossible
      · cases impossible
  · cases impossible

theorem whole_aggregateWithList : aggregateWithList.Whole ⟨2⟩ := by
  intro x path
  rcases reaches_aggregateWithList path with same | same | same
  · subst same
    exact ⟨show 2 < 5 by decide, show 1 < 2 by decide⟩
  · subst same
    exact ⟨show 4 < 5 by decide, show 0 < 1 by decide⟩
  · subst same
    exact ⟨show 3 < 5 by decide, trivial⟩

/-- The copy's list gets a new number, and the original's list does not. -/
theorem deepCopy_independent_aggregateWithList :
    let u := (deepCopy ⟨2⟩ aggregateWithList).2
    let u' := ((Edit.listAdd ⟨7⟩ ⟨8⟩).run ((Edit.newBasic .int (.int 9) true).run u).2).2
    (u'.list ⟨1⟩).items = [⟨6⟩, ⟨8⟩] ∧ aggregateWithList.Keeps u' := by
  intro u u'
  have grounded : aggregateWithList.Grounded :=
    ⟨show 0 < 2 by decide, show 0 < 5 by decide, rfl, rfl⟩
  have done : deepCopy ⟨2⟩ aggregateWithList = (.ok ⟨5⟩, u) := rfl
  have edits := (deepCopy_independent grounded height_aggregateWithList.acyclic
    whole_aggregateWithList done).2.2
  have first : Edited u ⟨5⟩ [⟨8⟩] ((Edit.newBasic .int (.int 9) true).run u).2 :=
    Edited.next .start (.newBasic .int (.int 9) true) (fun _ given => absurd given List.not_mem_nil)
  refine ⟨rfl, (edits _ u' (first.next (.listAdd ⟨7⟩ ⟨8⟩) ?_)).1⟩
  intro x given
  rcases List.mem_cons.mp given with list | item
  · subst list
    have other : "items" ≠ selfName := by decide
    exact ⟨⟨5⟩, List.mem_cons_self, Relation.ReflTransGen.single (.content (.member rfl other rfl))⟩
  · cases List.mem_singleton.mp item
    exact ⟨⟨8⟩, List.mem_cons_of_mem _ List.mem_cons_self, Relation.ReflTransGen.refl⟩

end World

end ScriptValues
