import ScriptValues.Proofs.Copy.Result

/-! What a copy holds corresponds to what the original holds.

Everything within a copy is the copy of something within the original. Conversely everything within
the original is copied, but for what a set or map drops while it is filled anew. -/

namespace ScriptValues

namespace World

variable {E : Type} {w u : World E} {floor n : Nat} {v c : Value}

inductive Carries (w : World E) (v u : Value) : Prop
  | listItem {l : ListId} (held : w.backing v = .list l) (item : u ∈ (w.list l).items)
  | setItem {s : SetId} (held : w.backing v = .set s)
      (item : u ∈ firsts (w.copyPayloadWithin w.walkBound) [] (w.set s).items)
  | key {m : MapId} {x : Value} (held : w.backing v = .map m)
      (entry : (u, x) ∈ firsts (w.keyPayload w.walkBound) [] (w.map m).entries)
  | element {m : MapId} {k : Value} (held : w.backing v = .map m)
      (entry : (k, u) ∈ firsts (w.keyPayload w.walkBound) [] (w.map m).entries)
  | member {p : Payload} {space : SpaceId} {name : String} (held : w.backing v = .aggregate p space)
      (other : name ≠ selfName) (bound : (w.arena.bindings space).get? name = some u)

theorem Carries.holds {x : Value} (step : w.Carries v x) : w.Holds v x := by
  cases step with
  | listItem held item => exact .listItem held item
  | setItem held item => exact .setItem held (mem_of_mem_firsts item)
  | key held entry => exact .key held (mem_of_mem_firsts entry)
  | element held entry => exact .element held (mem_of_mem_firsts entry)
  | member held other bound => exact .member held other bound

theorem known_of_plain (there : v.index < w.cells.size) (plain : (w.backing v).plain = true) :
    w.Known v := by
  refine ⟨there, ?_⟩
  cases held : w.backing v with
  | absent | aggregate | list | set | map =>
      rw [held] at plain
      cases plain
  | _ => trivial

theorem not_holds {b : Backing E} (now : w.backing v = b) (hollow : b.plain = true ∨ b = .absent)
    (x : Value) : ¬ w.Holds v x := by
  subst now
  intro step
  rcases hollow with plain | absent
  · cases step with
    | listItem kind | setItem kind | key kind | element kind | member kind =>
        rw [kind] at plain
        cases plain
  · cases step with
    | listItem kind | setItem kind | key kind | element kind | member kind =>
        rw [kind] at absent
        cases absent

theorem firsts_items_eq (few : n ≤ w.walkBound) (height : w.Height (n + 1) v) {s : SetId}
    (held : w.backing v = .set s) :
    firsts (w.copyPayloadWithin w.walkBound) [] (w.set s).items =
      firsts (w.copyPayloadWithin n) [] (w.set s).items :=
  firsts_congr fun x member => copyPayloadWithin_eq (height x (.setItem held member)) few

theorem firsts_entries_eq (few : n ≤ w.walkBound) (height : w.Height (n + 1) v) {m : MapId}
    (held : w.backing v = .map m) :
    firsts (w.keyPayload w.walkBound) [] (w.map m).entries =
      firsts (w.keyPayload n) [] (w.map m).entries :=
  firsts_congr fun entry member => copyPayloadWithin_eq (height entry.1 (.key held member)) few

theorem CopyOf.backing_of_absent (keeps : w.Keeps u) (copied : w.CopyOf u floor n v c)
    (absent : w.backing v = .absent) : u.backing c = .absent := by
  obtain ⟨same, old⟩ := copied.absent absent
  rw [same, keeps.backing old, absent]

section Levels

variable (few : n ≤ w.walkBound) (height : w.Height (n + 1) v)

include few height

theorem CopyOf.carries_of_holds (keeps : w.Keeps u) (copied : w.CopyOf u floor (n + 1) v c)
    {d : Value} (step : u.Holds c d) : ∃ x, w.Carries v x ∧ w.CopyOf u floor n x d := by
  cases held : w.backing v with
  | absent =>
      exact absurd step (not_holds (copied.backing_of_absent keeps held) (.inr rfl) d)
  | aggregate p space =>
      rw [CopyOf, held] at copied
      obtain ⟨id, s, made, _, live, _, _, members⟩ := copied
      have now := made.backing
      cases step with
      | @member p space' name kind other bound =>
          rw [now] at kind
          cases kind
          have here : u.arena.bindings id = s.bindings := by
            rw [Arena.bindings]
            rw [live]
          have related := members name other
          rw [here] at bound
          rw [bound] at related
          generalize found : (w.arena.bindings space).get? name = answer at related
          cases related with
          | some copy => exact ⟨_, .member held other found, copy⟩
      | listItem kind | setItem kind | key kind | element kind =>
          rw [now] at kind
          cases kind
  | list l =>
      rw [CopyOf, held] at copied
      obtain ⟨k, made, _, _, items⟩ := copied
      have now := made.backing
      cases step with
      | listItem kind item =>
          rw [now] at kind
          cases kind
          obtain ⟨x, member, copy⟩ := exists_left_of_forall₂ items item
          exact ⟨x, .listItem held member, copy⟩
      | member kind | setItem kind | key kind | element kind =>
          rw [now] at kind
          cases kind
  | set s =>
      rw [CopyOf, held] at copied
      obtain ⟨t, made, _, _, _, items⟩ := copied
      have now := made.backing
      cases step with
      | setItem kind item =>
          rw [now] at kind
          cases kind
          obtain ⟨x, member, copy⟩ := exists_left_of_forall₂ items item
          rw [← firsts_items_eq few height held] at member
          exact ⟨x, .setItem held member, copy⟩
      | member kind | listItem kind | key kind | element kind =>
          rw [now] at kind
          cases kind
  | map m =>
      rw [CopyOf, held] at copied
      obtain ⟨k, made, _, _, _, _, entries⟩ := copied
      have now := made.backing
      cases step with
      | key kind entry =>
          rw [now] at kind
          cases kind
          obtain ⟨x, member, copy⟩ := exists_left_of_forall₂ entries entry
          rw [← firsts_entries_eq few height held] at member
          exact ⟨x.1, .key held member, copy.1⟩
      | element kind entry =>
          rw [now] at kind
          cases kind
          obtain ⟨x, member, copy⟩ := exists_left_of_forall₂ entries entry
          rw [← firsts_entries_eq few height held] at member
          exact ⟨x.2, .element held member, copy.2⟩
      | member kind | listItem kind | setItem kind =>
          rw [now] at kind
          cases kind
  | _ =>
      rw [CopyOf, held] at copied
      exact absurd step (not_holds copied.backing (.inl rfl) d)

theorem CopyOf.holds_of_carries (copied : w.CopyOf u floor (n + 1) v c) {x : Value}
    (step : w.Carries v x) : ∃ d, u.Holds c d ∧ w.CopyOf u floor n x d := by
  cases step with
  | listItem held item =>
      rw [CopyOf, held] at copied
      obtain ⟨k, made, _, _, items⟩ := copied
      obtain ⟨d, member, copy⟩ := exists_right_of_forall₂ items item
      exact ⟨d, .listItem made.backing member, copy⟩
  | setItem held item =>
      rw [firsts_items_eq few height held] at item
      rw [CopyOf, held] at copied
      obtain ⟨t, made, _, _, _, items⟩ := copied
      obtain ⟨d, member, copy⟩ := exists_right_of_forall₂ items item
      exact ⟨d, .setItem made.backing member, copy⟩
  | key held entry =>
      rw [firsts_entries_eq few height held] at entry
      rw [CopyOf, held] at copied
      obtain ⟨k, made, _, _, _, _, entries⟩ := copied
      obtain ⟨d, member, copy⟩ := exists_right_of_forall₂ entries entry
      exact ⟨d.1, .key made.backing member, copy.1⟩
  | element held entry =>
      rw [firsts_entries_eq few height held] at entry
      rw [CopyOf, held] at copied
      obtain ⟨k, made, _, _, _, _, entries⟩ := copied
      obtain ⟨d, member, copy⟩ := exists_right_of_forall₂ entries entry
      exact ⟨d.2, .element made.backing member, copy.2⟩
  | @member p space name held other bound =>
      rw [CopyOf, held] at copied
      obtain ⟨id, s, made, _, live, _, _, members⟩ := copied
      have related := members name other
      rw [bound] at related
      generalize found : s.bindings.get? name = answer at related
      cases related with
      | some copy =>
          refine ⟨_, .member made.backing other ?_, copy⟩
          rw [Arena.bindings]
          rw [live]
          exact found

end Levels

/-- An aggregate among the copies is the copy of an aggregate. Its space hangs where the space of the
original hangs, and it is what its space calls itself. -/
theorem CopyOf.of_aggregate (keeps : w.Keeps u) (copied : w.CopyOf u floor n v c) {p : Payload}
    {id : SpaceId} (now : u.backing c = .aggregate p id) :
    ∃ space s, w.backing v = .aggregate p space ∧ floor ≤ id.index ∧ u.arena.space? id = some s ∧
      s.parent = (w.arena.space? space).bind (·.parent) ∧ s.bindings.get? selfName = some c := by
  cases n with
  | zero => exact copied.elim
  | succ n =>
      cases held : w.backing v with
      | absent =>
          rw [copied.backing_of_absent keeps held] at now
          cases now
      | aggregate q space =>
          rw [CopyOf, held] at copied
          obtain ⟨id', s, made, above, live, parent, itself, _⟩ := copied
          rw [made.backing] at now
          cases now
          exact ⟨space, s, rfl, above, live, parent, itself⟩
      | list | set | map =>
          rw [CopyOf, held] at copied
          obtain ⟨_, made, _⟩ := copied
          rw [made.backing] at now
          cases now
      | _ =>
          rw [CopyOf, held] at copied
          rw [copied.backing] at now
          cases now

theorem CopyOf.to_aggregate (copied : w.CopyOf u floor n v c) {p : Payload} {space : SpaceId}
    (held : w.backing v = .aggregate p space) :
    ∃ id s, u.backing c = .aggregate p id ∧ floor ≤ id.index ∧ u.arena.space? id = some s ∧
      s.parent = (w.arena.space? space).bind (·.parent) := by
  cases n with
  | zero => exact copied.elim
  | succ n =>
      rw [CopyOf, held] at copied
      obtain ⟨id, s, made, above, live, parent, _⟩ := copied
      exact ⟨id, s, made.backing, above, live, parent⟩

theorem CopyOf.known (keeps : w.Keeps u) (copied : w.CopyOf u floor n v c) : u.Known c := by
  cases n with
  | zero => exact copied.elim
  | succ n =>
      cases held : w.backing v with
      | absent =>
          obtain ⟨same, old⟩ := copied.absent held
          have now := copied.backing_of_absent keeps held
          constructor
          · rw [same]
            exact Nat.lt_of_lt_of_le old keeps.cells.size
          · rw [now]
            trivial
      | aggregate q space =>
          rw [CopyOf, held] at copied
          obtain ⟨id, s, made, _, live, _⟩ := copied
          refine ⟨made.present, ?_⟩
          rw [made.backing]
          exact Arena.allocated_of_space? _ live
      | list | set | map =>
          rw [CopyOf, held] at copied
          obtain ⟨_, made, present, _⟩ := copied
          refine ⟨made.present, ?_⟩
          rw [made.backing]
          exact present
      | _ =>
          rw [CopyOf, held] at copied
          refine ⟨copied.present, ?_⟩
          rw [copied.backing]
          trivial

def Copied (w u : World E) (v c : Value) : Prop :=
  ∃ n, n ≤ w.walkBound ∧ w.Height n v ∧ w.CopyOf u w.arena.slots.size n v c

/-- A copy of `v` is made from `u`, among others. -/
def CarriesOn (w : World E) : Value → Value → Prop := Relation.ReflTransGen w.Carries

theorem CarriesOn.reaches {x : Value} (path : w.CarriesOn v x) : w.Reaches v x := by
  induction path with
  | refl => exact reaches_refl v
  | tail _ step ih => exact ih.tail step.holds

namespace Copied

variable (copied : w.Copied u v c)

include copied

theorem of_holds (keeps : w.Keeps u) {d : Value} (step : u.Holds c d) :
    ∃ x, w.Carries v x ∧ w.Copied u x d := by
  obtain ⟨n, few, height, copy⟩ := copied
  cases n with
  | zero => exact height.elim
  | succ n =>
      have fewer : n ≤ w.walkBound := Nat.le_of_succ_le few
      obtain ⟨x, carried, deeper⟩ := copy.carries_of_holds fewer height keeps step
      exact ⟨x, carried, n, fewer, height x carried.holds, deeper⟩

theorem of_carries {x : Value} (step : w.Carries v x) : ∃ d, u.Holds c d ∧ w.Copied u x d := by
  obtain ⟨n, few, height, copy⟩ := copied
  cases n with
  | zero => exact height.elim
  | succ n =>
      have fewer : n ≤ w.walkBound := Nat.le_of_succ_le few
      obtain ⟨d, held, deeper⟩ := copy.holds_of_carries fewer height step
      exact ⟨d, held, n, fewer, height x step.holds, deeper⟩

theorem of_leads (keeps : w.Keeps u) {d : Value} (path : u.Leads c d) :
    ∃ x, w.CarriesOn v x ∧ w.Copied u x d := by
  induction path with
  | refl => exact ⟨v, Relation.ReflTransGen.refl, copied⟩
  | tail _ step ih =>
      obtain ⟨x, path, copy⟩ := ih
      cases step with
      | content step =>
          obtain ⟨y, carried, deeper⟩ := copy.of_holds keeps step
          exact ⟨y, Relation.ReflTransGen.tail path carried, deeper⟩
      | itself held bound =>
          obtain ⟨n, few, height, known⟩ := copy
          obtain ⟨_, s, _, _, live, _, itself⟩ := known.of_aggregate keeps held
          rw [Arena.bindings] at bound
          rw [live] at bound
          cases itself.symm.trans bound
          exact ⟨x, path, n, few, height, known⟩

theorem of_carriesOn {x : Value} (path : w.CarriesOn v x) :
    ∃ d, u.Reaches c d ∧ w.Copied u x d := by
  induction path with
  | refl => exact ⟨c, reaches_refl c, copied⟩
  | tail _ step ih =>
      obtain ⟨d, path, copy⟩ := ih
      obtain ⟨e, held, deeper⟩ := copy.of_carries step
      exact ⟨e, path.tail held, deeper⟩

end Copied

/-- A successful deep copy of what does not lead back to itself is a copy, and separate. -/
theorem deepCopy_copied (base : w.arena.Allocated SpaceId.empty) (acyclic : w.Acyclic v)
    (whole : w.Whole v) (done : deepCopy v w = (.ok c, u)) :
    w.Separate u ∧ w.Allocates u ∧ w.Copied u v c := by
  have height : w.Height w.walkBound v := (acyclic.height whole).mono (Nat.le_succ _)
  obtain ⟨separate, grown, copy⟩ := deepCopyWithin_copies base (Nat.le_refl _) height whole
    w c u (separate_refl w) (composes_allocates.refl w) done
  exact ⟨separate, grown, w.walkBound, Nat.le_refl _, height, copy⟩

end World

end ScriptValues
