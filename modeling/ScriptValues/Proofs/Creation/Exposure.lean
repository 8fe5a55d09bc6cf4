import ScriptValues.Proofs.Creation.Opening
import ScriptValues.Proofs.Failure.Encapsulation
import ScriptValues.Proofs.Failure.Default
import ScriptValues.Proofs.Failure.Write
import ScriptValues.Proofs.Translation.Lifecycle

/-! What is exposed of a host object.

For each member that is backed by the schema there is a way to expose it, which depends on its kind
and its type. The first backed member of a name is bound under it. Fields of aggregate type are
translated at once, each with one call of the translator, and nothing else calls it. -/

namespace ScriptValues

open World Step

variable {E : Type}

namespace Schema

def fieldPayload (schema : Schema E) (host : HostId) (outside : E) (m : Member) : Payload :=
  match schema.field? m.name with
  | none => .null
  | some accessor => accessor.get host outside

/-- There is an accessor for the member and, if it is a field of aggregate type, a payload. -/
def backs (schema : Schema E) (host : HostId) (outside : E) (m : Member) : Bool :=
  match m.kind with
  | .field =>
      (schema.field? m.name).isSome &&
        !(m.ty.isAggregate && (schema.fieldPayload host outside m).isNull)
  | .property => (schema.property? m.name).isSome

def translates (schema : Schema E) (host : HostId) (outside : E) (m : Member) : Bool :=
  m.kind == .field && m.ty.isAggregate && schema.backs host outside m

def SameFields (schema : Schema E) (host : HostId) (before after : E) : Prop :=
  ∀ name accessor, schema.field? name = some accessor →
    accessor.get host after = accessor.get host before

inductive Direct (schema : Schema E) (host : HostId) (space : SpaceId) (translator : TranslatorId)
    (m : Member) : Backing E → Prop
  | field {accessor : Accessor E} (kind : m.kind = .field) (plain : m.ty.isAggregate = false)
      (offered : schema.field? m.name = some accessor) :
      schema.Direct host space translator m (.field ⟨accessor, host⟩)
  | property {accessor : Accessor E} (kind : m.kind = .property) (plain : m.ty.isAggregate = false)
      (offered : schema.property? m.name = some accessor) :
      schema.Direct host space translator m (.property ⟨accessor, host⟩)
  | aggregateProperty {accessor : Accessor E} (kind : m.kind = .property)
      (nested : m.ty.isAggregate = true) (offered : schema.property? m.name = some accessor) :
      schema.Direct host space translator m (.aggregateProperty ⟨accessor, host⟩ space translator)

variable {schema : Schema E} {host : HostId} {before after : E}

theorem SameFields.payload (same : schema.SameFields host before after) :
    schema.fieldPayload host after = schema.fieldPayload host before := by
  funext m
  rw [fieldPayload, fieldPayload]
  cases offered : schema.field? m.name with
  | none => rfl
  | some accessor => exact same m.name accessor offered

theorem SameFields.backs (same : schema.SameFields host before after) :
    schema.backs host after = schema.backs host before := by
  funext m
  rw [Schema.backs, Schema.backs, same.payload]

theorem SameFields.translates (same : schema.SameFields host before after) :
    schema.translates host after = schema.translates host before := by
  funext m
  rw [Schema.translates, Schema.translates, same.backs]

end Schema

theorem exposedMember_cases (embedding : Embedding E) (schema : Schema E)
    (translator : TranslatorId) (host : HostId) (space : SpaceId) (m : Member) (x : World E) :
    (schema.backs host x.outside m = false ∧ schema.translates host x.outside m = false ∧
        exposedMember embedding schema translator host space m x = (.ok none, x)) ∨
      (schema.backs host x.outside m = true ∧ schema.translates host x.outside m = false ∧
        ∃ b, schema.Direct host space translator m b ∧
          exposedMember embedding schema translator host space m x =
            (.ok (some ⟨x.cells.size⟩),
              (x.addCell { ty := m.ty, mutable := true, backing := b }).2)) ∨
      (schema.backs host x.outside m = true ∧ schema.translates host x.outside m = true ∧
        exposedMember embedding schema translator host space m x =
          (some <$> embedding.translate translator (schema.fieldPayload host x.outside m)
            space) x) := by
  rw [exposedMember]
  simp only [Schema.translates, Schema.backs]
  cases kind : m.kind with
  | field =>
      cases offered : schema.field? m.name with
      | none => exact .inl ⟨rfl, Bool.and_false _, rfl⟩
      | some accessor =>
          have read : schema.fieldPayload host x.outside m = accessor.get host x.outside := by
            rw [Schema.fieldPayload, offered]
          cases nested : m.ty.isAggregate with
          | false =>
              exact .inr (.inl ⟨rfl, rfl, _, .field kind nested offered, rfl⟩)
          | true =>
              rw [read]
              cases null : (accessor.get host x.outside).isNull with
              | true =>
                  refine .inl ⟨rfl, rfl, ?_⟩
                  simp only [bind_apply, get_apply, if_true]
                  exact congrFun (if_pos null) x
              | false =>
                  refine .inr (.inr ⟨rfl, rfl, ?_⟩)
                  simp only [bind_apply, get_apply, if_true]
                  exact congrFun (if_neg (ne_true_of_eq_false null)) x
  | property =>
      cases offered : schema.property? m.name with
      | none => exact .inl ⟨rfl, rfl, rfl⟩
      | some accessor =>
          cases nested : m.ty.isAggregate with
          | false => exact .inr (.inl ⟨rfl, rfl, _, .property kind nested offered, rfl⟩)
          | true => exact .inr (.inl ⟨rfl, rfl, _, .aggregateProperty kind nested offered, rfl⟩)

namespace World

/-- No more happens from `x` to `y` than that values are made and names are bound in `space`. -/
structure Quiet (space : SpaceId) (x y : World E) : Prop where
  cells : x.cells.KeepsFrom 0 y.cells
  same : y = { x with cells := y.cells, arena := y.arena }
  bindings : Arena.RebindsIn (· = space) x.arena y.arena

/-- The translator is called once for each entry of the log, one after the other, with the payload
of the member and below `space`, and answers what the log says. What an answer brought along stays
as it is, and nothing else happens in between that is not quiet. -/
inductive Calls (embedding : Embedding E) (translator : TranslatorId) (payload : Member → Payload)
    (space : SpaceId) : World E → List (Member × Value) → World E → Prop
  | done {x u : World E} (quiet : x.Quiet space u) :
      Calls embedding translator payload space x [] u
  | call {x y z u : World E} {m : Member} {v : Value} {log : List (Member × Value)}
      (quiet : x.Quiet space y)
      (answered : embedding.translate translator (payload m) space y = (.ok v, z))
      (kept : z.KeepsFrom (space.index + 1) u)
      (later : Calls embedding translator payload space z log u) :
      Calls embedding translator payload space x ((m, v) :: log) u

variable {space root parent : SpaceId} {w x y z u : World E}

theorem quiet_refl (space : SpaceId) (x : World E) : x.Quiet space x :=
  ⟨Heap.keepsFrom_refl 0 _, rfl, .refl⟩

theorem Quiet.trans (first : x.Quiet space y) (second : y.Quiet space z) : x.Quiet space z where
  cells := first.cells.trans second.cells
  same := by rw [second.same, first.same]
  bindings := first.bindings.trans second.bindings

theorem quiet_addCell (space : SpaceId) (x : World E) (c : Cell E) :
    x.Quiet space (x.addCell c).2 :=
  ⟨(Heap.keepsFrom_refl 0 _).push c, rfl, .refl⟩

theorem quiet_bind (space : SpaceId) (x : World E) (name : String) (v : Value) :
    x.Quiet space (x.withArena (x.arena.bind space name v).2) :=
  ⟨Heap.keepsFrom_refl 0 _, rfl, .single ⟨space, rfl, .bind name v⟩⟩

theorem Calls.after {embedding : Embedding E} {translator : TranslatorId}
    {payload : Member → Payload} {log : List (Member × Value)} (quiet : x.Quiet space y)
    (calls : Calls embedding translator payload space y log u) :
    Calls embedding translator payload space x log u := by
  cases calls with
  | done later => exact .done (quiet.trans later)
  | call later answered kept rest => exact .call (quiet.trans later) answered kept rest

/-- How a member is exposed by a value: made at once with its accessor behind it, or as the first
answer for the name in the log of translations. -/
inductive Exposes (schema : Schema E) (host : HostId) (space : SpaceId) (translator : TranslatorId)
    (u : World E) (log : List (Member × Value)) (m : Member) (v : Value) : Prop
  | direct {b : Backing E} (behind : schema.Direct host space translator m b)
      (cell : u.cell v = { ty := m.ty, mutable := true, backing := b })
  | translated (field : m.kind = .field) (nested : m.ty.isAggregate = true)
      (answer : log.find? (·.1.name == m.name) = some (m, v))

def backed? (w : World E) (schema : Schema E) (host : HostId) (members : List Member)
    (name : String) : Option Member :=
  members.find? fun m => m.name == name && schema.backs host w.outside m

/-- Members are being exposed in the space `root`: it is new and below `parent`, nothing that was in
`w` has changed, and the fields of the host object read as in `w`. -/
structure Exposing (w : World E) (schema : Schema E) (host : HostId) (parent root : SpaceId)
    (x : World E) : Prop where
  site : x.Site parent root w.arena
  keeps : w.Keeps x
  fields : schema.SameFields host w.outside x.outside

end World

/-- While members are exposed, the translator has an answer for each field that is to be translated.
It only adds to the world, and what it makes lies below the space that it is given. -/
def Embedding.Serves (embedding : Embedding E) (translator : TranslatorId) (w : World E)
    (schema : Schema E) (host : HostId) (parent root : SpaceId) (members : List Member) : Prop :=
  ∀ x, w.Exposing schema host parent root x → ∀ m ∈ members,
    schema.translates host w.outside m = true → ∃ v y,
      embedding.translate translator (schema.fieldPayload host w.outside m) root x = (.ok v, y) ∧
        x.arena.BuildsBelow root y.arena ∧ x.Keeps y ∧
        schema.SameFields host x.outside y.outside

namespace World

section Exposing

variable {embedding : Embedding E} {schema : Schema E} {translator : TranslatorId} {host : HostId}
  {parent root : SpaceId} {w x y u : World E} {m : Member} {rest : List Member} {s t : Space}
  {v : Value} {log : List (Member × Value)}

/-- From `x` to `u`, the members were exposed in the space `s`, which has become `t`. Names that
were bound before have stayed. -/
structure Exposed (embedding : Embedding E) (schema : Schema E) (translator : TranslatorId)
    (host : HostId) (parent root : SpaceId) (w x u : World E) (members : List Member) (s t : Space)
    (log : List (Member × Value)) : Prop where
  exposing : w.Exposing schema host parent root u
  onward : x.KeepsFrom (root.index + 1) u
  live : u.arena.space? root = some t
  place : t.place = s.place
  kept : ∀ n v, s.bindings.get? n = some v → t.bindings.get? n = some v
  bound : ∀ n, s.bindings.get? n = none →
    Option.Rel (u.Exposes schema host root translator log) (w.backed? schema host members n)
      (t.bindings.get? n)
  calls : Calls embedding translator (schema.fieldPayload host w.outside) root x log u
  asked : log.map Prod.fst = members.filter (schema.translates host w.outside)

theorem Exposing.keep (exposing : w.Exposing schema host parent root x)
    (built : x.arena.BuildsBelow root y.arena) (kept : x.Keeps y)
    (fields : schema.SameFields host x.outside y.outside) :
    w.Exposing schema host parent root y where
  site := ⟨exposing.site.sound.evolve built.evolves, exposing.site.building.step built⟩
  keeps := exposing.keeps.trans kept
  fields name accessor offered :=
    (fields name accessor offered).trans (exposing.fields name accessor offered)

theorem Exposing.bind (exposing : w.Exposing schema host parent root x) (name : String)
    (v : Value) :
    w.Exposing schema host parent root (x.withArena (x.arena.bind root name v).2) where
  site := exposing.site.bindName name v
  keeps := exposing.keeps.changeArena (.inr exposing.site.building.new)
    (Arena.bind_changesAt _ _ _ _)
  fields := exposing.fields

theorem exposed_nil (exposing : w.Exposing schema host parent root x)
    (live : x.arena.space? root = some s) :
    Exposed embedding schema translator host parent root w x x [] s s [] where
  exposing := exposing
  onward := keepsFrom_refl _ x
  live := live
  place := rfl
  kept _ _ bound := bound
  bound n free := by
    rw [free]
    exact .none
  calls := .done (quiet_refl root x)
  asked := rfl

theorem backed?_cons (w : World E) (schema : Schema E) (host : HostId) (m : Member)
    (rest : List Member) (n : String) :
    w.backed? schema host (m :: rest) n =
      if m.name = n ∧ schema.backs host w.outside m = true then some m
      else w.backed? schema host rest n := by
  rw [backed?, backed?, List.find?_cons]
  by_cases found : m.name = n ∧ schema.backs host w.outside m = true
  · simp only [found, beq_self_eq_true, Bool.and_self, and_self, if_true]
  · have passed : (m.name == n && schema.backs host w.outside m) = false := by
      simpa using found
    rw [if_neg found, passed]

theorem name_of_backed? {members : List Member} {n : String}
    (found : w.backed? schema host members n = some m) : m.name = n := by
  have named := List.find?_some found
  rw [Bool.and_eq_true, beq_iff_eq] at named
  exact named.1

theorem Exposed.skip (unbacked : schema.backs host w.outside m = false)
    (untranslated : schema.translates host w.outside m = false)
    (exposed : Exposed embedding schema translator host parent root w x u rest s t log) :
    Exposed embedding schema translator host parent root w x u (m :: rest) s t log :=
  { exposed with
    bound := fun n free => by
      rw [backed?_cons, if_neg fun found => ne_true_of_eq_false unbacked found.2]
      exact exposed.bound n free
    asked := by
      rw [List.filter_cons_of_neg (ne_true_of_eq_false untranslated)]
      exact exposed.asked }

/-- A backed member at the front gets its name if that is free. The other names go on as they
were. -/
theorem Exposed.cons {further : List (Member × Value)}
    (backed : schema.backs host w.outside m = true) (grown : x.Keeps y)
    (exposed : Exposed embedding schema translator host parent root w
      (y.withArena (y.arena.bind root m.name v).2) u rest (s.put m.name v) t log)
    (front : u.Exposes schema host root translator further m v)
    (others : ∀ m' z, m'.name ≠ m.name → u.Exposes schema host root translator log m' z →
      u.Exposes schema host root translator further m' z)
    (calls : Calls embedding translator (schema.fieldPayload host w.outside) root x further u)
    (asked : further.map Prod.fst = (m :: rest).filter (schema.translates host w.outside)) :
    Exposed embedding schema translator host parent root w x u (m :: rest) s t further where
  exposing := exposed.exposing
  onward := ((grown.mono (Nat.zero_le _)).changeArena (.inl (Nat.lt_succ_self _))
    (Arena.bind_changesAt _ _ _ _)).trans exposed.onward
  live := exposed.live
  place := exposed.place.trans (Space.place_put s m.name v)
  kept n z bound := exposed.kept n z (Space.get?_put_of_bound bound m.name v)
  bound n free := by
    rw [backed?_cons]
    by_cases same : m.name = n
    · subst same
      rw [if_pos ⟨rfl, backed⟩, exposed.kept _ v (Space.get?_put_self free v)]
      exact .some front
    · have related := exposed.bound n ((Space.get?_put_other (Ne.symm same) v).trans free)
      rw [if_neg fun found => same found.1]
      generalize given : w.backed? schema host rest n = found at related ⊢
      generalize t.bindings.get? n = bound at related ⊢
      cases related with
      | none => exact .none
      | @some m' z related =>
          have named : m'.name = n := name_of_backed? given
          exact .some (others m' z (fun clash => same (clash.symm.trans named)) related)
  calls := calls
  asked := asked

theorem Exposed.direct {b : Backing E} (backed : schema.backs host w.outside m = true)
    (untranslated : schema.translates host w.outside m = false)
    (behind : schema.Direct host root translator m b)
    (exposed : Exposed embedding schema translator host parent root w
      ((x.addCell { ty := m.ty, mutable := true, backing := b }).2.withArena
        (x.arena.bind root m.name ⟨x.cells.size⟩).2) u rest (s.put m.name ⟨x.cells.size⟩) t log) :
    Exposed embedding schema translator host parent root w x u (m :: rest) s t log := by
  have made : (x.addCell { ty := m.ty, mutable := true, backing := b }).2.cell ⟨x.cells.size⟩ =
      { ty := m.ty, mutable := true, backing := b } := Heap.read_push_self _ _
  have there : x.cells.size <
      (x.cells.push { ty := m.ty, mutable := true, backing := b }).size := by
    rw [Heap.size_push]
    exact Nat.lt_succ_self _
  have still := exposed.onward.cell (x := ⟨x.cells.size⟩) there
  have quiet := (quiet_addCell root x { ty := m.ty, mutable := true, backing := b }).trans
    (quiet_bind root _ m.name ⟨x.cells.size⟩)
  refine exposed.cons backed (allocates_addCell x _).keeps
    (.direct behind (still.trans made)) (fun _ _ _ same => same) (exposed.calls.after quiet) ?_
  rw [List.filter_cons_of_neg (ne_true_of_eq_false untranslated)]
  exact exposed.asked

theorem Exposed.translated (backed : schema.backs host w.outside m = true)
    (translated : schema.translates host w.outside m = true) (grown : x.Keeps y)
    (answered : embedding.translate translator (schema.fieldPayload host w.outside m) root x =
      (.ok v, y))
    (exposed : Exposed embedding schema translator host parent root w
      (y.withArena (y.arena.bind root m.name v).2) u rest (s.put m.name v) t log) :
    Exposed embedding schema translator host parent root w x u (m :: rest) s t ((m, v) :: log) := by
  have kind : m.kind = .field ∧ m.ty.isAggregate = true := by
    rw [Schema.translates, Bool.and_eq_true, Bool.and_eq_true, beq_iff_eq] at translated
    exact translated.1
  have onward : y.KeepsFrom (root.index + 1) u :=
    ((keepsFrom_refl _ y).changeArena (.inl (Nat.lt_succ_self _))
      (Arena.bind_changesAt _ _ _ _)).trans exposed.onward
  refine exposed.cons backed grown (.translated kind.1 kind.2 ?_) ?_
    (.call (quiet_refl root x) answered onward (exposed.calls.after (quiet_bind root y m.name v)))
    ?_
  · exact List.find?_cons_of_pos (beq_self_eq_true m.name)
  · intro m' z other exposes
    cases exposes with
    | direct behind cell => exact .direct behind cell
    | translated field nested answer =>
        refine .translated field nested ?_
        rw [List.find?_cons_of_neg (by simpa using Ne.symm other)]
        exact answer
  · rw [List.filter_cons_of_pos translated, List.map_cons, exposed.asked]

/-- With a translator that serves them, all members are exposed. -/
theorem exposeMembers_exposes {members : List Member}
    (serves : embedding.Serves translator w schema host parent root members)
    (other : root ≠ SpaceId.empty) (exposing : w.Exposing schema host parent root x)
    (live : x.arena.space? root = some s) :
    ∃ u t log, exposeMembers embedding schema translator host root members x = (.ok (), u) ∧
      Exposed embedding schema translator host parent root w x u members s t log := by
  induction members generalizing x s with
  | nil => exact ⟨x, s, [], rfl, exposed_nil exposing live⟩
  | cons m rest ih =>
      have fewer : embedding.Serves translator w schema host parent root rest :=
        fun x exposing m among => serves x exposing m (List.mem_cons_of_mem _ among)
      rw [exposeMembers, bind_apply]
      have cases := exposedMember_cases embedding schema translator host root m x
      rw [exposing.fields.backs, exposing.fields.translates, exposing.fields.payload] at cases
      rcases cases with ⟨unbacked, untranslated, left⟩ |
        ⟨backed, untranslated, b, behind, made⟩ | ⟨backed, translated, asked⟩
      · rw [left]
        obtain ⟨u, t, log, done, exposed⟩ := ih fewer exposing live
        exact ⟨u, t, log, done, exposed.skip unbacked untranslated⟩
      · rw [made]
        have grown : w.Exposing schema host parent root
            (x.addCell { ty := m.ty, mutable := true, backing := b }).2 :=
          exposing.keep ((Arena.restores_refl x.arena).buildsBelow root)
            (allocates_addCell x _).keeps fun _ _ _ => rfl
        obtain ⟨u, t, log, done, exposed⟩ := ih fewer (grown.bind m.name ⟨x.cells.size⟩)
          (Arena.space?_bind live other m.name ⟨x.cells.size⟩)
        exact ⟨u, t, log, done, exposed.direct backed untranslated behind⟩
      · obtain ⟨v, y, answered, built, kept, fields⟩ :=
          serves x exposing m List.mem_cons_self translated
        rw [asked, map_apply, answered]
        have still : y.arena.space? root = some s :=
          (built.kept root (Arena.allocated_of_space? x.arena live)).trans live
        obtain ⟨u, t, log, done, exposed⟩ :=
          ih fewer ((exposing.keep built kept fields).bind m.name v)
            (Arena.space?_bind still other m.name v)
        exact ⟨u, t, (m, v) :: log, done,
          exposed.translated backed translated kept answered⟩

/-- In `u` the aggregate `v` stands for the host object: it lives in a new space `space` below
`parent`, which binds the aggregate itself and, under each other name, what exposes the first backed
member of that name. The translator was called for the fields in the log, nothing that was in `w` has
changed, and all new spaces lie below `parent`. -/
structure Represents (embedding : Embedding E) (schema : Schema E) (translator : TranslatorId)
    (host : HostId) (parent : SpaceId) (w u : World E) (ty : Ty) (members : List Member) (v : Value)
    (space : SpaceId) (s : Space) (log : List (Member × Value)) : Prop where
  cell : u.cell v = { ty, mutable := true, backing := .aggregate (.host host) space }
  fresh : w.cells.size ≤ v.index ∧ w.arena.slots.size ≤ space.index
  live : u.arena.space? space = some s
  hangs : s.parent = some parent
  itself : s.bindings.get? selfName = some v
  bound : ∀ name, name ≠ selfName →
    Option.Rel (u.Exposes schema host space translator log) (w.backed? schema host members name)
      (s.bindings.get? name)
  calls : ∃ x, newAggregate ty parent (.host host) w = (.ok (v, space), x) ∧
    Calls embedding translator (schema.fieldPayload host w.outside) space x log u
  asked : log.map Prod.fst = members.filter (schema.translates host w.outside)
  built : w.arena.BuildsBelow parent u.arena
  keeps : w.Keeps u

/-- Below a parent that is there and has room, and with a translator that serves the fields of the
host object and only adds to the world, exposing the host object succeeds, and the result represents
it. -/
theorem encapsulate_represents {ty : Ty} {definition : AggregateType} {above : Space}
    (sound : w.arena.Sound) (known : ty.aggregate? = some definition)
    (upper : w.arena.space? parent = some above) (room : above.depth + 1 ≤ w.arena.maxDepth)
    (serves : embedding.Serves translator w schema host parent ⟨w.arena.slots.size⟩
      definition.members) :
    ∃ v u s log, encapsulate embedding host ty schema translator parent w = (.ok v, u) ∧
      Represents embedding schema translator host parent w u ty definition.members v
        ⟨w.arena.slots.size⟩ s log := by
  have there : w.arena.Allocated SpaceId.empty :=
    Arena.allocated_of_space? w.arena sound.emptySpace
  have other : (⟨w.arena.slots.size⟩ : SpaceId) ≠ SpaceId.empty :=
    Arena.ne_empty_of_new there (Nat.le_refl _)
  rcases newAggregate_cases ty parent (.host host) sound with
    ⟨fault, full, _⟩ | ⟨v, x, made, site, _⟩
  · simp only [Arena.newSpace, upper, if_pos room] at full
    cases full
  · have opened := newAggregate_opens made
    obtain ⟨_, _, live⟩ := opened.live there
    have exposing : w.Exposing schema host parent ⟨w.arena.slots.size⟩ x :=
      ⟨site, opened.extended.toKeepsFrom, fun _ _ _ => by rw [opened.extended.outside]⟩
    obtain ⟨u, t, log, done, exposed⟩ := exposeMembers_exposes serves other exposing live
    have present : v.index < x.cells.size :=
      present_of_mutable (congrArg Cell.mutable opened.cell)
    refine ⟨v, u, t, log, ?_,
      { cell := (exposed.onward.cell present).trans opened.cell
        fresh := ⟨by rw [opened.value], Nat.le_refl _⟩
        live := exposed.live
        hangs := congrArg Prod.fst exposed.place
        itself := exposed.kept selfName v (Table.get?_insert_self _ _ _)
        bound := fun name apart => exposed.bound name (Table.get?_insert_other _ _ apart)
        calls := ⟨x, made, exposed.calls⟩
        asked := exposed.asked
        built := exposed.exposing.site.finish ⟨above, upper⟩
        keeps := exposed.exposing.keeps }⟩
    rw [encapsulate_aggregate embedding host known, made]
    dsimp only
    rw [done]

end Exposing

theorem serves_wrapping {w : World Unit} {parent root : SpaceId} {above : Space}
    (upper : w.arena.space? parent = some above) (room : above.depth + 2 ≤ w.arena.maxDepth)
    (translator : TranslatorId) (schema : Schema Unit) (host : HostId) (members : List Member) :
    wrapping.Serves translator w schema host parent root members := by
  intro x exposing m _ _
  have sound := exposing.site.sound
  generalize schema.fieldPayload host w.outside m = p
  obtain ⟨t, live, depth⟩ := exposing.site.depth upper
  have limit := (Arena.grows_of_evolves exposing.site.building.evolves).maxDepth
  have built := (newAggregate_allOrNothing (.aggregate "Door" [] false) root p).buildsBelow sound
  rcases newAggregate_cases (.aggregate "Door" [] false) root p sound with
    ⟨fault, full, _⟩ | ⟨v, y, made, _⟩
  · have fits : t.depth + 1 ≤ x.arena.maxDepth := by omega
    simp only [Arena.newSpace, live, if_pos fits] at full
    cases full
  · have answered : wrapping.translate translator p root x = (.ok v, y) := by
      simp only [wrapping, map_apply, made]
    rw [made] at built
    exact ⟨v, y, answered, built, (newAggregate_opens made).extended.toKeepsFrom,
      fun _ _ _ => rfl⟩

def shelfTy : Ty :=
  .aggregate "Shelf"
    [⟨"lost", .int, .field⟩, ⟨"door", .aggregate "Door" [] false, .field⟩,
      ⟨"door", .int, .property⟩, ⟨"width", .int, .property⟩] false

def shelfFields : Schema Unit where
  field? name := if name = "lost" then none else unitFields.field? name
  property? := unitFields.field?

/-- The door is what the field was translated into and not the property, and the lost member is
left out. -/
theorem encapsulate_represents_shelf :
    ∃ v u s door, encapsulate wrapping ⟨0⟩ shelfTy shelfFields ⟨0⟩ ⟨1⟩ openRoot = (.ok v, u) ∧
      u.arena.space? ⟨2⟩ = some s ∧ s.bindings.get? selfName = some v ∧
      s.bindings.get? "lost" = none ∧ s.bindings.get? "door" = some door ∧
      ∃ x, Calls wrapping ⟨0⟩ (shelfFields.fieldPayload ⟨0⟩ ()) ⟨2⟩ x
        [(⟨"door", .aggregate "Door" [] false, .field⟩, door)] u := by
  have upper : openRoot.arena.space? ⟨1⟩ = some ⟨Table.empty, none, 0⟩ := rfl
  have known : shelfTy.aggregate? = some ⟨"Shelf", _, false⟩ := rfl
  obtain ⟨v, u, s, log, done, shelf⟩ := encapsulate_represents sound_openRoot known upper
    (by decide) (serves_wrapping upper (by decide) ⟨0⟩ shelfFields ⟨0⟩ _)
  have asked : log.map Prod.fst = [⟨"door", .aggregate "Door" [] false, .field⟩] := shelf.asked
  obtain ⟨⟨m, door⟩, rfl, rfl⟩ := List.map_eq_singleton_iff.mp asked
  obtain ⟨x, _, calls⟩ := shelf.calls
  have lost : Option.Rel _ none (s.bindings.get? "lost") := shelf.bound "lost" (by decide)
  have named : Option.Rel _ (some _) (s.bindings.get? "door") := shelf.bound "door" (by decide)
  refine ⟨v, u, s, door, done, shelf.live, shelf.itself, ?_, ?_, x, calls⟩
  · generalize s.bindings.get? "lost" = bound at lost ⊢
    cases lost
    rfl
  · generalize s.bindings.get? "door" = bound at named ⊢
    cases named with
    | @some _ x exposes =>
        cases exposes with
        | direct behind =>
            cases behind with
            | field kind plain => cases plain
            | property kind | aggregateProperty kind => cases kind
        | translated _ _ answer =>
            cases answer
            rfl

end World

end ScriptValues
