import ScriptValues.Proofs.Creation.Opening
import ScriptValues.Proofs.Failure.Default
import ScriptValues.Proofs.Failure.Write
import ScriptValues.Proofs.Scope.Run
import ScriptValues.Proofs.World.Lasting

/-! What a default consists of.

The default of an aggregate is a tree: each member is bound to a default of its own, whose space
hangs below that of the aggregate. Each aggregate in the tree gets one space, and all that was there
before stays as it was. -/

namespace ScriptValues

open World Step

variable {E : Type}

def Ty.family : Ty → Family
  | .noType => .absent
  | .scalar _ => .basic
  | .aggregate _ _ _ => .aggregate
  | .list _ => .list
  | .set _ => .set
  | .map _ _ => .map
  | .function _ _ => .function
  | .enum _ => .enum
  | .prototype _ => .prototype

mutual

def Ty.aggregates : Ty → Nat
  | .aggregate _ members adapted => if adapted then 1 else memberAggregates members + 1
  | _ => 0

def memberAggregates : List Member → Nat
  | [] => 0
  | ⟨_, ty, _⟩ :: rest => ty.aggregates + memberAggregates rest

end

namespace Arena

variable {a : Arena} {parent : SpaceId}

def refusal (a : Arena) (parent : SpaceId) : Fault :=
  if a.contains parent then .scopeDepthExceeded (a.maxDepth + 1) a.maxDepth else .unknownSpace

theorem refusal_of_live {s : Space} (live : a.space? parent = some s) :
    a.refusal parent = .scopeDepthExceeded (a.maxDepth + 1) a.maxDepth :=
  if_pos ((contains_iff a parent).mpr ⟨s, live⟩)

theorem refusal_of_dead (dead : a.space? parent = none) : a.refusal parent = .unknownSpace := by
  have gone : a.contains parent = false := (contains_eq_false_iff a parent).mpr dead
  rw [refusal, gone]
  rfl

theorem refusal_of_newSpace (sound : a.Sound) {fault : Fault}
    (refused : a.newSpace (some parent) = .error fault) : fault = a.refusal parent := by
  cases live : a.space? parent with
  | none =>
      rw [refusal_of_dead live]
      simp only [newSpace, live] at refused
      cases refused
      rfl
  | some s =>
      rw [refusal_of_live live]
      have exceeded := refused
      simp only [newSpace, live] at exceeded
      split at exceeded
      · cases exceeded
      · cases exceeded
        obtain ⟨depth, _⟩ := sound.scopeDepthExceeded refused
        rw [depth]

end Arena

namespace World

variable {floor : Nat} {w x u : World E} {ty : Ty} {parent root : SpaceId} {v : Value}
  {b : Backing E}

/-- What stands behind a default other than an aggregate in `u`. What it refers to is new since
`w`. -/
def Blank (w u : World E) : Ty → Backing E → Prop
  | .noType, _ | .aggregate _ _ _, _ => False
  | .scalar .bool, b => b = .basic .null
  | .scalar .int, b => b = .basic (.int 0)
  | .scalar .float, b => b = .basic (.float ⟨0⟩)
  | .scalar .string, b => b = .basic (.string "")
  | .scalar .graph, b =>
      ∃ identity, b = .basic (.graph ⟨identity, [], []⟩) ∧ w.nextIdentity ≤ identity
  | .list element, b =>
      ∃ l, b = .list l ∧ (w.lists.size ≤ l.index ∧ l.index < u.lists.size) ∧
        u.list l = ⟨element, []⟩
  | .set element, b =>
      ∃ s, b = .set s ∧ (w.sets.size ≤ s.index ∧ s.index < u.sets.size) ∧
        u.set s = ⟨element, [], []⟩
  | .map key element, b =>
      ∃ m, b = .map m ∧ (w.maps.size ≤ m.index ∧ m.index < u.maps.size) ∧
        u.map m = ⟨key, element, [], []⟩
  | .function _ _, b => b = .function none
  | .enum _, b => b = .enum none
  | .prototype kind, b =>
      ∃ id, b = .prototype ⟨id, .prototype kind, none⟩ ∧
        (w.templates.size ≤ id.index ∧ id.index < u.templates.size) ∧ u.template id = Table.empty

theorem Blank.family (blank : w.Blank u ty b) : b.family = ty.family := by
  cases ty with
  | noType | aggregate => exact blank.elim
  | scalar s =>
      cases s with
      | graph =>
          obtain ⟨_, rfl, _⟩ := blank
          rfl
      | _ =>
          cases blank
          rfl
  | list | set | map | prototype =>
      obtain ⟨_, rfl, _⟩ := blank
      rfl
  | function | enum =>
      cases blank
      rfl

theorem Blank.keep (blank : w.Blank x ty b) (extended : x.ExtendsFrom floor u) :
    w.Blank u ty b := by
  cases ty with
  | list element =>
      obtain ⟨l, held, ⟨new, there⟩, box⟩ := blank
      exact ⟨l, held, ⟨new, Nat.lt_of_lt_of_le there extended.lists.size⟩,
        (extended.list there).trans box⟩
  | set element =>
      obtain ⟨s, held, ⟨new, there⟩, box⟩ := blank
      exact ⟨s, held, ⟨new, Nat.lt_of_lt_of_le there extended.sets.size⟩,
        (extended.set there).trans box⟩
  | map key element =>
      obtain ⟨m, held, ⟨new, there⟩, box⟩ := blank
      exact ⟨m, held, ⟨new, Nat.lt_of_lt_of_le there extended.maps.size⟩,
        (extended.map there).trans box⟩
  | prototype kind =>
      obtain ⟨id, held, ⟨new, there⟩, defaults⟩ := blank
      have same : u.template id = x.template id :=
        extended.templates.read (Nat.zero_le _) there
      exact ⟨id, held, ⟨new, Nat.lt_of_lt_of_le there extended.templates.size⟩, same.trans defaults⟩
  | scalar s => cases s <;> exact blank
  | _ => exact blank

theorem Blank.since (blank : x.Blank u ty b) (extended : w.ExtendsFrom floor x) :
    w.Blank u ty b := by
  cases ty with
  | list element =>
      obtain ⟨l, held, ⟨new, there⟩, box⟩ := blank
      exact ⟨l, held, ⟨Nat.le_trans extended.lists.size new, there⟩, box⟩
  | set element =>
      obtain ⟨s, held, ⟨new, there⟩, box⟩ := blank
      exact ⟨s, held, ⟨Nat.le_trans extended.sets.size new, there⟩, box⟩
  | map key element =>
      obtain ⟨m, held, ⟨new, there⟩, box⟩ := blank
      exact ⟨m, held, ⟨Nat.le_trans extended.maps.size new, there⟩, box⟩
  | prototype kind =>
      obtain ⟨id, held, ⟨new, there⟩, defaults⟩ := blank
      exact ⟨id, held, ⟨Nat.le_trans extended.templates.size new, there⟩, defaults⟩
  | scalar s =>
      cases s with
      | graph =>
          obtain ⟨identity, held, new⟩ := blank
          exact ⟨identity, held, Nat.le_trans extended.identities new⟩
      | _ => exact blank
  | _ => exact blank

/-- In `u`, `v` is a default of the type, made since `w`. An aggregate lives in a space of its own
below `parent`, which binds the aggregate itself and, unless it is adapted, under each other name
that a member has a default of the first of these members. No two names stand for one value. -/
inductive IsDefault (w u : World E) : Ty → SpaceId → Value → Prop
  | absent {parent : SpaceId} : IsDefault w u .noType parent .none
  | blank {ty : Ty} {parent : SpaceId} {v : Value} {b : Backing E} (new : w.cells.size ≤ v.index)
      (cell : u.cell v = { ty, mutable := true, backing := b }) (blank : w.Blank u ty b) :
      IsDefault w u ty parent v
  | aggregate {name : String} {members : List Member} {adapted : Bool} {parent space : SpaceId}
      {v : Value} {s : Space} (new : w.cells.size ≤ v.index)
      (cell : u.cell v =
        { ty := .aggregate name members adapted, mutable := true, backing := .aggregate .null space })
      (fresh : w.arena.slots.size ≤ space.index) (live : u.arena.space? space = some s)
      (hangs : s.parent = some parent) (itself : s.bindings.get? selfName = some v)
      (bound : ∀ n, n ≠ selfName → ((s.bindings.get? n).isSome = true ↔
        adapted = false ∧ (members.find? (·.name == n)).isSome = true))
      (default : ∀ n m x, n ≠ selfName → members.find? (·.name == n) = some m →
        s.bindings.get? n = some x → IsDefault w u m.ty space x)
      (apart : ∀ m n x, s.bindings.get? m = some x → s.bindings.get? n = some x →
        x = .none ∨ m = n) :
      IsDefault w u (.aggregate name members adapted) parent v

namespace IsDefault

theorem keep (made : w.IsDefault x ty parent v) (extended : x.ExtendsFrom w.arena.slots.size u) :
    w.IsDefault u ty parent v := by
  have cells : ∀ {v : Value} {ty : Ty} {b : Backing E},
      x.cell v = { ty, mutable := true, backing := b } → u.cell v = x.cell v :=
    fun held => extended.cell (present_of_mutable (congrArg Cell.mutable held))
  induction made with
  | absent => exact .absent
  | blank new cell blank => exact .blank new ((cells cell).trans cell) (blank.keep extended)
  | aggregate new cell fresh live hangs itself bound _ apart ih =>
      have still := extended.space? fresh (Arena.allocated_of_space? x.arena live)
      exact .aggregate new ((cells cell).trans cell) fresh (still.trans live) hangs itself bound ih
        apart

theorem since (made : x.IsDefault u ty parent v) (extended : w.ExtendsFrom floor x) :
    w.IsDefault u ty parent v := by
  induction made with
  | absent => exact .absent
  | blank new cell blank =>
      exact .blank (Nat.le_trans extended.cells.size new) cell (blank.since extended)
  | aggregate new cell fresh live hangs itself bound _ apart ih =>
      exact .aggregate (Nat.le_trans extended.cells.size new) cell
        (Nat.le_trans extended.slots.size fresh) live hangs itself bound ih apart

theorem new (made : w.IsDefault u ty parent v) :
    v = .none ∨ (w.cells.size ≤ v.index ∧ v.index < u.cells.size) := by
  cases made with
  | absent => exact .inl rfl
  | blank new cell | aggregate new cell =>
      exact .inr ⟨new, present_of_mutable (congrArg Cell.mutable cell)⟩

theorem ty_family (made : w.IsDefault u ty parent v) (untyped : u.ty .none = .noType)
    (absent : u.family .none = .absent) : u.ty v = ty ∧ u.family v = ty.family := by
  cases made with
  | absent => exact ⟨untyped, absent⟩
  | blank new cell blank =>
      refine ⟨congrArg Cell.ty cell, ?_⟩
      rw [family, backing, cell]
      exact blank.family
  | aggregate new cell =>
      refine ⟨congrArg Cell.ty cell, ?_⟩
      rw [family, backing, cell]
      rfl

end IsDefault

structure Builds (w u : World E) (ty : Ty) (parent : SpaceId) (v : Value) : Prop where
  extended : w.ExtendsFrom 0 u
  tree : w.IsDefault u ty parent v
  slots : u.arena.slots.size = w.arena.slots.size + ty.aggregates
  count : u.arena.size = w.arena.size + ty.aggregates

theorem builds_addCell (extended : w.ExtendsFrom 0 x) (still : x.arena = w.arena)
    (blank : w.Blank x ty b) (parent : SpaceId) :
    w.Builds (x.addCell { ty, mutable := true, backing := b }).2 ty parent
      (x.addCell { ty, mutable := true, backing := b }).1 := by
  have further : x.ExtendsFrom 0 (x.addCell { ty, mutable := true, backing := b }).2 :=
    (allocates_addCell x _).extendsFrom
  have none : ty.aggregates = 0 := by
    cases ty with
    | aggregate => exact blank.elim
    | _ => rfl
  refine ⟨extended.trans further,
    .blank extended.cells.size (Heap.read_push_self _ _) (blank.keep further), ?_, ?_⟩
  · rw [none]
    exact congrArg (fun a : Arena => a.slots.size) still
  · rw [none]
    exact congrArg Arena.size still

/-- Defaults of the members were bound in the space `s`, which has become `t`. Names that were bound
before have stayed. -/
structure Fills (w u : World E) (root : SpaceId) (members : List Member) (s t : Space) : Prop where
  extended : ∀ {floor : Nat} {base : World E},
    root.index < floor ∨ base.arena.slots.size ≤ root.index →
      base.ExtendsFrom floor w → base.ExtendsFrom floor u
  live : u.arena.space? root = some t
  place : t.place = s.place
  kept : ∀ n x, s.bindings.get? n = some x → t.bindings.get? n = some x
  bound : ∀ n, s.bindings.get? n = none →
    ((t.bindings.get? n).isSome = true ↔ (members.find? (·.name == n)).isSome = true)
  tree : ∀ n m x, s.bindings.get? n = none → members.find? (·.name == n) = some m →
    t.bindings.get? n = some x → w.IsDefault u m.ty root x
  apart : ∀ m n x, s.bindings.get? m = none → s.bindings.get? n = none →
    t.bindings.get? m = some x → t.bindings.get? n = some x → x = .none ∨ m = n
  slots : u.arena.slots.size = w.arena.slots.size + memberAggregates members
  count : u.arena.size = w.arena.size + memberAggregates members

theorem fills_nil {s : Space} (live : w.arena.space? root = some s) : w.Fills w root [] s s where
  extended _ known := known
  live := live
  place := rfl
  kept _ _ bound := bound
  bound n free := by
    rw [free]
    exact iff_of_false nofun nofun
  tree _ _ _ _ declared := by cases declared
  apart m n x free _ bound := by
    rw [free] at bound
    cases bound
  slots := rfl
  count := rfl

/-- After one more member at the front. Its default is bound unless the name is bound already, and
is not touched by what follows. -/
theorem Fills.cons {name : String} {kind : MemberKind} {rest : List Member} {s t : Space}
    (built : w.Builds x ty root v) (there : w.arena.Allocated root)
    (filled : (x.withArena (x.arena.bind root name v).2).Fills u root rest (s.put name v) t) :
    w.Fills u root (⟨name, ty, kind⟩ :: rest) s t := by
  have grown : w.ExtendsFrom (root.index + 1) (x.withArena (x.arena.bind root name v).2) :=
    (built.extended.mono (Nat.zero_le _)).bind (.inl (Nat.lt_succ_self _)) name v
  have onward : x.ExtendsFrom w.arena.slots.size u :=
    filled.extended (.inl there) ((extendsFrom_refl _ x).bind (.inl there) name v)
  have first : (⟨name, ty, kind⟩ :: rest : List Member).find? (·.name == name) =
      some ⟨name, ty, kind⟩ := List.find?_cons_of_pos (beq_self_eq_true name)
  have later {n : String} (other : n ≠ name) :
      (⟨name, ty, kind⟩ :: rest : List Member).find? (·.name == n) = rest.find? (·.name == n) :=
    List.find?_cons_of_neg (by simpa using other.symm)
  have front (free : s.bindings.get? name = none) : t.bindings.get? name = some v :=
    filled.kept name v (Space.get?_put_self free v)
  have behind {n : String} (other : n ≠ name) (free : s.bindings.get? n = none) :
      (s.put name v).bindings.get? n = none := (Space.get?_put_other other v).trans free
  -- What is bound later was made later, so it is no value that was there already.
  have once {n : String} (other : n ≠ name) (free : s.bindings.get? n = none)
      (again : t.bindings.get? n = some v) : v = .none := by
    have declared := (filled.bound n (behind other free)).mp (by rw [again]; rfl)
    obtain ⟨m, declared⟩ := Option.isSome_iff_exists.mp declared
    rcases (filled.tree n m v (behind other free) declared again).new with none | ⟨new, _⟩
    · exact none
    · rcases built.tree.new with none | ⟨_, old⟩
      · exact none
      · exact absurd old (Nat.not_lt_of_le new)
  refine
    { extended := fun apart known => filled.extended apart
        ((known.trans (built.extended.mono (Nat.zero_le _))).bind apart name v)
      live := filled.live
      place := filled.place.trans (Space.place_put s name v)
      kept := fun n y bound => filled.kept n y (Space.get?_put_of_bound bound name v)
      bound := fun n free => ?_
      tree := fun n m y free declared bound => ?_
      apart := fun m n y free free' bound bound' => ?_
      slots := ?_
      count := ?_ }
  · by_cases same : n = name
    · subst same
      rw [front free, first]
      exact iff_of_true rfl rfl
    · rw [later same]
      exact filled.bound n (behind same free)
  · by_cases same : n = name
    · subst same
      rw [first] at declared
      rw [front free] at bound
      cases declared
      cases bound
      exact built.tree.keep onward
    · rw [later same] at declared
      exact (filled.tree n m y (behind same free) declared bound).since grown
  · by_cases here : m = name
    · subst here
      rw [front free] at bound
      cases bound
      by_cases same : n = m
      · exact .inr same.symm
      · exact .inl (once same free' bound')
    · by_cases same : n = name
      · subst same
        rw [front free'] at bound'
        cases bound'
        exact .inl (once here free bound)
      · exact filled.apart m n y (behind here free) (behind same free') bound bound'
  · rw [filled.slots, memberAggregates, ← Nat.add_assoc, ← built.slots]
    exact congrArg (· + _) (Arena.bind_changesAt x.arena root name v).size
  · rw [filled.count, memberAggregates, ← Nat.add_assoc, ← built.count]
    exact congrArg (· + _) (Arena.size_bind x.arena root name v)

theorem Fills.finish {name : String} {members : List Member} {adapted : Bool} {above t : Space}
    (opened : w.Opens x (.aggregate name members adapted) parent .null v root)
    (filled : x.Fills u root (if adapted then [] else members)
      ⟨Table.empty.insert selfName v, some parent, above.depth + 1⟩ t) :
    w.Builds u (.aggregate name members adapted) parent v := by
  have new : w.arena.slots.size ≤ root.index := by rw [opened.place]
  have onward : x.ExtendsFrom (root.index + 1) u :=
    filled.extended (.inl (Nat.lt_succ_self _)) (extendsFrom_refl _ x)
  have cell := (onward.cell (present_of_mutable (congrArg Cell.mutable opened.cell))).trans
    opened.cell
  have itself : t.bindings.get? selfName = some v :=
    filled.kept selfName v (Table.get?_insert_self _ _ _)
  have free {n : String} (other : n ≠ selfName) :
      (Table.empty.insert selfName v).get? n = none :=
    Table.get?_insert_other _ _ other
  -- What is bound under another name was made after the aggregate.
  have once {n : String} (other : n ≠ selfName) (again : t.bindings.get? n = some v) :
      v = .none := by
    have declared := (filled.bound n (free other)).mp (by rw [again]; rfl)
    obtain ⟨m, declared⟩ := Option.isSome_iff_exists.mp declared
    rcases (filled.tree n m v (free other) declared again).new with none | ⟨later, _⟩
    · exact none
    · rw [opened.cells, opened.value] at later
      exact absurd later (Nat.not_succ_le_self _)
  have bound : ∀ n, n ≠ selfName → ((t.bindings.get? n).isSome = true ↔
      adapted = false ∧ (members.find? (·.name == n)).isSome = true) := by
    intro n other
    rw [filled.bound n (free other)]
    cases adapted with
    | true => exact iff_of_false nofun nofun
    | false => exact (and_iff_right rfl).symm
  have count : memberAggregates (if adapted then [] else members) + 1 =
      (Ty.aggregate name members adapted).aggregates := by
    rw [Ty.aggregates]
    cases adapted with
    | true => rfl
    | false => rfl
  refine ⟨filled.extended (.inr new) opened.extended,
    .aggregate (by rw [opened.value]) cell new filled.live (congrArg Prod.fst filled.place) itself
      bound ?_ ?_, ?_, ?_⟩
  · intro n m y other declared named
    obtain ⟨whole, _⟩ := (bound n other).mp (by rw [named]; rfl)
    subst whole
    exact (filled.tree n m y (free other) declared named).since opened.extended
  · intro m n y named named'
    by_cases here : m = selfName
    · subst here
      rw [itself] at named
      cases named
      by_cases same : n = selfName
      · exact .inr same.symm
      · exact .inl (once same named')
    · by_cases same : n = selfName
      · subst same
        rw [itself] at named'
        cases named'
        exact .inl (once here named)
      · exact filled.apart m n y (free here) (free same) named named'
  · rw [filled.slots, opened.slots, ← count]
    omega
  · rw [filled.count, opened.count, ← count]
    omega

theorem new_push {α : Type} (h : Heap α) (a : α) : h.size ≤ h.size ∧ h.size < (h.push a).size := by
  rw [Heap.size_push]
  exact ⟨Nat.le_refl _, Nat.lt_succ_self _⟩

theorem extendsFrom_freshIdentity (w : World E) : w.ExtendsFrom 0 w.freshIdentity.2 :=
  { extendsFrom_refl 0 w with identities := Nat.le_succ _ }

theorem extendsFrom_addTemplate (w : World E) : w.ExtendsFrom 0 w.addTemplate.2 :=
  { extendsFrom_refl 0 w with templates := (Heap.keepsFrom_refl 0 _).push _ }

theorem defaultFor_builds_blank (simple : ty.isAggregate = false)
    (done : defaultFor ty parent w = (.ok v, u)) : w.Builds u ty parent v := by
  cases ty with
  | noType =>
      rw [defaultFor] at done
      cases done
      exact ⟨extendsFrom_refl 0 w, .absent, rfl, rfl⟩
  | aggregate => cases simple
  | scalar s =>
      have identity := extendsFrom_freshIdentity w
      have graph : w.Blank w.freshIdentity.2 .graph (.basic (.graph ⟨w.nextIdentity, [], []⟩)) :=
        ⟨_, rfl, Nat.le_refl _⟩
      have scalar {s : Scalar} {p : Payload} (blank : w.Blank w (.scalar s) (.basic p)) :=
        builds_addCell (extendsFrom_refl 0 w) rfl blank parent
      rw [defaultFor] at done
      cases s with
      | graph =>
          cases done
          exact builds_addCell identity rfl graph parent
      | _ =>
          cases done
          exact scalar rfl
  | list element =>
      have made : w.Blank (w.addList ⟨element, []⟩).2 (.list element) (.list ⟨w.lists.size⟩) :=
        ⟨_, rfl, new_push w.lists _, Heap.read_push_self _ _⟩
      rw [defaultFor] at done
      cases done
      exact builds_addCell (allocates_addList w _).extendsFrom rfl made parent
  | set element =>
      have made : w.Blank (w.addSet ⟨element, [], []⟩).2 (.set element) (.set ⟨w.sets.size⟩) :=
        ⟨_, rfl, new_push w.sets _, Heap.read_push_self _ _⟩
      rw [defaultFor] at done
      cases done
      exact builds_addCell (allocates_addSet w _).extendsFrom rfl made parent
  | map key element =>
      have made : w.Blank (w.addMap ⟨key, element, [], []⟩).2 (.map key element)
          (.map ⟨w.maps.size⟩) :=
        ⟨_, rfl, new_push w.maps _, Heap.read_push_self _ _⟩
      rw [defaultFor] at done
      cases done
      exact builds_addCell (allocates_addMap w _).extendsFrom rfl made parent
  | function parameters result =>
      have made : w.Blank w (.function parameters result) (.function none) := rfl
      rw [defaultFor] at done
      cases done
      exact builds_addCell (extendsFrom_refl 0 w) rfl made parent
  | enum definition =>
      have made : w.Blank w (.enum definition) (.enum none) := rfl
      rw [defaultFor] at done
      cases done
      exact builds_addCell (extendsFrom_refl 0 w) rfl made parent
  | prototype kind =>
      have made : w.Blank w.addTemplate.2 (.prototype kind)
          (.prototype ⟨⟨w.templates.size⟩, .prototype kind, none⟩) :=
        ⟨_, rfl, new_push w.templates _, Heap.read_push_self _ _⟩
      rw [defaultFor] at done
      cases done
      exact builds_addCell (extendsFrom_addTemplate w) rfl made parent

mutual

/-- A default that succeeds is one. -/
theorem defaultFor_builds (ty : Ty) (parent : SpaceId) {w u : World E} {v : Value}
    (there : w.arena.Allocated SpaceId.empty) (done : defaultFor ty parent w = (.ok v, u)) :
    w.Builds u ty parent v := by
  cases ty with
  | aggregate name members adapted =>
      cases adapted with
      | true =>
          rw [defaultFor_adapted, map_apply] at done
          rcases made : newAggregate (.aggregate name members true) parent .null w with
            ⟨_ | ⟨c, space⟩, x⟩
          · rw [made] at done
            cases done
          · rw [made] at done
            cases done
            have opened := newAggregate_opens made
            obtain ⟨above, _, live⟩ := opened.live there
            exact (fills_nil live).finish opened
      | false =>
          rw [defaultFor_aggregate] at done
          rcases made : newAggregate (.aggregate name members false) parent .null w with
            ⟨_ | ⟨c, space⟩, x⟩
          · rw [made] at done
            cases done
          · rw [made] at done
            have opened := newAggregate_opens made
            obtain ⟨above, _, live⟩ := opened.live there
            have first : x.arena.Allocated SpaceId.empty :=
              Nat.lt_of_lt_of_le there opened.extended.slots.size
            have other : space ≠ SpaceId.empty := by
              rw [opened.place]
              exact Arena.ne_empty_of_new there (Nat.le_refl _)
            dsimp only at done
            rcases filled : bindDefaults members space x with ⟨_ | _, y⟩
            · rw [filled] at done
              cases done
            · rw [filled] at done
              cases done
              obtain ⟨t, filled⟩ := bindDefaults_fills members first other live filled
              exact filled.finish opened
  | _ => exact defaultFor_builds_blank rfl done

theorem bindDefaults_fills (members : List Member) {root : SpaceId} {w u : World E} {s : Space}
    (there : w.arena.Allocated SpaceId.empty) (other : root ≠ SpaceId.empty)
    (live : w.arena.space? root = some s)
    (done : bindDefaults members root w = (.ok (), u)) : ∃ t, w.Fills u root members s t := by
  cases members with
  | nil =>
      rw [bindDefaults] at done
      cases done
      exact ⟨s, fills_nil live⟩
  | cons member rest =>
      obtain ⟨name, ty, kind⟩ := member
      rw [bindDefaults, bind_apply] at done
      rcases made : defaultFor ty root w with ⟨_ | v, x⟩
      · rw [made] at done
        cases done
      · rw [made] at done
        have built := defaultFor_builds ty root there made
        have here : w.arena.Allocated root := Arena.allocated_of_space? w.arena live
        have still : x.arena.space? root = some s :=
          (built.extended.space? (Nat.zero_le _) here).trans live
        have grown : w.ExtendsFrom (root.index + 1) (x.withArena (x.arena.bind root name v).2) :=
          (built.extended.mono (Nat.zero_le _)).bind (.inl (Nat.lt_succ_self _)) name v
        have first : (x.withArena (x.arena.bind root name v).2).arena.Allocated SpaceId.empty :=
          Nat.lt_of_lt_of_le there grown.slots.size
        obtain ⟨t, filled⟩ := bindDefaults_fills rest first other
          (Arena.space?_bind still other name v) done
        exact ⟨t, filled.cons built here⟩

end

/-! Why a default cannot be made -/

mutual

theorem defaultFor_refusal (ty : Ty) (parent : SpaceId) {w u : World E} {fault : Fault}
    (sound : w.arena.Sound) (failed : defaultFor ty parent w = (.error fault, u)) :
    fault = w.arena.refusal parent := by
  cases ty with
  | aggregate name members adapted =>
      cases adapted with
      | true =>
          rw [defaultFor_adapted, map_apply] at failed
          rcases newAggregate_cases (.aggregate name members true) parent .null sound with
            ⟨_, full, refused⟩ | ⟨_, _, made, _⟩
          · rw [refused] at failed
            cases failed
            exact Arena.refusal_of_newSpace sound full
          · rw [made] at failed
            cases failed
      | false =>
          rw [defaultFor_aggregate] at failed
          rcases newAggregate_cases (.aggregate name members false) parent .null sound with
            ⟨_, full, refused⟩ | ⟨_, x, made, site, above, upper⟩
          · rw [refused] at failed
            cases failed
            exact Arena.refusal_of_newSpace sound full
          · rw [made] at failed
            obtain ⟨s, live, _⟩ := site.building.hangs
            have limit : x.arena.maxDepth = w.arena.maxDepth :=
              (newAggregate_opens made).extended.maxDepth
            dsimp only at failed
            rcases unfinished : bindDefaults members ⟨w.arena.slots.size⟩ x with ⟨_ | _, y⟩
            · rw [unfinished] at failed
              cases failed
              rw [bindDefaults_refusal members site.sound live unfinished,
                Arena.refusal_of_live live, Arena.refusal_of_live upper, limit]
            · rw [unfinished] at failed
              cases failed
  | _ =>
      rw [defaultFor] at failed
      cases failed

theorem bindDefaults_refusal (members : List Member) {root : SpaceId} {w u : World E} {s : Space}
    {fault : Fault} (sound : w.arena.Sound) (live : w.arena.space? root = some s)
    (failed : bindDefaults members root w = (.error fault, u)) : fault = w.arena.refusal root := by
  cases members with
  | nil =>
      rw [bindDefaults] at failed
      cases failed
  | cons member rest =>
      obtain ⟨name, ty, kind⟩ := member
      have built := (defaultFor_allOrNothing ty root).buildsBelow sound
      rw [bindDefaults, bind_apply] at failed
      rcases made : defaultFor ty root w with ⟨_ | v, x⟩
      · rw [made] at failed
        cases failed
        exact defaultFor_refusal ty root sound made
      · rw [made] at failed built
        have still : x.arena.space? root = some s :=
          (built.kept root (Arena.allocated_of_space? w.arena live)).trans live
        have bound : x.arena.Rebinds root (x.arena.bind root name v).2 := .bind name v
        obtain ⟨t, now, _⟩ := bound.live still
        have limit : (x.arena.bind root name v).2.maxDepth = w.arena.maxDepth :=
          (Arena.grows_of_evolves (Arena.evolves_trans built.evolves
            (Arena.evolves_of_move (.bind root name v)))).maxDepth
        have later : fault = (x.arena.bind root name v).2.refusal root :=
          bindDefaults_refusal (w := x.withArena (x.arena.bind root name v).2) rest
            ((sound.evolve built.evolves).bind root name v) now failed
        rw [later, Arena.refusal_of_live now, Arena.refusal_of_live live, limit]

end

section Reached

variable {embedding : Embedding E} (kept : embedding.Within (Through Deed.any))

include kept

theorem sound_of_reached (reached : w.Reached embedding) : w.arena.Sound :=
  reached.sound (kept.follow tracks_scopesEvolve)

theorem none_of_reached (reached : w.Reached embedding) :
    Value.none.index < w.cells.size ∧ w.ty .none = .noType ∧ w.family .none = .absent := by
  obtain ⟨maxDepth, outside, operations, rfl⟩ := reached
  have lasts := (after_within tracks_lasts (kept.follow tracks_lasts) operations _
    (fitting_initial maxDepth outside)).2
  have first := lasts.cell .none Nat.zero_lt_two
  exact ⟨Nat.lt_of_lt_of_le Nat.zero_lt_two lasts.present, first.ty, first.family⟩

/-- In every world that a run can reach, the default of a type can be made if and only if its
aggregates, nested as deep as they are, fit below the parent. Otherwise the fault says that the
parent is not there, or, if it is, that the depth would be one more than the limit. What is made has
the type and the family that goes with it, and is a default all the way down: there is one new space
for each aggregate, and everything else, the spaces and values that were there included, is as it
was. -/
theorem defaults_build (reached : w.Reached embedding) (ty : Ty) (parent : SpaceId) :
    ((∃ v, (defaultFor ty parent w).1 = .ok v) ↔ w.arena.Fits ty.levels parent) ∧
    (∀ fault, (defaultFor ty parent w).1 = .error fault →
      (w.arena.space? parent = none ∧ fault = .unknownSpace) ∨
        (∃ s, w.arena.space? parent = some s) ∧
          fault = .scopeDepthExceeded (w.arena.maxDepth + 1) w.arena.maxDepth) ∧
    ∀ v u, defaultFor ty parent w = (.ok v, u) →
      u.ty v = ty ∧ u.family v = ty.family ∧ w.Builds u ty parent v := by
  have sound := sound_of_reached kept reached
  obtain ⟨present, untyped, absent⟩ := none_of_reached kept reached
  refine ⟨defaultFor_iff_fits ty parent sound, ?_, ?_⟩
  · intro fault failed
    have reason := defaultFor_refusal ty parent sound (Prod.ext failed rfl)
    cases live : w.arena.space? parent with
    | none => exact .inl ⟨rfl, reason.trans (Arena.refusal_of_dead live)⟩
    | some s => exact .inr ⟨⟨s, rfl⟩, reason.trans (Arena.refusal_of_live live)⟩
  · intro v u done
    have there : w.arena.Allocated SpaceId.empty :=
      Arena.allocated_of_space? w.arena sound.emptySpace
    have built := defaultFor_builds ty parent there done
    have same : u.cell .none = w.cell .none := built.extended.cell present
    obtain ⟨kind, family⟩ := built.tree.ty_family
      ((congrArg Cell.ty same).trans untyped)
      ((congrArg (fun c : Cell E => c.backing.family) same).trans absent)
    exact ⟨kind, family, built⟩

end Reached

def rivals : Ty :=
  .aggregate "Rivals"
    [⟨"rank", .int, .field⟩, ⟨"rank", .aggregate "Leaf" [] false, .field⟩,
      ⟨selfName, .aggregate "Leaf" [] false, .field⟩] false

def lowRoot : World Outside :=
  (World.initial 2 (Outside.initial "host" Table.empty)).after TableHost.embedding
    [.newSpace none]

theorem reached_lowRoot : lowRoot.Reached TableHost.embedding := ⟨_, _, _, rfl⟩

/-- The first of two members of one name is bound. The others have their spaces, too. -/
theorem defaults_build_rivals :
    ∃ v u space rank, defaultFor rivals ⟨1⟩ lowRoot = (.ok v, u) ∧
      u.arena.size = lowRoot.arena.size + 3 ∧ u.backing v = .aggregate .null space ∧
      u.arena.lookupLocal space selfName = some v ∧
      u.arena.lookupLocal space "rank" = some rank ∧ u.ty rank = .int := by
  obtain ⟨room, _, made⟩ := defaults_build (TableHost.embedding_within (tracks_through Deed.any))
    reached_lowRoot rivals ⟨1⟩
  obtain ⟨v, answer⟩ := room.mpr (.inr ⟨_, rfl, by decide⟩)
  generalize done : defaultFor rivals ⟨1⟩ lowRoot = ended at answer
  obtain ⟨_, u⟩ := ended
  cases answer
  obtain ⟨_, _, built⟩ := made v u done
  cases built.tree with
  | blank _ _ blank => exact blank.elim
  | @aggregate _ _ _ _ space _ s _ cell _ live _ itself bound default _ =>
      have declared : (s.bindings.get? "rank").isSome = true :=
        (bound "rank" (by decide)).mpr ⟨rfl, rfl⟩
      obtain ⟨rank, named⟩ := Option.isSome_iff_exists.mp declared
      have first := default "rank" ⟨"rank", .int, .field⟩ rank (by decide) rfl named
      have typed : u.ty rank = .int := by
        cases first with
        | blank _ cell => exact congrArg Cell.ty cell
      refine ⟨v, u, space, rank, rfl, built.count, congrArg Cell.backing cell, ?_, ?_, typed⟩
      · rw [Arena.lookupLocal, live]
        exact itself
      · rw [Arena.lookupLocal, live]
        exact named

end World

end ScriptValues
