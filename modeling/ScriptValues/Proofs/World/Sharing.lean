import ScriptValues.Proofs.Translation.Lifecycle
import ScriptValues.Proofs.World.Bystander

/-! What a view shares with its original.

A view starts with the backing of the original. What is behind it is shared by both for as long as
neither is made to stand for something else: the container of a collection, the space of an aggregate,
the binding of a bridged value. What a value stores itself is not shared, since a write replaces it in
that value alone. -/

namespace ScriptValues

open Step World

variable {E : Type}

namespace Cell

/-- What a value is and what stands behind it. -/
def core (c : Cell E) : Ty × Backing E := (c.ty, c.backing)

/-- The part of the core that stays until the value is made to stand for something else. -/
def anchor (c : Cell E) : Ty × Backing E := (c.ty, c.backing.shared)

end Cell

namespace Backing

variable {b c : Backing E}

theorem family_shared (b : Backing E) : b.shared.family = b.family := by cases b <;> rfl

theorem eq_of_shared (bare : b.stores = false) (same : c.shared = b.shared) : c = b := by
  cases b with
  | basic | aggregate | enum | function | prototype => cases bare
  | _ =>
      cases c with
      | basic | aggregate | enum | function | prototype => cases same
      | _ => exact same

theorem aggregate_of_shared {p : Payload} {space : SpaceId}
    (same : c.shared = (aggregate p space : Backing E).shared) : ∃ q, c = aggregate q space := by
  cases c with
  | aggregate q own =>
      cases same
      exact ⟨q, rfl⟩
  | _ => cases same

theorem bare_of_container (collection : (b.container?).isSome = true) : b.stores = false := by
  cases b with
  | list | set | map => rfl
  | _ => cases collection

end Backing

theorem Backing.collections_cases {b c : Backing E} (collection : (b.container?).isSome = true)
    (family : c.family = b.family) :
    (∃ l k, b = .list l ∧ c = .list k) ∨ (∃ s t, b = .set s ∧ c = .set t) ∨
      ∃ m n, b = .map m ∧ c = .map n := by
  cases b with
  | list l =>
      cases c with
      | list k => exact .inl ⟨l, k, rfl, rfl⟩
      | _ => cases family
  | set s =>
      cases c with
      | set t => exact .inr (.inl ⟨s, t, rfl, rfl⟩)
      | _ => cases family
  | map m =>
      cases c with
      | map n => exact .inr (.inr ⟨m, n, rfl, rfl⟩)
      | _ => cases family
  | _ => cases collection

namespace Operation

variable {operation : Operation E} {x : Value}

theorem target_of_written (written : operation.written? = some x) : operation.target? = some x := by
  cases operation with
  | write => exact written
  | _ => cases written

theorem target_of_reassigned (reassigned : operation.reassigned? = some x) :
    operation.target? = some x := by
  cases operation with
  | assign | rehome => exact reassigned
  | _ => cases reassigned

theorem unseen_of_target (other : operation.target? ≠ some x) : operation.Unseen id x where
  flags target := absurd target other
  stored written := absurd (target_of_written written) other
  held := mt target_of_reassigned other

theorem unseen_anchor (held : operation.reassigned? ≠ some x) : operation.Unseen Cell.anchor x where
  flags _ := ⟨fun _ _ => rfl, fun _ => rfl⟩
  stored _ c _ same := congrArg (Prod.mk c.ty) same
  held := held

theorem unseen_core (held : operation.reassigned? ≠ some x) (kept : operation.written? ≠ some x) :
    operation.Unseen Cell.core x where
  flags _ := ⟨fun _ _ => rfl, fun _ => rfl⟩
  stored written := absurd written kept
  held := held

end Operation

namespace World

variable {w : World E} {v x y : Value}

/-! What follows from a common backing -/

theorem payload_congr (same : w.backing y = w.backing x) : w.payload y = w.payload x := by
  simp only [payload, walkBound, payloadWithin, same]

theorem run_congr (types : w.ty y = w.ty x) (same : w.backing y = w.backing x) (method : Method)
    (arguments : List Value) : method.run y arguments w = method.run x arguments w := by
  have list : w.list? y = w.list? x := by rw [list?, list?, same]
  have set : w.set? y = w.set? x := by rw [set?, set?, same]
  have map : w.map? y = w.map? x := by rw [map?, map?, same]
  cases method with
  | listAdd | listSize | listGet | listClear =>
      rw [Method.run, Method.run, onList_apply, onList_apply, list, types]
  | setAdd | setSize | setContains | setClear =>
      rw [Method.run, Method.run, onSet_apply, onSet_apply, set, types]
  | mapAdd | mapGet | mapSize | mapKeys | mapElements | mapClear =>
      rw [Method.run, Method.run, onMap_apply, onMap_apply, map, types]

theorem payload_of_stores {u : World E} (stores : (w.backing x).stores = true)
    (same : u.cell x = w.cell x) : u.payload x = w.payload x := by
  have backing : u.backing x = w.backing x := congrArg Cell.backing same
  cases held : w.backing x with
  | basic | aggregate | prototype =>
      rw [held] at backing
      simp only [payload, walkBound, payloadWithin, held, backing]
  | enum variant =>
      rw [held] at backing
      cases variant <;> simp only [payload, walkBound, payloadWithin, held, backing]
  | function callable =>
      rw [held] at backing
      cases callable <;> simp only [payload, walkBound, payloadWithin, held, backing]
  | _ =>
      rw [held] at stores
      cases stores

/-- What `x` and `y` share. Both collections have one container, both aggregates one space, and both
bridged values one binding, so the same is seen through either. -/
structure Aliased (embedding : Embedding E) (w : World E) (x y : Value) : Prop where
  types : w.ty y = w.ty x
  family : w.family y = w.family x
  collection : ((w.backing x).container?).isSome = true →
    w.backing y = w.backing x ∧ w.payload y = w.payload x ∧
      ∀ (method : Method) arguments, method.run y arguments w = method.run x arguments w
  aggregate : ∀ p space, w.backing x = .aggregate p space →
    (∃ q, w.backing y = .aggregate q space) ∧
      memberSpace embedding y w = memberSpace embedding x w ∧
      ∀ name, member embedding y name w = member embedding x name w
  bridged : (w.binding? x).isSome = true →
    w.backing y = w.backing x ∧ w.payload y = w.payload x

theorem bare_of_binding? (bridged : (w.binding? x).isSome = true) :
    (w.backing x).stores = false := by
  rw [binding?] at bridged
  cases held : w.backing x with
  | property | aggregateProperty | field => rfl
  | _ =>
      rw [held] at bridged
      cases bridged

theorem aliased_of_anchor (embedding : Embedding E)
    (same : (w.cell y).anchor = (w.cell x).anchor) : w.Aliased embedding x y := by
  have types : w.ty y = w.ty x := congrArg Prod.fst same
  have shared : (w.backing y).shared = (w.backing x).shared := congrArg Prod.snd same
  have family : w.family y = w.family x := by
    rw [World.family, World.family, ← Backing.family_shared, shared, Backing.family_shared]
  refine ⟨types, family, fun collection => ?_, fun p space held => ?_, fun bridged => ?_⟩
  · have backing := Backing.eq_of_shared (Backing.bare_of_container collection) shared
    exact ⟨backing, payload_congr backing, run_congr types backing⟩
  · rw [held] at shared
    obtain ⟨q, other⟩ := Backing.aggregate_of_shared shared
    refine ⟨⟨q, other⟩, ?_, fun name => ?_⟩
    · have first : memberSpace embedding x w = (.ok space, w) :=
        memberSpaceWithin_aggregate embedding w.cells.size held
      have second : memberSpace embedding y w = (.ok space, w) :=
        memberSpaceWithin_aggregate embedding w.cells.size other
      rw [first, second]
    · rw [member_aggregate held, member_aggregate other]
  · have backing := Backing.eq_of_shared (bare_of_binding? bridged) shared
    exact ⟨backing, payload_congr backing⟩

/-! Collections that are assigned -/

def SharesContainer (w : World E) (x y : Value) : Prop :=
  ∃ c, (w.backing x).container? = some c ∧ (w.backing y).container? = some c

/-- A collection that is assigned to another one shares its container from then on. -/
theorem assign_collection (collection : ((w.backing x).container?).isSome = true)
    (family : w.family y = w.family x) (other : x ≠ y) {u : World E}
    (done : assign x y w = (.ok true, u)) : u = (w.setBacking x (w.backing y)).setDirty x := by
  rw [assign, bind_apply, get_apply] at done
  by_cases types : (w.ty x).same (w.ty y) = true
  · by_cases mutable : (w.cell x).mutable = true
    · simp only [types, if_true, other, if_false, mutable] at done
      have kinds := Backing.collections_cases collection family
      rcases kinds with ⟨l, k, held, given⟩ | ⟨s, t, held, given⟩ | ⟨m, n, held, given⟩
      · simp only [held, given] at done
        cases done
        rfl
      · simp only [held, given] at done
        cases done
        rfl
      · simp only [held, given] at done
        cases done
        rfl
    · simp only [types, if_true, other, if_false, mutable] at done
      cases done
  · simp only [types] at done
    cases done

theorem setBacking_setDirty (there : x.index < w.cells.size) (b : Backing E) :
    let u := (w.setBacking x b).setDirty x
    u.backing x = b ∧ (∀ z, z ≠ x → u.cell z = w.cell z) ∧
      u.lists = w.lists ∧ u.sets = w.sets ∧ u.maps = w.maps := by
  intro u
  have still : x.index < (w.setBacking x b).cells.size :=
    there.trans_eq (Heap.size_write w.cells _ _).symm
  have replaced : (w.setBacking x b).cell x = { w.cell x with backing := b } :=
    Heap.read_write_self w.cells _ there
  have marked : u.cell x = { (w.setBacking x b).cell x with dirty := true } :=
    Heap.read_write_self _ _ still
  refine ⟨?_, fun z apart => ?_, rfl, rfl, rfl⟩
  · rw [backing, marked, replaced]
  · have different : x.index ≠ z.index := fun same => apart (Value.index_injective same.symm)
    exact (Heap.read_write_other _ _ different).trans (Heap.read_write_other _ _ different)

/-- The target leaves the values that it shared its container with and joins those that share the
container of the source. All others share containers as before, and no container changes. -/
structure Regroups (w u : World E) (x y : Value) : Prop where
  joins : u.SharesContainer x y
  target : ∀ z, z ≠ x → (u.SharesContainer x z ↔ w.SharesContainer y z)
  others : ∀ z z', z ≠ x → z' ≠ x → (u.SharesContainer z z' ↔ w.SharesContainer z z')
  containers : u.lists = w.lists ∧ u.sets = w.sets ∧ u.maps = w.maps

theorem assign_regroups {u : World E} (collection : ((w.backing x).container?).isSome = true)
    (family : w.family y = w.family x) (other : x ≠ y) (done : assign x y w = (.ok true, u)) :
    w.Regroups u x y := by
  have there : x.index < w.cells.size := by
    refine present_of_backing fun absent => ?_
    rw [absent] at collection
    cases collection
  have same := assign_collection collection family other done
  subst same
  obtain ⟨now, kept, containers⟩ := setBacking_setDirty there (w.backing y)
  have apart : ∀ z, z ≠ x → ((w.setBacking x (w.backing y)).setDirty x).backing z = w.backing z :=
    fun z different => congrArg Cell.backing (kept z different)
  refine ⟨?_, fun z different => ?_, fun z z' first second => ?_, containers⟩
  · have given : ∃ c, (w.backing y).container? = some c := by
      rcases Backing.collections_cases collection family with
        ⟨l, k, _, given⟩ | ⟨s, t, _, given⟩ | ⟨m, n, _, given⟩
      · exact ⟨.list k, congrArg Backing.container? given⟩
      · exact ⟨.set t, congrArg Backing.container? given⟩
      · exact ⟨.map n, congrArg Backing.container? given⟩
    obtain ⟨c, behind⟩ := given
    exact ⟨c, by rw [now, behind], by rw [apart y other.symm, behind]⟩
  · rw [SharesContainer, SharesContainer, now, apart z different]
  · rw [SharesContainer, SharesContainer, apart z first, apart z' second]

/-! Defaults of a template -/

theorem defaultValue_of_template {p q : Prototype} (same : p.id = q.id)
    (there : p.id.index < w.templates.size) {name : String} (known : knowsMember p name = true)
    (d : Value) : ((w.addDefault p name d).2).defaultValue q name = d := by
  have written : ((w.addDefault p name d).2).template q.id = (w.template p.id).insert name d := by
    rw [addDefault, if_pos known, ← same]
    exact Heap.read_write_self w.templates _ there
  rw [defaultValue, written, Table.get?_insert_self, Option.getD_some]

/-! Views -/

/-- What one value shows of a change that another value brings about, and what not. -/
structure Independent (embedding : Embedding E) (w : World E) (x : Value) : Prop where
  cell : ∀ operation : Operation E, operation.target? ≠ some x →
    (operation.step embedding w).2.cell x = w.cell x
  payload : ∀ operation : Operation E, operation.target? ≠ some x →
    (w.backing x).stores = true → (operation.step embedding w).2.payload x = w.payload x

theorem independent_of_spares {embedding : Embedding E} (spares : embedding.Spares x)
    (there : x.index < w.cells.size) : w.Independent embedding x := by
  have cell : ∀ operation : Operation E, operation.target? ≠ some x →
      (operation.step embedding w).2.cell x = w.cell x :=
    fun operation other =>
      (keepsCell_step spares (Operation.unseen_of_target other) w there).2
  exact ⟨cell, fun operation other stores => payload_of_stores stores (cell operation other)⟩

theorem shallowView_cells (there : v.index < w.cells.size) :
    let u := (w.shallowView v).2
    v.index < u.cells.size ∧ (w.shallowView v).1.index < u.cells.size ∧
      (w.shallowView v).1 ≠ v ∧ u.cell v = w.cell v ∧
      u.cell (w.shallowView v).1 = { w.cell v with translated := none } := by
  intro u
  have size : u.cells.size = w.cells.size + 1 := Heap.size_push w.cells _
  refine ⟨?_, ?_, ?_, Heap.read_push_other _ _ (Nat.ne_of_lt there), Heap.read_push_self _ _⟩
  · rw [size]
    exact Nat.lt_succ_of_lt there
  · rw [size]
    exact Nat.lt_succ_self _
  · exact fun same => Nat.ne_of_lt there (congrArg Value.index same).symm

/-- A view is another value, with the cell of the original but for the translation. After it is made
any operations may follow, as long as neither the original nor the view is the target of an assignment
or moved to another space. Then both still share what views share, in each family its own. An
operation that does not work on one of them leaves its cell as it is, flags and translation included,
and its payload too if the value stores it itself; as long as neither is written to, both have one
backing. A default that is registered through one of two prototypes with one template shows through
the other. A collection is taken out of its group by an assignment and joins that of the source. -/
theorem views_share {embedding : Embedding E} (there : v.index < w.cells.size)
    (anchored : ∀ x ∈ [v, (w.shallowView v).1], embedding.Within (KeepsCell Cell.anchor x))
    {operations : List (Operation E)}
    (held : ∀ operation ∈ operations, ∀ x ∈ [v, (w.shallowView v).1],
      operation.reassigned? ≠ some x) :
    let view := (w.shallowView v).1
    let u := (w.shallowView v).2.after embedding operations
    view ≠ v ∧ (w.shallowView v).2.cell view = { w.cell v with translated := none } ∧
    u.Aliased embedding v view ∧
    ((∀ x ∈ [v, view], embedding.Spares x) →
      u.Independent embedding v ∧ u.Independent embedding view ∧
      ((∀ operation ∈ operations, ∀ x ∈ [v, view], operation.written? ≠ some x) →
        u.backing view = u.backing v)) ∧
    (∀ p q, u.prototype? v = some p → u.prototype? view = some q → p.id = q.id →
      p.id.index < u.templates.size → ∀ name d,
      (knowsMember p name = true → (u.addDefault p name d).2.defaultValue q name = d) ∧
      (knowsMember q name = true → (u.addDefault q name d).2.defaultValue p name = d)) ∧
    ∀ x y u', ((u.backing x).container?).isSome = true → u.family y = u.family x → x ≠ y →
      assign x y u = (.ok true, u') → u.Regroups u' x y := by
  intro view u
  obtain ⟨old, new, other, original, copied⟩ := shallowView_cells there
  have alike : ∀ {α : Type} (look : Cell E → α), IgnoresTranslated look →
      look ((w.shallowView v).2.cell view) = look ((w.shallowView v).2.cell v) := by
    intro α look ignores
    rw [original, copied, ignores]
  have inV : v ∈ [v, view] := List.mem_cons_self
  have inView : view ∈ [v, view] := List.mem_cons_of_mem _ List.mem_cons_self
  have anchors : ∀ x ∈ [v, view], KeepsCell Cell.anchor x (w.shallowView v).2 u := by
    intro x one
    have keeps : embedding.Keeps Cell.anchor x := ⟨anchored x one, .inl fun _ _ => rfl⟩
    exact keepsCell_after keeps
      (fun operation among => Operation.unseen_anchor (held operation among x one)) _
  obtain ⟨stays, first⟩ := anchors v inV old
  obtain ⟨remains, second⟩ := anchors view inView new
  have aliased : (u.cell view).anchor = (u.cell v).anchor :=
    second.trans ((alike Cell.anchor fun _ _ => rfl).trans first.symm)
  refine ⟨other, copied, aliased_of_anchor embedding aliased,
    fun spares => ⟨?_, ?_, fun kept => ?_⟩, ?_, fun x y u' => assign_regroups⟩
  · exact independent_of_spares (spares v inV) stays
  · exact independent_of_spares (spares view inView) remains
  · have cores : ∀ x ∈ [v, view], KeepsCell Cell.core x (w.shallowView v).2 u := fun x one =>
      keepsCell_after ((spares x one).map Cell.core)
        (fun operation among =>
          Operation.unseen_core (held operation among x one) (kept operation among x one)) _
    obtain ⟨_, first⟩ := cores v inV old
    obtain ⟨_, second⟩ := cores view inView new
    have same := second.trans ((alike Cell.core fun _ _ => rfl).trans first.symm)
    exact congrArg Prod.snd same
  · intro p q _ _ same present name d
    exact ⟨fun known => defaultValue_of_template same present known d,
      fun known => defaultValue_of_template same.symm (same ▸ present) known d⟩

end World

def numberLists : World Unit :=
  (((World.initial 4 ()).newList (.list .int)).2.newList (.list .int)).2

def filledView : World Unit :=
  (numberLists.shallowView ⟨2⟩).2.after wrapping
    [.write ⟨4⟩ (.list [.int 5, .int 6]), .setDirty ⟨2⟩]

namespace World

theorem spares_wrapping (x : Value) : wrapping.Spares x where
  within :=
    { translate := fun _ p parent =>
        within_map _ (admits_newAggregate (overlooks_keepsCell id x).tolerates.admits _ parent p)
      routine := fun _ _ _ => within_pure (composes_keepsCell id x) Value.none }
  answers := by
    refine .inr fun translator p parent w u t there done => ?_
    simp only [wrapping, map_apply, newAggregate_apply] at done
    generalize w.arena.newSpace (some parent) = opened at done
    rcases opened with _ | ⟨space, a⟩
    · cases done
    · cases done
      rintro rfl
      exact absurd there (Nat.lt_irrefl _)

/-- The list shows what its view was filled with, and loses its view to the other list. -/
theorem views_share_numbers :
    filledView.payload ⟨2⟩ = .list [.int 5, .int 6] ∧ filledView.Aliased wrapping ⟨2⟩ ⟨4⟩ ∧
      filledView.Independent wrapping ⟨4⟩ ∧
      filledView.Regroups (assign ⟨4⟩ ⟨3⟩ filledView).2 ⟨4⟩ ⟨3⟩ := by
  have held : ∀ operation ∈ ([.write ⟨4⟩ (.list [.int 5, .int 6]), .setDirty ⟨2⟩] :
      List (Operation Unit)), ∀ x ∈ [(⟨2⟩ : Value), (numberLists.shallowView ⟨2⟩).1],
      operation.reassigned? ≠ some x := by
    intro operation among x _
    rcases List.mem_cons.mp among with rfl | among
    · nofun
    · rw [List.mem_singleton.mp among]
      nofun
  have anchored : ∀ x ∈ [(⟨2⟩ : Value), (numberLists.shallowView ⟨2⟩).1],
      wrapping.Within (KeepsCell Cell.anchor x) :=
    fun x _ => ((spares_wrapping x).map Cell.anchor).within
  have there : (2 : Nat) < numberLists.cells.size := by decide
  obtain ⟨-, -, aliased, independent, -, regroups⟩ := views_share (v := ⟨2⟩) there anchored held
  have taken : (assign ⟨4⟩ ⟨3⟩ filledView).1 = .ok true := rfl
  exact ⟨rfl, aliased, (independent fun x _ => spares_wrapping x).2.1,
    regroups ⟨4⟩ ⟨3⟩ _ rfl rfl (by decide) (Prod.ext taken rfl)⟩

end World

end ScriptValues
