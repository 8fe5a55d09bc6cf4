import ScriptValues.Proofs.World.Run

/-! What operations on other things leave alone: the values that are there, and the outside state.

Most operations make new values, fill containers or move spaces, and change no value that was there.
A relation that tolerates all of this follows every such operation, and needs a proof of its own only
for the few that work on a value. -/

namespace ScriptValues

open Step World

variable {E : Type}

def Cell.Fillable (c : Cell E) : Prop := c.backing.container?.isSome = true → c.mutable = true

theorem Cell.fillable_of_plain {c : Cell E} (plain : c.backing.container? = none) : c.Fillable := by
  intro collection
  rw [plain] at collection
  cases collection

namespace World

variable {u w : World E} {x : Value}

def Fillable (w : World E) : Prop := ∀ v, (w.cell v).Fillable

structure Retains (u w : World E) : Prop where
  cells : u.cells.KeepsFrom 0 w.cells
  outside : w.outside = u.outside

theorem composes_retains : Composes (Retains (E := E)) where
  refl _ := ⟨Heap.keepsFrom_refl 0 _, rfl⟩
  trans first second := ⟨first.cells.trans second.cells, second.outside.trans first.outside⟩

theorem retains_of_same (cells : w.cells = u.cells) (outside : w.outside = u.outside) :
    u.Retains w :=
  ⟨cells ▸ Heap.keepsFrom_refl 0 _, outside⟩

theorem retains_addCell (w : World E) (c : Cell E) : w.Retains (w.addCell c).2 :=
  ⟨(Heap.keepsFrom_refl 0 _).push c, rfl⟩

end World

/-- A relation that admits new values, the collections among them mutable, and whatever happens beside
the values, the outside state and the templates that are there. -/
structure Admits (R : World E → World E → Prop) : Prop extends Composes R where
  same : ∀ {u w : World E}, w.cells = u.cells → w.outside = u.outside →
    u.templates.KeepsFrom 0 w.templates → R u w
  addCell : ∀ (w : World E) (c : Cell E), (w.Fillable → c.Fillable) → R w (w.addCell c).2

structure Tolerates (R : World E → World E → Prop) : Prop extends Composes R where
  same : ∀ {u w : World E}, w.cells = u.cells → w.outside = u.outside → R u w
  addCell : ∀ (w : World E) (c : Cell E), (w.Fillable → c.Fillable) → R w (w.addCell c).2

theorem Tolerates.admits {R : World E → World E → Prop} (tolerates : Tolerates R) : Admits R where
  refl := tolerates.refl
  trans := tolerates.trans
  same cells outside _ := tolerates.same cells outside
  addCell := tolerates.addCell

instance {R : World E → World E → Prop} : CoeOut (Tolerates R) (Composes R) :=
  ⟨Tolerates.toComposes⟩

instance {R : World E → World E → Prop} : CoeOut (Tolerates R) (Admits R) := ⟨Tolerates.admits⟩

instance {R : World E → World E → Prop} : CoeOut (Admits R) (Composes R) := ⟨Admits.toComposes⟩

structure Overlooks (R : World E → World E → Prop) : Prop extends Composes R where
  retains : ∀ {u w}, World.Retains u w → R u w

theorem Overlooks.tolerates {R : World E → World E → Prop} (overlooks : Overlooks R) :
    Tolerates R where
  refl := overlooks.refl
  trans := overlooks.trans
  same cells outside := overlooks.retains (retains_of_same cells outside)
  addCell w c _ := overlooks.retains (retains_addCell w c)

theorem overlooks_retains : Overlooks (Retains (E := E)) where
  toComposes := composes_retains
  retains := id

section Admits

variable {R : World E → World E → Prop} (admits : Admits R)
include admits

theorem Admits.beside {u w : World E} (cells : w.cells = u.cells) (outside : w.outside = u.outside)
    (templates : w.templates = u.templates) : R u w :=
  admits.same cells outside (templates ▸ Heap.keepsFrom_refl 0 _)

theorem Admits.push {u w : World E} {c : Cell E} (fillable : u.Fillable → c.Fillable)
    (cells : w.cells = u.cells.push c) (outside : w.outside = u.outside)
    (templates : w.templates = u.templates) : R u w :=
  admits.trans (admits.addCell u c fillable) (admits.beside cells outside templates)

theorem Admits.pushPlain {u w : World E} {c : Cell E} (plain : c.backing.container? = none)
    (cells : w.cells = u.cells.push c) (outside : w.outside = u.outside)
    (templates : w.templates = u.templates) : R u w :=
  admits.push (fun _ => Cell.fillable_of_plain plain) cells outside templates

theorem Admits.pushMutable {u w : World E} {c : Cell E} (mutable : c.mutable = true)
    (cells : w.cells = u.cells.push c) (outside : w.outside = u.outside)
    (templates : w.templates = u.templates) : R u w :=
  admits.push (fun _ _ => mutable) cells outside templates

theorem Admits.recordTranslated {v : Value}
    (filed : ∀ (u : World E) space, R u (u.setTranslated v space)) (w : World E) (space : SpaceId) :
    R w (w.recordTranslated v space) := by
  rw [World.recordTranslated]
  refine admits.trans ?_ (filed _ _)
  split
  · exact admits.refl w
  · split
    · exact admits.refl w
    · exact admits.beside rfl rfl rfl

theorem Admits.releaseTranslated {v : Value}
    (filed : ∀ (u : World E) space, R u (u.setTranslated v space)) (w : World E) :
    R w (w.releaseTranslated v) := by
  rw [World.releaseTranslated]
  split
  · exact admits.refl w
  · exact admits.trans (filed w none) (admits.beside rfl rfl rfl)

namespace World

theorem admits_newBasics (w : World E) (ty : Ty) (ps : List Payload) :
    R w (w.newBasics ty ps).2 := by
  induction ps generalizing w with
  | nil => exact admits.refl w
  | cons p rest ih =>
      have made : R w (w.newBasic ty p).2 := admits.pushPlain rfl rfl rfl rfl
      exact admits.trans made (ih (w.newBasic ty p).2)

theorem admits_listRefill (w : World E) (l : ListId) (ps : List Payload) :
    R w (w.listRefill l ps) :=
  admits.trans (admits_newBasics admits w _ ps) (admits.beside rfl rfl rfl)

theorem admits_addFresh (s : SetId) (w : World E) (p : Payload) : R w (addFresh s w p) := by
  have made : R w (w.newBasic (w.set s).element p).2 := admits.pushPlain rfl rfl rfl rfl
  exact admits.trans made (admits.beside rfl rfl rfl)

theorem admits_setRefill (w : World E) (s : SetId) (ps : List Payload) :
    R w (w.setRefill s ps) := by
  have cleared : R w (w.setClear s) := admits.beside rfl rfl rfl
  rw [setRefill_eq]
  exact admits.trans cleared
    (admits.toComposes.foldl (admits_addFresh admits s) ps _)

theorem admits_addFreshEntry (m : MapId) (w : World E) (entry : Payload × Payload) :
    R w (addFreshEntry m w entry) := by
  have first : R w (w.newBasic (w.map m).key entry.1).2 := admits.pushPlain rfl rfl rfl rfl
  have second : ∀ u : World E, R u (u.newBasic (u.map m).element entry.2).2 :=
    fun u => admits.pushPlain rfl rfl rfl rfl
  exact admits.trans (admits.trans first (second _)) (admits.beside rfl rfl rfl)

theorem admits_mapRefill (w : World E) (m : MapId) (entries : List (Payload × Payload)) :
    R w (w.mapRefill m entries) := by
  have cleared : R w (w.mapClear m) := admits.beside rfl rfl rfl
  rw [mapRefill_eq]
  exact admits.trans cleared
    (admits.toComposes.foldl (admits_addFreshEntry admits m) entries _)

theorem admits_accept {w : World E} {x : Value}
    (collection : ((w.backing x).container?).isSome = true) (p : Payload) :
    R w (w.accept x p).2 := by
  unfold accept
  cases held : w.backing x with
  | list l =>
      cases p <;> first
        | exact admits_listRefill admits w l _
        | exact admits.beside rfl rfl rfl
  | set s =>
      cases p <;> first
        | exact admits_setRefill admits w s _
        | exact admits.beside rfl rfl rfl
  | map m =>
      cases p <;> first
        | exact admits_mapRefill admits w m _
        | exact admits.beside rfl rfl rfl
  | _ =>
      rw [held] at collection
      cases collection

theorem admits_newPrototype (w : World E) (ty : Ty) (internal : Option Ty) :
    R w (w.newPrototype ty internal).2 :=
  admits.trans (admits.addCell w _ fun _ => Cell.fillable_of_plain rfl)
    (admits.same rfl rfl ((Heap.keepsFrom_refl 0 _).push _))

theorem admits_method? (w : World E) (v : Value) (name : String) :
    R w (((w.method? v name).map Prod.snd).getD w) := by
  rw [method?]
  cases (w.ty v).method? name with
  | none => exact admits.refl w
  | some method => exact admits.pushPlain rfl rfl rfl rfl

end World

theorem admits_newSpace (parent : Option SpaceId) :
    Within R (newSpace parent : Step E SpaceId) := by
  intro w
  rw [newSpace]
  cases w.arena.newSpace parent with
  | error fault => exact admits.refl w
  | ok answer => exact admits.beside rfl rfl rfl

theorem admits_changeArena {α : Type} (f : Arena → α × Arena) :
    Within R (changeArena f : Step E α) :=
  fun _ => admits.beside rfl rfl rfl

theorem admits_newAggregate (ty : Ty) (parent : SpaceId) (p : Payload) :
    Within R (newAggregate ty parent p : Step E (Value × SpaceId)) := by
  refine within_bind admits (admits_newSpace admits _) fun space => ?_
  refine within_bind admits (within_change _ fun w => admits.pushPlain rfl rfl rfl rfl) fun v => ?_
  exact within_bind admits (admits_changeArena admits _) fun _ =>
    within_pure admits (v, space)

theorem admits_defaultPayload (w : World E) (ty : Ty) : R w (defaultPayload w ty).2 := by
  unfold defaultPayload
  split
  all_goals exact admits.beside rfl rfl rfl

mutual

theorem admits_defaultFor (ty : Ty) (parent : SpaceId) :
    Within R (defaultFor ty parent : Step E Value) := by
  cases ty with
  | noType =>
      rw [defaultFor]
      exact within_pure admits _
  | scalar s =>
      rw [defaultFor]
      exact within_change _ fun w =>
        admits.trans (admits_defaultPayload admits w _) (admits.pushPlain rfl rfl rfl rfl)
  | aggregate name members adapted =>
      cases adapted with
      | true =>
          rw [defaultFor]
          exact within_bind admits (admits_newAggregate admits _ parent _) fun made =>
            within_pure admits made.1
      | false =>
          intro w
          have made :=
            admits_newAggregate admits (.aggregate name members false) parent .null w
          rw [defaultFor_aggregate]
          generalize newAggregate _ _ _ w = answer at made ⊢
          rcases answer with ⟨_ | ⟨v, space⟩, u⟩
          · exact made
          · have bound := admits_bindDefaults members space u
            dsimp only
            generalize bindDefaults members space u = outcome at bound ⊢
            have filled := admits.trans made bound
            rcases outcome with ⟨_ | _, x⟩
            · exact admits.trans filled (admits.beside rfl rfl rfl)
            · exact filled
  | list | set | map =>
      rw [defaultFor]
      exact within_change _ fun w => admits.pushMutable rfl rfl rfl rfl
  | prototype kind =>
      rw [defaultFor]
      exact within_change _ fun w => World.admits_newPrototype admits w _ _
  | _ =>
      rw [defaultFor]
      exact within_change _ fun w => admits.pushPlain rfl rfl rfl rfl

theorem admits_bindDefaults (members : List Member) (space : SpaceId) :
    Within R (bindDefaults members space : Step E Unit) := by
  cases members with
  | nil =>
      rw [bindDefaults]
      exact within_pure admits ()
  | cons member rest =>
      obtain ⟨name, ty, kind⟩ := member
      rw [bindDefaults]
      refine within_bind admits (admits_defaultFor ty space) fun v => ?_
      exact within_bind admits (admits_changeArena admits _) fun _ =>
        admits_bindDefaults rest space

end

theorem admits_setAdd (s : SetId) (v : Value) : Within R (setAdd s v : Step E Bool) := by
  intro w
  rw [setAdd_apply]
  split
  · exact admits.refl w
  · exact admits.beside rfl rfl rfl

theorem admits_mapAdd (m : MapId) (key element : Value) :
    Within R (mapAdd m key element : Step E Bool) := by
  intro w
  rw [mapAdd_apply]
  split
  · exact admits.refl w
  · exact admits.beside rfl rfl rfl

theorem admits_answered {add : Step E Bool} (added : Within R add) :
    Within R (add >>= fun answer => change fun w : World E => w.newBool answer) :=
  within_bind admits added fun _ _ => admits.pushPlain rfl rfl rfl rfl

theorem admits_run (method : Method) (receiver : Value) (arguments : List Value) :
    Within R (method.run receiver arguments : Step E Value) := by
  intro w
  cases method with
  | listAdd | listSize | listGet | listClear =>
      rw [Method.run, onList_apply]
      cases w.list? receiver with
      | none => exact admits.refl w
      | some l => first
          | exact admits.beside rfl rfl rfl
          | exact admits.pushPlain rfl rfl rfl rfl
  | setAdd =>
      rw [Method.run, onSet_apply]
      cases w.set? receiver with
      | none => exact admits.refl w
      | some s => exact admits_answered admits (admits_setAdd admits s _) w
  | mapAdd =>
      rw [Method.run, onMap_apply]
      cases w.map? receiver with
      | none => exact admits.refl w
      | some m => exact admits_answered admits (admits_mapAdd admits m _ _) w
  | setSize | setContains | setClear =>
      rw [Method.run, onSet_apply]
      cases w.set? receiver with
      | none => exact admits.refl w
      | some s => first
          | exact admits.beside rfl rfl rfl
          | exact admits.pushPlain rfl rfl rfl rfl
  | mapGet | mapSize | mapKeys | mapElements | mapClear =>
      rw [Method.run, onMap_apply]
      cases w.map? receiver with
      | none => exact admits.refl w
      | some m => first
          | exact admits.beside rfl rfl rfl
          | exact admits.pushPlain rfl rfl rfl rfl
          | exact admits.pushMutable rfl rfl rfl rfl

theorem admits_deepCopyWithin (bound : Nat) (v : Value) :
    Within R (deepCopyWithin bound v : Step E Value) := by
  induction bound generalizing v with
  | zero => exact within_pure admits v
  | succ bound ih =>
      intro w
      -- The copies of the contents leave the collection as it was.
      have duplicated : ∀ {u x : World E} (b : Backing E), w.Allocates u →
          (w.backing v).container?.isSome = true → x.cells = u.cells → x.outside = u.outside →
          x.templates = u.templates → R u (x.duplicate v b).2 := by
        intro u x b allocated collection cells outside templates
        have beside : R u x := admits.beside cells outside templates
        refine admits.trans beside (admits.addCell x _ ?_)
        intro fillable _
        have there : v.index < w.cells.size := by
          refine present_of_backing fun absent => ?_
          rw [absent] at collection
          cases collection
        have kept : x.cell v = w.cell v := by
          rw [World.cell, cells]
          exact allocated.keeps.cell there
        refine fillable v ?_
        rw [kept]
        exact collection
      cases held : w.backing v with
      | absent =>
          rw [deepCopyWithin_absent held]
          exact admits.refl w
      | aggregate p space =>
          rw [deepCopyWithin_aggregate held, newSpace]
          rcases w.arena.newSpace ((w.arena.space? space).bind (·.parent)) with _ | ⟨id, a⟩
          · exact admits.refl w
          · have copied : R w ((w.withArena a).duplicateInto v p id).2 :=
              admits.pushPlain rfl rfl rfl rfl
            have binds : ∀ name x, Within R (bindName id name x : Step E Bool) :=
              fun name x => admits_changeArena admits _
            have filled := within_copyMembers admits binds ih (w.arena.bindings space).rows
              ((w.withArena a).duplicateInto v p id).2
            dsimp only
            rcases done : copyMembers (deepCopyWithin bound) id (w.arena.bindings space).rows
              ((w.withArena a).duplicateInto v p id).2 with ⟨_ | _, x⟩
            · exact admits.trans copied (congrArg Prod.snd done ▸ filled)
            · exact admits.trans copied (congrArg Prod.snd done ▸ filled)
      | list l =>
          have copied := within_mapM admits ih (w.list l).items w
          have allocated := within_mapM composes_allocates (deepCopyWithin_allocates bound)
            (w.list l).items w
          rw [deepCopyWithin_list held]
          generalize (w.list l).items.mapM (deepCopyWithin bound) w = answer at copied allocated ⊢
          rcases answer with ⟨_ | items, u⟩
          · exact copied
          · exact admits.trans copied (duplicated _ allocated (by rw [held]; rfl) rfl rfl rfl)
      | set s =>
          have copied := within_copyItems admits ih (w.set s).items (w.set s).cleared w
          have allocated := within_copyItems composes_allocates (deepCopyWithin_allocates bound)
            (w.set s).items (w.set s).cleared w
          rw [deepCopyWithin_set held]
          generalize copyItems (deepCopyWithin bound) _ _ w = answer at copied allocated ⊢
          rcases answer with ⟨_ | box, u⟩
          · exact copied
          · exact admits.trans copied (duplicated _ allocated (by rw [held]; rfl) rfl rfl rfl)
      | map m =>
          have copied := within_copyEntries admits ih (w.map m).entries (w.map m).cleared w
          have allocated := within_copyEntries composes_allocates (deepCopyWithin_allocates bound)
            (w.map m).entries (w.map m).cleared w
          rw [deepCopyWithin_map held]
          generalize copyEntries (deepCopyWithin bound) _ _ w = answer at copied allocated ⊢
          rcases answer with ⟨_ | box, u⟩
          · exact copied
          · exact admits.trans copied (duplicated _ allocated (by rw [held]; rfl) rfl rfl rfl)
      | _ =>
          rw [deepCopyWithin_plain (by rw [held]; rfl), held]
          exact admits.pushPlain rfl rfl rfl rfl

theorem admits_deepCopy (v : Value) : Within R (deepCopy v : Step E Value) :=
  within_get_bind fun w => admits_deepCopyWithin admits w.walkBound v w

/-! The embedding program and what calls it -/

variable {embedding : Embedding E} (kept : embedding.Within R)
include kept

theorem admits_exposedMember (schema : Schema E) (translator : TranslatorId) (host : HostId)
    (space : SpaceId) (m : Member) :
    Within R (exposedMember embedding schema translator host space m) := by
  have made : ∀ c : World E → Cell E, (∀ w, (c w).backing.container? = none) → Within R
      (some <$> Step.change fun w => w.addCell (c w) : Step E (Option Value)) := fun c plain =>
    within_map _ (within_change _ fun w => admits.pushPlain (plain w) rfl rfl rfl)
  rw [exposedMember]
  cases m.kind with
  | field =>
      dsimp only
      cases schema.field? m.name with
      | none => exact within_pure admits none
      | some accessor =>
          dsimp only
          cases m.ty.isAggregate with
          | false => exact made _ fun _ => rfl
          | true =>
              apply within_get_bind
              intro w
              by_cases null : ((⟨accessor, host⟩ : Binding E).readAlways w.outside).isNull = true
              · simp only [null, if_true]
                exact admits.refl w
              · simp only [null]
                exact within_map _ (kept.translate translator _ space) w
  | property =>
      dsimp only
      cases schema.property? m.name with
      | none => exact within_pure admits none
      | some accessor =>
          cases m.ty.isAggregate with
          | true => exact made _ fun _ => rfl
          | false => exact made _ fun _ => rfl

theorem admits_exposeMembers (schema : Schema E) (translator : TranslatorId) (host : HostId)
    (space : SpaceId) (members : List Member) :
    Within R (exposeMembers embedding schema translator host space members) := by
  induction members with
  | nil => exact within_pure admits ()
  | cons m rest ih =>
      refine within_bind admits
        (admits_exposedMember admits kept schema translator host space m) fun exposed => ?_
      cases exposed with
      | none => exact within_bind admits (within_pure admits ()) fun _ => ih
      | some v => exact within_bind admits (admits_changeArena admits _) fun _ => ih

theorem admits_encapsulate (host : HostId) (ty : Ty) (schema : Schema E)
    (translator : TranslatorId) (parent : SpaceId) :
    Within R (encapsulate embedding host ty schema translator parent) := by
  rw [encapsulate]
  cases ty.aggregate? with
  | none => exact within_throw admits _
  | some definition =>
      refine within_bind admits (admits_newAggregate admits ty parent _) fun made => ?_
      refine within_bind admits
        (admits_exposeMembers admits kept schema translator host made.2 _) fun _ => ?_
      exact within_pure admits made.1

theorem admits_call (f : Value) (values : List Value) (receiver : Option Value) :
    Within R (call embedding f (.ofValues values) receiver) := by
  intro w
  rw [call_apply]
  cases w.callable? f with
  | none => exact admits.refl w
  | some callable =>
      dsimp only
      cases callable.routine with
      | external name => exact kept.routine callable.identity values receiver w
      | method method =>
          cases receiver with
          | none =>
              dsimp only
              rw [nativeCall_missing]
              exact admits.refl w
          | some r =>
              dsimp only
              rw [nativeCall_ofValues]
              split
              · exact admits_run admits method r values w
              · exact admits.refl w

theorem admits_memberSpaceWithin
    (recorded : ∀ (w : World E) v space, R w (w.recordTranslated v space)) (bound : Nat)
    (v : Value) : Within R (memberSpaceWithin embedding bound v) := by
  induction bound generalizing v with
  | zero => exact within_throw admits _
  | succ bound ih =>
      intro w
      cases held : w.backing v with
      | aggregateProperty b parent translator =>
          rw [memberSpaceWithin_aggregateProperty embedding bound held]
          have made := kept.translate translator (b.read w.outside) parent w
          split
          · exact recorded w v _
          · generalize embedding.translate _ _ parent w = answer at made ⊢
            rcases answer with ⟨_ | t, u⟩
            · exact made
            · have reached := ih t u
              dsimp only
              generalize memberSpaceWithin embedding bound t u = outcome at reached ⊢
              have both := admits.trans made reached
              rcases outcome with ⟨_ | space, z⟩
              · exact both
              · exact admits.trans both (recorded z v space)
      | _ =>
          simp only [memberSpaceWithin, bind_apply, get_apply, held]
          exact admits.beside rfl rfl rfl

end Admits

/-- An operation that works on no value that is there, and not on the outside state either. -/
def Operation.idle : Operation E → Bool
  | write _ _ | assign _ _ | setDirty _ | rehome _ _ | memberSpace _ | member _ _ | release _
  | outside _ => false
  | _ => true

section Step

variable {R : World E → World E → Prop} {embedding : Embedding E} {operation : Operation E}

theorem admits_step (admits : Admits R) (kept : embedding.Within R) (idle : operation.idle = true)
    (w : World E)
    (registered : ∀ p name v, operation = .addDefault p name v → R w (w.addDefault p name v).2) :
    R w (operation.step embedding w).2 := by
  cases operation with
  | write | assign | setDirty | rehome | memberSpace | member | release | outside => cases idle
  | newSpace parent => exact within_map _ (admits_newSpace admits parent) w
  | bind | rebind | unbind | free | freeSubtree =>
      exact within_map _ (admits_changeArena admits _) w
  | newAggregate ty parent p =>
      exact within_map _ (admits_newAggregate admits ty parent p) w
  | newDefault ty parent => exact within_map _ (admits_defaultFor admits ty parent) w
  | encapsulate host ty schema translator parent =>
      exact within_map _ (admits_encapsulate admits kept host ty schema translator parent) w
  | shallowView v => exact admits.addCell w _ fun fillable => fillable v
  | deepCopy v => exact within_map _ (admits_deepCopy admits v) w
  | call f values receiver =>
      exact within_map _ (admits_call admits kept f values receiver) w
  | method v name => exact admits_method? admits w v name
  | newPrototype ty internal => exact admits_newPrototype admits w ty internal
  | addDefault p name v => exact registered p name v rfl
  | setAdd s v => exact within_map _ (admits_setAdd admits s v) w
  | mapAdd m key element => exact within_map _ (admits_mapAdd admits m key element) w
  | listAdd | listClear | setClear | mapClear | newCallable | newGraph =>
      exact admits.beside rfl rfl rfl
  | newList | newSet | newMap => exact admits.pushMutable rfl rfl rfl rfl
  | _ => exact admits.pushPlain rfl rfl rfl rfl

theorem tolerates_addDefault (tolerates : Tolerates R) (w : World E) (p : Prototype) (name : String)
    (v : Value) : R w (w.addDefault p name v).2 := by
  rw [addDefault]
  split
  · exact tolerates.same rfl rfl
  · exact tolerates.refl w

theorem tolerates_step (tolerates : Tolerates R) (kept : embedding.Within R)
    (idle : operation.idle = true) (w : World E) : R w (operation.step embedding w).2 :=
  admits_step tolerates kept idle w fun p name v _ => tolerates_addDefault tolerates w p name v

end Step

end ScriptValues
