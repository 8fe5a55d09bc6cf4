import ScriptValues.Proofs.World.Tracking

/-! Runs: sequences of operations on one world, in any order.

An operation that fails leaves behind what it had changed, and the run goes on from there. A relation
that tracks changes holds between the start and the end of every run. -/

namespace ScriptValues

variable {E : Type}

/-- The operations of the library that can change a world. -/
inductive Operation (E : Type) where
  | newSpace (parent : Option SpaceId)
  | bind (space : SpaceId) (name : String) (v : Value)
  | rebind (space : SpaceId) (name : String) (v : Value)
  | unbind (space : SpaceId) (name : String)
  | free (space : SpaceId)
  | freeSubtree (space : SpaceId)
  | newBasic (ty : Ty) (p : Payload) (mutable : Bool)
  | newList (ty : Ty)
  | newSet (ty : Ty)
  | newMap (ty : Ty)
  | newEnum (ty : Ty) (variant : Option Variant)
  | newFunction (ty : Ty) (callable : Option Callable)
  | newCallable (routine : Routine)
  | newGraph (nodes : List String) (edges : List (Nat × Nat))
  | newPrototype (ty : Ty) (internal : Option Ty)
  | newProperty (ty : Ty) (b : Binding E) (mutable : Bool)
  | newAggregateProperty (ty : Ty) (b : Binding E) (parent : SpaceId) (translator : TranslatorId)
      (mutable : Bool)
  | newField (ty : Ty) (b : Binding E)
  | newAggregate (ty : Ty) (parent : SpaceId) (p : Payload)
  | newDefault (ty : Ty) (parent : SpaceId)
  | encapsulate (host : HostId) (ty : Ty) (schema : Schema E) (translator : TranslatorId)
      (parent : SpaceId)
  | shallowView (v : Value)
  | deepCopy (v : Value)
  | write (v : Value) (p : Payload)
  | assign (v u : Value)
  | setDirty (v : Value)
  | rehome (v : Value) (space : SpaceId)
  | memberSpace (v : Value)
  | member (v : Value) (name : String)
  | release (v : Value)
  | listAdd (l : ListId) (v : Value)
  | listClear (l : ListId)
  | setAdd (s : SetId) (v : Value)
  | setClear (s : SetId)
  | mapAdd (m : MapId) (key element : Value)
  | mapClear (m : MapId)
  | method (v : Value) (name : String)
  | call (f : Value) (values : List Value) (receiver : Option Value)
  | addDefault (p : Prototype) (name : String) (v : Value)
  | outside (change : E → E)

namespace Operation

def dropped {α : Type} (step : Step E α) : Step E Unit := (fun _ => ()) <$> step

def plain (f : World E → World E) : Step E Unit := Step.change fun w => ((), f w)

def step (embedding : Embedding E) : Operation E → Step E Unit
  | newSpace parent => dropped (Step.newSpace parent)
  | bind space name v => dropped (Step.bindName space name v)
  | rebind space name v => dropped (Step.changeArena fun a => a.rebind space name v)
  | unbind space name => dropped (Step.changeArena fun a => a.unbind space name)
  | free space => dropped (Step.changeArena fun a => a.free space)
  | freeSubtree space => dropped (Step.changeArena fun a => a.freeSubtree space)
  | newBasic ty p mutable => plain fun w => (w.newBasic ty p mutable).2
  | newList ty => plain fun w => (w.newList ty).2
  | newSet ty => plain fun w => (w.newSet ty).2
  | newMap ty => plain fun w => (w.newMap ty).2
  | newEnum ty variant => plain fun w => (w.newEnum ty variant).2
  | newFunction ty callable => plain fun w => (w.newFunction ty callable).2
  | newCallable routine => plain fun w => (w.newCallable routine).2
  | newGraph nodes edges => plain fun w => (w.newGraph nodes edges).2
  | newPrototype ty internal => plain fun w => (w.newPrototype ty internal).2
  | newProperty ty b mutable => plain fun w => (w.newProperty ty b mutable).2
  | newAggregateProperty ty b parent translator mutable =>
      plain fun w => (w.newAggregateProperty ty b parent translator mutable).2
  | newField ty b => plain fun w => (w.newField ty b).2
  | newAggregate ty parent p => dropped (ScriptValues.newAggregate ty parent p)
  | newDefault ty parent => dropped (defaultFor ty parent)
  | encapsulate host ty schema translator parent =>
      dropped (ScriptValues.encapsulate embedding host ty schema translator parent)
  | shallowView v => plain fun w => (w.shallowView v).2
  | deepCopy v => dropped (ScriptValues.deepCopy v)
  | write v p => dropped (ScriptValues.write v p)
  | assign v u => dropped (ScriptValues.assign v u)
  | setDirty v => plain fun w => w.setDirty v
  | rehome v space => ScriptValues.rehome v space
  | memberSpace v => dropped (ScriptValues.memberSpace embedding v)
  | member v name => dropped (ScriptValues.member embedding v name)
  | release v => plain fun w => w.releaseTranslated v
  | listAdd l v => plain fun w => w.listAdd l v
  | listClear l => plain fun w => w.listClear l
  | setAdd s v => dropped (ScriptValues.setAdd s v)
  | setClear s => plain fun w => w.setClear s
  | mapAdd m key element => dropped (ScriptValues.mapAdd m key element)
  | mapClear m => plain fun w => w.mapClear m
  | method v name => plain fun w => ((w.method? v name).map Prod.snd).getD w
  | call f values receiver =>
      dropped (ScriptValues.call embedding f (.ofValues values) receiver)
  | addDefault p name v => plain fun w => (w.addDefault p name v).2
  | outside change => plain fun w => { w with outside := change w.outside }

def fills (w : World E) : Operation E → Container → Prop
  | listAdd l _, c | listClear l, c => c = .list l
  | setAdd s _, c | setClear s, c => c = .set s
  | mapAdd m _ _, c | mapClear m, c => c = .map m
  | write v _, c | assign v _, c => (w.backing v).container? = some c
  | call _ _ receiver, c => ∃ r, receiver = some r ∧ (w.backing r).container? = some c
  | _, _ => False

def rehomes (w : World E) : Operation E → Value → Prop
  | rehome v _, x => x = v
  | assign v u, x => x = v ∧ w.family v = .aggregate ∧ w.family u = .aggregate
  | _, _ => False

/-- The names that an operation may take away from what they stand for, and where. -/
def renames (w : World E) : Operation E → SpaceId → String → Prop
  | rebind space name _, id, other | unbind space name, id, other => id = space ∧ other = name
  | rehome _ space, id, name => id = space ∧ name = selfName
  | assign v u, id, name =>
      name = selfName ∧ w.family v = .aggregate ∧ (w.backing u).space? = some id
  | _, _, _ => False

/-- The deeds that an operation may do, when it starts from `w`. -/
def does (w : World E) (operation : Operation E) : Deed → Prop
  | .fill c => operation.fills w c
  | .view v => operation = shallowView v
  | .rehome v => operation.rehomes w v
  | .rename space name => operation.renames w space name

end Operation

/-- The world after a sequence of operations, whether they succeed or fail. -/
def World.after (embedding : Embedding E) (operations : List (Operation E)) (w : World E) :
    World E :=
  operations.foldl (fun w operation => (operation.step embedding w).2) w

/-- The world comes out of an initial one by operations. -/
def World.Reached (embedding : Embedding E) (w : World E) : Prop :=
  ∃ maxDepth outside operations, w = (World.initial maxDepth outside).after embedding operations

def World.Throughout (embedding : Embedding E) (allowed : World E → Operation E → Prop) :
    List (Operation E) → World E → Prop
  | [], _ => True
  | operation :: rest, w =>
      allowed w operation ∧ Throughout embedding allowed rest (operation.step embedding w).2

theorem World.after_append (embedding : Embedding E) (before later : List (Operation E))
    (w : World E) :
    w.after embedding (before ++ later) = (w.after embedding before).after embedding later :=
  List.foldl_append

theorem World.Reached.step {embedding : Embedding E} {w : World E} (reached : w.Reached embedding)
    (operation : Operation E) : (operation.step embedding w).2.Reached embedding := by
  obtain ⟨maxDepth, outside, operations, rfl⟩ := reached
  refine ⟨maxDepth, outside, operations ++ [operation], ?_⟩
  rw [after_append]
  rfl

theorem World.throughout_append {embedding : Embedding E} {allowed : World E → Operation E → Prop}
    {before later : List (Operation E)} {w : World E} :
    Throughout embedding allowed (before ++ later) w ↔
      Throughout embedding allowed before w ∧
        Throughout embedding allowed later (w.after embedding before) := by
  induction before generalizing w with
  | nil => exact (true_and _).symm ▸ Iff.rfl
  | cons operation rest ih =>
      rw [List.cons_append, Throughout, Throughout, ih, and_assoc]
      rfl

section Tracking

open Step

variable {P : Deed → Prop} {R : World E → World E → Prop} {embedding : Embedding E}

theorem mayAssign_of_does {w : World E} {v u : Value}
    (permitted : ∀ deed, (Operation.assign v u).does w deed → P deed) : w.MayAssign P v u where
  fills c behind := permitted (.fill c) behind
  moves p q own space held given := by
    have family : w.family v = .aggregate := by rw [World.family, held, Backing.family]
    have given' : w.family u = .aggregate := by rw [World.family, given, Backing.family]
    have there : (w.backing u).space? = some space := by rw [given, Backing.space?]
    exact ⟨permitted (.rehome v) ⟨rfl, family, given'⟩,
      permitted (.rename space selfName) ⟨rfl, family, there⟩⟩

/-- A relation that follows changes follows an operation too. The release of a single space is not
among the changes, since that may be the shared one. -/
theorem operation_follows (follows : Follows P R) (kept : embedding.Within R) (w : World E)
    (operation : Operation E) (permitted : ∀ deed, operation.does w deed → P deed)
    (released : ∀ space, operation = .free space → R w (w.withArena (w.arena.free space).2)) :
    R w (operation.step embedding w).2 := by
  cases operation with
  | newSpace parent => exact within_map _ (within_newSpace follows parent) w
  | bind space name v => exact within_map _ (within_bindName follows space name v) w
  | rebind space name v =>
      have renamed : P (.rename space name) := permitted _ ⟨rfl, rfl⟩
      exact within_map _ (within_changeArena follows _ (fun _ => .rebind space name v renamed)
        (fun _ => Arena.Rebinds.keepsShared (.rebind name v))) w
  | unbind space name =>
      have renamed : P (.rename space name) := permitted _ ⟨rfl, rfl⟩
      exact within_map _ (within_changeArena follows _ (fun _ => .unbind space name renamed)
        (fun _ => Arena.Rebinds.keepsShared (.unbind name))) w
  | free space => exact released space rfl
  | freeSubtree space =>
      exact within_map _ (within_changeArena follows _ (fun _ => .freeSubtree space)
        (fun a => a.keepsShared_freeSubtree space)) w
  | newBasic | newEnum | newFunction | newProperty | newAggregateProperty | newField =>
      exact follows.change (.addCell _ rfl) (.refl _)
  | newList ty => exact World.newList_within follows w ty
  | newSet ty => exact World.newSet_within follows w ty
  | newMap ty => exact World.newMap_within follows w ty
  | newCallable | newGraph => exact follows.change .freshIdentity (.refl _)
  | newPrototype ty internal => exact World.newPrototype_within follows w ty internal
  | newAggregate ty parent p => exact within_map _ (within_newAggregate follows ty parent p) w
  | newDefault ty parent => exact within_map _ (within_defaultFor follows ty parent) w
  | encapsulate host ty schema translator parent =>
      exact within_map _ (within_encapsulate follows kept host ty schema translator parent) w
  | shallowView v => exact World.shallowView_within follows w (permitted (.view v) rfl)
  | deepCopy v => exact within_map _ (within_deepCopy follows v) w
  | write v p =>
      rw [Operation.step, Operation.dropped, map_snd]
      exact write_within follows w (fun c behind => permitted (.fill c) behind) p
  | assign v u =>
      rw [Operation.step, Operation.dropped, map_snd]
      exact assign_within follows w (mayAssign_of_does permitted)
  | setDirty v => exact follows.change (.setDirty v) (.refl _)
  | rehome v space =>
      exact within_rehome follows (permitted (.rehome v) rfl)
        (permitted (.rename space selfName) ⟨rfl, rfl⟩) w
  | memberSpace v => exact within_map _ (within_memberSpace follows kept v) w
  | member v name => exact within_map _ (within_member follows kept v name) w
  | release v => exact World.releaseTranslated_within follows w v
  | listAdd l v => exact World.listAdd_within follows w (permitted (.fill (.list l)) rfl) v
  | listClear l => exact World.listClear_within follows w (permitted (.fill (.list l)) rfl)
  | setAdd s v =>
      rw [Operation.step, Operation.dropped, map_snd]
      exact setAdd_within follows w (permitted (.fill (.set s)) rfl) v
  | setClear s => exact World.setClear_within follows w (permitted (.fill (.set s)) rfl)
  | mapAdd m key element =>
      rw [Operation.step, Operation.dropped, map_snd]
      exact mapAdd_within follows w (permitted (.fill (.map m)) rfl) key element
  | mapClear m => exact World.mapClear_within follows w (permitted (.fill (.map m)) rfl)
  | method v name =>
      change R w (((w.method? v name).map Prod.snd).getD w)
      cases found : w.method? v name with
      | none => exact follows.refl w
      | some made => exact World.method?_within follows w v name found
  | call f values receiver =>
      rw [Operation.step, Operation.dropped, map_snd]
      exact call_within follows kept w f values
        (fun r same c behind => permitted (.fill c) ⟨r, same, behind⟩)
  | addDefault p name v => exact World.addDefault_within follows w p name v
  | outside change => exact follows.change (.setOutside _) (.refl _)

theorem operation_within (tracks : Tracks P R) (kept : embedding.Within R) (w : World E)
    (operation : Operation E) (permitted : ∀ deed, operation.does w deed → P deed) :
    R w (operation.step embedding w).2 :=
  operation_follows tracks.follows kept w operation permitted
    fun space _ => tracks.change (.moveArena (.free space))

/-- What tracks all changes holds between the start and the end of a run. -/
theorem after_within (tracks : Tracks Deed.any R) (kept : embedding.Within R)
    (operations : List (Operation E)) (w : World E) : R w (w.after embedding operations) := by
  induction operations generalizing w with
  | nil => exact tracks.refl w
  | cons operation rest ih =>
      exact tracks.trans (operation_within tracks kept w operation fun _ _ => trivial) (ih _)

/-- A relation that follows changes follows a run of operations that are allowed, if it goes along
with the releases of single spaces that are. -/
theorem throughout_follows (follows : Follows P R) (kept : embedding.Within R)
    {allowed : World E → Operation E → Prop}
    (permitted : ∀ w operation, allowed w operation → ∀ deed, operation.does w deed → P deed)
    (released : ∀ w space, allowed w (.free space) → R w (w.withArena (w.arena.free space).2))
    {operations : List (Operation E)} {w : World E}
    (throughout : World.Throughout embedding allowed operations w) :
    R w (w.after embedding operations) := by
  induction operations generalizing w with
  | nil => exact follows.refl w
  | cons operation rest ih =>
      have step : R w (operation.step embedding w).2 := by
        apply operation_follows follows kept w operation (permitted w operation throughout.1)
        rintro space rfl
        exact released w space throughout.1
      exact follows.trans step (ih throughout.2)

theorem throughout_within (tracks : Tracks P R) (kept : embedding.Within R)
    {allowed : World E → Operation E → Prop}
    (permitted : ∀ w operation, allowed w operation → ∀ deed, operation.does w deed → P deed)
    {operations : List (Operation E)} {w : World E}
    (throughout : World.Throughout embedding allowed operations w) :
    R w (w.after embedding operations) :=
  throughout_follows tracks.follows kept permitted
    (fun _ space _ => tracks.change (.moveArena (.free space))) throughout

end Tracking

end ScriptValues
