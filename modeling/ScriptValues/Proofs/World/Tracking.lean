import ScriptValues.Proofs.Copy.Allocation
import ScriptValues.Proofs.World.Fitting
import ScriptValues.Proofs.World.Outcome
import ScriptValues.Value.Prototype
import ScriptValues.Call.Native

/-! Every operation is a sequence of changes.

One statement for each operation, all of one form: a relation that tracks changes holds across the
operation. What a translator or routine of the embedding program does is handed in. -/

namespace ScriptValues

open Step World

variable {E α : Type} {P : Deed → Prop} {R : World E → World E → Prop}

/-- The embedding program keeps to a relation in all that it does. -/
structure Embedding.Within (embedding : Embedding E) (R : World E → World E → Prop) : Prop where
  translate : ∀ translator p parent, Step.Within R (embedding.translate translator p parent)
  routine : ∀ identity values receiver,
    Step.Within R (embedding.routine identity (.ofValues values) receiver)

/-- An embedding program that goes through the library keeps to all that tracks changes. -/
theorem Embedding.Within.follow {embedding : Embedding E}
    (kept : embedding.Within (World.Through P)) (tracks : Tracks P R) : embedding.Within R where
  translate translator p parent w := (kept.translate translator p parent w).follow tracks
  routine identity values receiver w := (kept.routine identity values receiver w).follow tracks

theorem SetBox.element_add (b : SetBox) (v : Value) (p : Payload) :
    (b.add v p).2.element = b.element := by
  rw [SetBox.add]
  split <;> rfl

theorem MapBox.types_add (b : MapBox) (key element : Value) (p : Payload) :
    (b.add key element p).2.key = b.key ∧ (b.add key element p).2.element = b.element := by
  rw [MapBox.add]
  split <;> exact ⟨rfl, rfl⟩

namespace World

/-! New values -/

theorem newBasics_within (follows : Follows P R) (w : World E) (ty : Ty) (ps : List Payload) :
    R w (w.newBasics ty ps).2 := by
  induction ps generalizing w with
  | nil => exact follows.refl w
  | cons p rest ih =>
      have made : R w (w.newBasic ty p).2 := follows.change (.addCell _ rfl) (.refl _)
      exact follows.trans made (ih (w.newBasic ty p).2)

theorem newList_within (follows : Follows P R) (w : World E) (ty : Ty) : R w (w.newList ty).2 :=
  follows.trans (follows.change (.addList _) (.refl _))
    (follows.change (.addPlain _ rfl rfl fun _ => fits_addList rfl (Ty.same_refl _)) (.refl _))

theorem newSet_within (follows : Follows P R) (w : World E) (ty : Ty) : R w (w.newSet ty).2 :=
  follows.trans (follows.change (.addSet _ (SetBox.records_new _).sound) (.refl _))
    (follows.change (.addPlain _ rfl rfl fun _ => fits_addSet rfl (Ty.same_refl _)) (.refl _))

theorem newMap_within (follows : Follows P R) (w : World E) (ty : Ty) : R w (w.newMap ty).2 :=
  follows.trans (follows.change (.addMap _ (MapBox.records_new _ _).sound) (.refl _))
    (follows.change (.addPlain _ rfl rfl fun _ =>
      fits_addMap rfl ⟨Ty.same_refl _, Ty.same_refl _⟩) (.refl _))

theorem newListOf_within (follows : Follows P R) (w : World E) (ty : Ty) (items : List Value) :
    R w (w.newListOf ty items).2 :=
  follows.trans (follows.change (.addList _) (.refl _))
    (follows.change (.addPlain _ rfl rfl fun _ => fits_addList rfl (Ty.same_refl _)) (.refl _))

theorem shallowView_within (follows : Follows P R) (w : World E) {v : Value}
    (permitted : P (.view v)) : R w (w.shallowView v).2 :=
  follows.change (.addCell _ rfl (fun _ own => ⟨v, permitted, own⟩) fun fitting => fitting v)
    (.refl _)

theorem newPrototype_within (follows : Follows P R) (w : World E) (ty : Ty) (internal : Option Ty) :
    R w (w.newPrototype ty internal).2 :=
  follows.trans (follows.change .addTemplate (.refl _)) (follows.change (.addCell _ rfl) (.refl _))

/-! Containers -/

theorem listAdd_within (follows : Follows P R) (w : World E) {l : ListId} (permitted : P (.fill (.list l)))
    (v : Value) : R w (w.listAdd l v) :=
  follows.change (.writeList l _ permitted rfl) (.refl _)

theorem listClear_within (follows : Follows P R) (w : World E) {l : ListId} (permitted : P (.fill (.list l))) :
    R w (w.listClear l) :=
  follows.change (.writeList l _ permitted rfl) (.refl _)

theorem setInsert_within (follows : Follows P R) (w : World E) {s : SetId} (permitted : P (.fill (.set s)))
    (v : Value) : R w (w.setInsert s v).2 :=
  follows.change
    (.writeSet s _ permitted (SetBox.element_add _ _ _) fun sound => sound.add v (w.payload v))
    (.refl _)

theorem setClear_within (follows : Follows P R) (w : World E) {s : SetId} (permitted : P (.fill (.set s))) :
    R w (w.setClear s) :=
  follows.change (.writeSet s _ permitted rfl fun _ => (SetBox.records_cleared _).sound) (.refl _)

theorem mapInsert_within (follows : Follows P R) (w : World E) {m : MapId} (permitted : P (.fill (.map m)))
    (key element : Value) : R w (w.mapInsert m key element).2 :=
  follows.change
    (.writeMap m _ permitted (MapBox.types_add _ _ _ _).1 (MapBox.types_add _ _ _ _).2
      fun sound => sound.add key element (w.payload key)) (.refl _)

theorem mapClear_within (follows : Follows P R) (w : World E) {m : MapId} (permitted : P (.fill (.map m))) :
    R w (w.mapClear m) :=
  follows.change (.writeMap m _ permitted rfl rfl fun _ => (MapBox.records_cleared _).sound)
    (.refl _)

theorem list_newBasics (w : World E) (ty : Ty) (ps : List Payload) (l : ListId) :
    (w.newBasics ty ps).2.list l = w.list l := by
  induction ps generalizing w with
  | nil => rfl
  | cons p rest ih => exact ih (w.newBasic ty p).2

theorem listRefill_within (follows : Follows P R) (w : World E) {l : ListId} (permitted : P (.fill (.list l)))
    (ps : List Payload) : R w (w.listRefill l ps) := by
  refine follows.trans (newBasics_within follows w _ ps)
    (follows.change (.writeList l _ permitted ?_) (.refl _))
  rw [list_newBasics]

def addFresh (s : SetId) (w : World E) (p : Payload) : World E :=
  let made := w.newBasic (w.set s).element p
  (made.2.setInsert s made.1).2

theorem setRefill_eq (w : World E) (s : SetId) (items : List Payload) :
    w.setRefill s items = items.foldl (addFresh s) (w.setClear s) := rfl

theorem setRefill_within (follows : Follows P R) (w : World E) {s : SetId} (permitted : P (.fill (.set s)))
    (ps : List Payload) : R w (w.setRefill s ps) := by
  rw [setRefill_eq]
  refine follows.trans (setClear_within follows w permitted)
    (follows.toComposes.foldl (fun u p => ?_) ps _)
  have made : R u (u.newBasic (u.set s).element p).2 := follows.change (.addCell _ rfl) (.refl _)
  exact follows.trans made (setInsert_within follows _ permitted _)

def addFreshEntry (m : MapId) (w : World E) (entry : Payload × Payload) : World E :=
  let key := w.newBasic (w.map m).key entry.1
  let element := key.2.newBasic (key.2.map m).element entry.2
  (element.2.mapInsert m key.1 element.1).2

theorem mapRefill_eq (w : World E) (m : MapId) (entries : List (Payload × Payload)) :
    w.mapRefill m entries = entries.foldl (addFreshEntry m) (w.mapClear m) := rfl

theorem mapRefill_within (follows : Follows P R) (w : World E) {m : MapId} (permitted : P (.fill (.map m)))
    (entries : List (Payload × Payload)) : R w (w.mapRefill m entries) := by
  rw [mapRefill_eq]
  refine follows.trans (mapClear_within follows w permitted)
    (follows.toComposes.foldl (fun u entry => ?_) entries _)
  have first : R u (u.newBasic (u.map m).key entry.1).2 :=
    follows.change (.addCell _ rfl) (.refl _)
  have second : ∀ v : World E, R v (v.newBasic (v.map m).element entry.2).2 :=
    fun v => follows.change (.addCell _ rfl) (.refl _)
  exact follows.trans (follows.trans first (second _)) (mapInsert_within follows _ permitted _ _)

/-! Writes -/

theorem writeHost_within (follows : Follows P R) (w : World E)
    (write : Payload → E → Except Refusal Unit × E) (p : Payload) :
    R w (w.writeHost write p).2 := by
  rw [writeHost]
  split
  · exact follows.change (.setOutside _) (.refl _)
  · exact follows.change (.setOutside _) (.refl _)

theorem store_within (follows : Follows P R) (w : World E) (v : Value) {b c : Backing E}
    (held : w.backing v = c) (family : b.family = c.family) (home : b.space? = c.space?)
    (mutable : (w.cell v).mutable = true) (fits : w.Fits { w.cell v with backing := b }) :
    R w (w.setBacking v b) := by
  refine follows.change (.setBacking v b ?_ (Or.inl mutable) (Or.inl ?_) fun _ => fits) (.refl _)
  · rw [family, World.family, held]
  · rw [home, held]

def MayFill (P : Deed → Prop) (w : World E) (v : Value) : Prop :=
  ∀ c, (w.backing v).container? = some c → P (.fill c)

theorem accept_within (follows : Follows P R) (w : World E) {v : Value} (permitted : w.MayFill P v)
    (p : Payload) (mutable : (w.cell v).mutable = true) : R w (w.accept v p).2 := by
  unfold accept
  unfold MayFill at permitted
  cases held : w.backing v with
  | absent => exact follows.refl w
  | basic q => exact store_within follows w v held rfl rfl mutable trivial
  | aggregate q space => exact store_within follows w v held rfl rfl mutable mutable
  | property b => exact writeHost_within follows w _ p
  | aggregateProperty b parent translator => exact writeHost_within follows w _ p
  | field b => exact writeHost_within follows w _ p
  | list l =>
      have here : P (.fill (.list l)) := permitted _ (by rw [held]; rfl)
      cases p <;> first
        | exact listClear_within follows w here
        | exact listRefill_within follows w here _
        | exact follows.refl w
  | set t =>
      have here : P (.fill (.set t)) := permitted _ (by rw [held]; rfl)
      cases p <;> first
        | exact setClear_within follows w here
        | exact setRefill_within follows w here _
        | exact follows.refl w
  | map m =>
      have here : P (.fill (.map m)) := permitted _ (by rw [held]; rfl)
      cases p <;> first
        | exact mapClear_within follows w here
        | exact mapRefill_within follows w here _
        | exact follows.refl w
  | enum variant =>
      cases p <;> first
        | exact store_within follows w v held rfl rfl mutable trivial
        | exact follows.refl w
  | function callable =>
      cases p <;> first
        | exact store_within follows w v held rfl rfl mutable trivial
        | exact follows.refl w
  | prototype q =>
      cases p <;> first
        | exact store_within follows w v held rfl rfl mutable trivial
        | exact follows.refl w

theorem addDefault_within (follows : Follows P R) (w : World E) (p : Prototype) (name : String)
    (v : Value) : R w (w.addDefault p name v).2 := by
  rw [addDefault]
  split
  · exact follows.change (.writeTemplate _ _) (.refl _)
  · exact follows.refl w

theorem method?_within (follows : Follows P R) (w : World E) (v : Value) (name : String)
    {f : Value} {u : World E} (found : w.method? v name = some (f, u)) : R w u := by
  obtain ⟨method, _, made⟩ := Option.map_eq_some_iff.mp found
  have known : u = ((w.newCallable (.method method)).2.newFunction
      (Ty.methodSignature ((w.ty v).key?.getD .noType) ((w.ty v).element?.getD .noType) method)
      (some (w.newCallable (.method method)).1)).2 := (congrArg Prod.snd made).symm
  rw [known]
  exact follows.trans (follows.change .freshIdentity (.refl _))
    (follows.change (.addCell _ rfl) (.refl _))

/-! Translations -/

theorem releaseSubtree_within (follows : Follows P R) (w : World E) (space : SpaceId) :
    R w (w.releaseSubtree space) :=
  follows.change (.moveArena (.freeSubtree space)) (w.arena.keepsShared_freeSubtree space)

theorem recordTranslated_within (follows : Follows P R) (w : World E) (v : Value) (space : SpaceId) :
    R w (w.recordTranslated v space) := by
  rw [recordTranslated]
  refine follows.trans ?_ (follows.change (.setTranslated v _) (.refl _))
  split
  · exact follows.refl w
  · split
    · exact follows.refl w
    · exact releaseSubtree_within follows w _

theorem releaseTranslated_within (follows : Follows P R) (w : World E) (v : Value) :
    R w (w.releaseTranslated v) := by
  rw [releaseTranslated]
  split
  · exact follows.refl w
  · exact follows.trans (follows.change (.setTranslated v none) (.refl _))
      (releaseSubtree_within follows _ _)

end World

theorem within_newAggregate (follows : Follows P R) (ty : Ty) (parent : SpaceId) (p : Payload) :
    Within R (newAggregate ty parent p : Step E (Value × SpaceId)) := by
  intro w
  rw [newAggregate_apply]
  rcases made : w.arena.newSpace (some parent) with _ | ⟨space, a⟩
  · exact follows.refl w
  · exact follows.change (.addAggregate _ rfl rfl made fun _ => rfl)
      (Arena.keepsShared_newSpace_bind made selfName _)

/-! Writes -/

theorem write_within (follows : Follows P R) (w : World E) {v : Value} (permitted : w.MayFill P v)
    (p : Payload) : R w (write v p w).2 := by
  rw [write, bind_apply, get_apply]
  by_cases mutable : (w.cell v).mutable = true
  · have accepted := World.accept_within follows w permitted p mutable
    simp only [mutable, if_true]
    rcases answer : w.accept v p with ⟨fault | accepts, u⟩
    · rw [answer] at accepted
      exact follows.refl w
    · rw [answer] at accepted
      simp only [bind_apply, set_apply, pure_apply]
      cases accepts with
      | false => exact accepted
      | true => exact follows.trans accepted (follows.change (.setDirty v) (.refl _))
  · simp only [mutable]
    exact follows.refl w

theorem within_rehome (follows : Follows P R) {v : Value} {space : SpaceId} (moving : P (.rehome v))
    (naming : P (.rename space selfName)) : Within R (rehome v space : Step E Unit) := by
  apply within_get_bind
  intro w
  by_cases live : w.arena.contains space = true
  · simp only [live, if_true]
    cases held : w.backing v with
    | aggregate p old =>
        have family : w.family v = .aggregate := by rw [World.family, held, Backing.family]
        have moved : R w (w.setBacking v (.aggregate p space)) :=
          follows.change (.setBacking v _ (by rw [family, Backing.family]) (Or.inr family)
            (Or.inr moving) fun fitting => fitting.mutable held) (.refl _)
        apply follows.trans moved
        apply follows.trans (follows.change (.moveArena (.unbind space selfName naming))
          (Arena.Rebinds.keepsShared (.unbind selfName)))
        exact follows.change (.moveArena (.bind space selfName v))
          (Arena.Rebinds.keepsShared (.bind selfName v))
    | _ => exact follows.refl w
  · simp only [live]
    exact follows.refl w

theorem backing_rehome {v : Value} {space : SpaceId} {w u : World E}
    (moved : rehome v space w = (.ok (), u)) : u.family v = .aggregate := by
  rw [rehome] at moved
  simp only [bind_apply, get_apply] at moved
  by_cases live : w.arena.contains space = true
  · simp only [live, if_true] at moved
    cases held : w.backing v with
    | aggregate p old =>
        have known : v.index < w.cells.size := World.present_of_backing (by rw [held]; nofun)
        rw [held] at moved
        cases moved
        simp only [World.family, World.backing, World.cell, World.withArena, World.setBacking,
          World.writeCell, Heap.read_write_self _ _ known, Backing.family]
    | _ =>
        rw [held] at moved
        cases moved
  · simp only [live] at moved
    cases moved

theorem family_of_backing {w : World E} {v : Value} {b : Backing E} (held : w.backing v = b) :
    w.family v = b.family := by
  rw [World.family, held]

theorem share_within (follows : Follows P R) (w : World E) {v u : Value} {b c : Backing E}
    (held : w.backing v = b) (given : w.backing u = c) (family : c.family = b.family)
    (homeless : c.space? = none ∧ b.space? = none) (mutable : (w.cell v).mutable = true)
    (fits : w.Fitting → w.Fits { w.cell v with backing := c }) :
    R w ((w.setBacking v (w.backing u)).setDirty v) := by
  rw [given]
  refine follows.trans
    (follows.change (.setBacking v c ?_ (Or.inl mutable) (Or.inl ?_) fits) (.refl _))
    (follows.change (.setDirty v) (.refl _))
  · rw [family_of_backing held, family]
  · rw [held, homeless.1, homeless.2]

structure World.MayAssign (P : Deed → Prop) (w : World E) (v u : Value) : Prop where
  fills : w.MayFill P v
  moves : ∀ p q own space, w.backing v = .aggregate p own → w.backing u = .aggregate q space →
    P (.rehome v) ∧ P (.rename space selfName)

theorem assign_within (follows : Follows P R) (w : World E) {v u : Value}
    (permitted : w.MayAssign P v u) : R w (assign v u w).2 := by
  rw [assign, bind_apply, get_apply]
  by_cases same : (w.ty v).same (w.ty u) = true
  · have typed : ((w.ty u).element?.getD .noType).same ((w.ty v).element?.getD .noType) = true :=
      Ty.same_element (Ty.same_symm same)
    have keyed : ((w.ty u).key?.getD .noType).same ((w.ty v).key?.getD .noType) = true :=
      Ty.same_key (Ty.same_symm same)
    simp only [same, if_true]
    by_cases self : v = u
    · simp only [self, if_true]
      exact follows.refl w
    · by_cases mutable : (w.cell v).mutable = true
      · simp only [self, if_false, mutable, if_true]
        generalize held : w.backing v = b
        generalize given : w.backing u = c
        split
        · rename_i p space
          obtain ⟨moving, naming⟩ := permitted.moves _ p _ space held given
          apply bind_within follows (within_rehome follows moving naming w)
          intro _ x moved
          have family := backing_rehome moved
          have stored : R x (x.setBacking v (.aggregate p space)) :=
            follows.change (.setBacking v _ (by rw [family, Backing.family]) (Or.inr family)
              (Or.inr moving) fun fitting => fitting.mutable_of_family family) (.refl _)
          exact follows.trans stored (follows.change (.setDirty v) (.refl _))
        · rename_i l
          have given : w.backing u = .list l := given
          refine share_within follows w held given rfl ⟨rfl, rfl⟩ mutable fun fitting => ?_
          exact ⟨(fitting.list given).1, Ty.same_trans (fitting.list given).2 typed⟩
        · rename_i s
          refine share_within follows w held given rfl ⟨rfl, rfl⟩ mutable fun fitting => ?_
          exact ⟨(fitting.set given).1, Ty.same_trans (fitting.set given).2 typed⟩
        · rename_i m
          refine share_within follows w held given rfl ⟨rfl, rfl⟩ mutable fun fitting => ?_
          obtain ⟨there, key, element⟩ := fitting.map given
          exact ⟨there, Ty.same_trans key keyed, Ty.same_trans element typed⟩
        · exact share_within follows w held given rfl ⟨rfl, rfl⟩ mutable fun _ => trivial
        · exact write_within follows w permitted.fills _
      · simp only [self, mutable, if_false]
        exact follows.refl w
  · simp only [same]
    exact follows.refl w

/-! Copies -/

section Typed

variable {copy : Value → Step E Value} {v : Value} {u w : World E}

theorem copyItems_element {items : List Value} {box made : SetBox}
    (done : copyItems copy items box w = (.ok made, u)) : made.element = box.element := by
  induction items generalizing box w with
  | nil =>
      cases done
      rfl
  | cons item rest ih =>
      obtain ⟨c, x, _, done⟩ := ok_of_bind done
      exact (ih done).trans (SetBox.element_add box c (x.payload c))

theorem copyEntries_types {entries : List (Value × Value)} {box made : MapBox}
    (done : copyEntries copy entries box w = (.ok made, u)) :
    made.key = box.key ∧ made.element = box.element := by
  induction entries generalizing box w with
  | nil =>
      cases done
      exact ⟨rfl, rfl⟩
  | cons entry rest ih =>
      obtain ⟨key, x, _, done⟩ := ok_of_bind done
      obtain ⟨element, y, _, done⟩ := ok_of_bind done
      have added := MapBox.types_add box key element (y.payload key)
      exact ⟨(ih done).1.trans added.1, (ih done).2.trans added.2⟩

theorem typed_copiedList {l : ListId} {items : List Value} (held : w.backing v = .list l)
    (done : (w.list l).items.mapM copy w = (.ok items, u)) (kept : w.Keeps u)
    (fitting : (u.addList { w.list l with items }).2.Fitting) :
    (w.list l).element.same
      (((u.addList { w.list l with items }).2.ty v).element?.getD .noType) = true := by
  have known : v.index < w.cells.size := World.present_of_backing (by rw [held]; nofun)
  have typed := (fitting.list (v := v) (l := l) ((kept.backing known).trans held)).2
  have same : ((u.addList { w.list l with items }).2.list l).element = (w.list l).element := by
    refine kept.lists.read_push ListBox.element (fun beyond => ?_) rfl
    have vacant : (w.list l).items = [] := congrArg ListBox.items (Heap.read_beyond w.lists beyond)
    rw [vacant, List.mapM_nil] at done
    cases done
    rfl
  exact same ▸ typed

theorem typed_copiedSet {s : SetId} {box : SetBox} (held : w.backing v = .set s)
    (done : copyItems copy (w.set s).items (w.set s).cleared w = (.ok box, u)) (kept : w.Keeps u)
    (fitting : (u.addSet box).2.Fitting) :
    box.element.same (((u.addSet box).2.ty v).element?.getD .noType) = true := by
  have known : v.index < w.cells.size := World.present_of_backing (by rw [held]; nofun)
  have typed := (fitting.set (v := v) (s := s) ((kept.backing known).trans held)).2
  have element : box.element = (w.set s).element := (copyItems_element done).trans rfl
  have same : ((u.addSet box).2.set s).element = (w.set s).element := by
    refine kept.sets.read_push SetBox.element (fun beyond => ?_) element
    have vacant : (w.set s).items = [] := congrArg SetBox.items (Heap.read_beyond w.sets beyond)
    rw [vacant] at done
    cases done
    rfl
  rw [element]
  exact same ▸ typed

theorem typed_copiedMap {m : MapId} {box : MapBox} (held : w.backing v = .map m)
    (done : copyEntries copy (w.map m).entries (w.map m).cleared w = (.ok box, u))
    (kept : w.Keeps u) (fitting : (u.addMap box).2.Fitting) :
    box.key.same (((u.addMap box).2.ty v).key?.getD .noType) = true ∧
      box.element.same (((u.addMap box).2.ty v).element?.getD .noType) = true := by
  have known : v.index < w.cells.size := World.present_of_backing (by rw [held]; nofun)
  have typed := (fitting.map (v := v) (m := m) ((kept.backing known).trans held)).2
  have types : box.key = (w.map m).cleared.key ∧ box.element = (w.map m).cleared.element :=
    copyEntries_types done
  have beyond : w.maps.size ≤ m.index → u.maps = w.maps := by
    intro beyond
    have vacant : (w.map m).entries = [] := congrArg MapBox.entries (Heap.read_beyond w.maps beyond)
    rw [vacant] at done
    cases done
    rfl
  have key : ((u.addMap box).2.map m).key = (w.map m).key :=
    kept.maps.read_push MapBox.key beyond types.1
  have element : ((u.addMap box).2.map m).element = (w.map m).element :=
    kept.maps.read_push MapBox.element beyond types.2
  rw [key, element] at typed
  rw [types.1, types.2]
  exact typed

end Typed

theorem within_deepCopyWithin (follows : Follows P R) (bound : Nat) (v : Value) :
    Within R (deepCopyWithin bound v : Step E Value) := by
  induction bound generalizing v with
  | zero => exact within_pure follows v
  | succ bound ih =>
      intro w
      cases held : w.backing v with
      | absent =>
          rw [deepCopyWithin_absent held]
          exact follows.refl w
      | aggregate p space =>
          rw [deepCopyWithin_aggregate held, newSpace]
          rcases made : w.arena.newSpace ((w.arena.space? space).bind (·.parent)) with _ | ⟨id, a⟩
          · exact follows.refl w
          · have copied : R w ((w.withArena a).duplicateInto v p id).2 :=
              follows.change (.addAggregate _ rfl rfl made fun fitting => fitting.mutable held)
                (Arena.keepsShared_newSpace_bind made selfName _)
            have filled := within_copyMembers follows (within_bindName follows id · ·) ih
              (w.arena.bindings space).rows
              ((w.withArena a).duplicateInto v p id).2
            dsimp only
            rcases done : copyMembers (deepCopyWithin bound) id (w.arena.bindings space).rows
              ((w.withArena a).duplicateInto v p id).2 with ⟨_ | _, x⟩
            · exact follows.trans copied (congrArg Prod.snd done ▸ filled)
            · exact follows.trans copied (congrArg Prod.snd done ▸ filled)
      | list l =>
          have copied := within_mapM follows ih (w.list l).items w
          have allocated := within_mapM composes_allocates (deepCopyWithin_allocates bound)
            (w.list l).items w
          rw [deepCopyWithin_list held]
          rcases done : (w.list l).items.mapM (deepCopyWithin bound) w with ⟨_ | items, u⟩
          · rw [done] at copied
            exact copied
          · rw [done] at copied allocated
            refine follows.trans (follows.trans copied (follows.change (.addList _) (.refl _)))
              (follows.change (.addPlain _ rfl rfl fun fitting => fits_addList rfl ?_) (.refl _))
            exact typed_copiedList held done allocated.keeps fitting
      | set s =>
          have copied := within_copyItems follows ih (w.set s).items (w.set s).cleared w
          have allocated := within_copyItems composes_allocates (deepCopyWithin_allocates bound)
            (w.set s).items (w.set s).cleared w
          rw [deepCopyWithin_set held]
          rcases done : copyItems (deepCopyWithin bound) (w.set s).items (w.set s).cleared w
            with ⟨_ | box, u⟩
          · rw [done] at copied
            exact copied
          · rw [done] at copied allocated
            have sound : box.Sound := copyItems_sound (SetBox.records_cleared _).sound done
            refine follows.trans (follows.trans copied (follows.change (.addSet _ sound) (.refl _)))
              (follows.change (.addPlain _ rfl rfl fun fitting => fits_addSet rfl ?_) (.refl _))
            exact typed_copiedSet held done allocated.keeps fitting
      | map m =>
          have copied := within_copyEntries follows ih (w.map m).entries (w.map m).cleared w
          have allocated := within_copyEntries composes_allocates (deepCopyWithin_allocates bound)
            (w.map m).entries (w.map m).cleared w
          rw [deepCopyWithin_map held]
          rcases done : copyEntries (deepCopyWithin bound) (w.map m).entries (w.map m).cleared w
            with ⟨_ | box, u⟩
          · rw [done] at copied
            exact copied
          · rw [done] at copied allocated
            have sound : box.Sound := copyEntries_sound (MapBox.records_cleared _).sound done
            refine follows.trans (follows.trans copied (follows.change (.addMap _ sound) (.refl _)))
              (follows.change (.addPlain _ rfl rfl fun fitting => fits_addMap rfl ?_) (.refl _))
            exact typed_copiedMap held done allocated.keeps fitting
      | _ =>
          rw [deepCopyWithin_plain (by rw [held]; rfl), held]
          exact follows.change (.addPlain _ rfl rfl fun _ => trivial) (.refl _)

theorem within_deepCopy (follows : Follows P R) (v : Value) :
    Within R (deepCopy v : Step E Value) :=
  within_get_bind (fun w => within_deepCopyWithin follows w.walkBound v w)

/-! Defaults -/

theorem defaultPayload_within (follows : Follows P R) (w : World E) (ty : Ty) :
    R w (defaultPayload w ty).2 := by
  unfold defaultPayload
  split
  case h_4 => exact follows.change .freshIdentity (.refl _)
  all_goals exact follows.refl w

mutual

theorem within_defaultFor (follows : Follows P R) (ty : Ty) (parent : SpaceId) :
    Within R (defaultFor ty parent : Step E Value) := by
  cases ty with
  | noType =>
      rw [defaultFor]
      exact within_pure follows _
  | scalar s =>
      rw [defaultFor]
      refine within_change _ (fun w => ?_)
      exact follows.trans (defaultPayload_within follows w _)
        (follows.change (.addCell _ rfl) (.refl _))
  | aggregate name members adapted =>
      cases adapted with
      | true =>
          rw [defaultFor]
          apply within_bind follows (within_newAggregate follows _ parent _)
          intro made
          exact within_pure follows made.1
      | false =>
          intro w
          have made := within_newAggregate follows (.aggregate name members false) parent .null w
          rw [defaultFor_aggregate]
          generalize newAggregate _ _ _ w = answer at made ⊢
          rcases answer with ⟨_ | ⟨v, space⟩, u⟩
          · exact made
          · have bound := within_bindDefaults follows members space u
            dsimp only
            generalize bindDefaults members space u = outcome at bound ⊢
            rcases outcome with ⟨_ | _, x⟩
            · apply follows.trans (follows.trans made bound)
              exact follows.change (.moveArena (.freeSubtree space))
                (x.arena.keepsShared_freeSubtree space)
            · exact follows.trans made bound
  | list element =>
      rw [defaultFor]
      exact within_change _ (fun w => World.newList_within follows w _)
  | set element =>
      rw [defaultFor]
      exact within_change _ (fun w => World.newSet_within follows w _)
  | map key element =>
      rw [defaultFor]
      exact within_change _ (fun w => World.newMap_within follows w _)
  | function parameters result =>
      rw [defaultFor]
      exact within_change _ (fun w => follows.change (.addCell _ rfl) (.refl _))
  | enum definition =>
      rw [defaultFor]
      exact within_change _ (fun w => follows.change (.addCell _ rfl) (.refl _))
  | prototype kind =>
      rw [defaultFor]
      exact within_change _ (fun w => World.newPrototype_within follows w _ _)

theorem within_bindDefaults (follows : Follows P R) (members : List Member) (space : SpaceId) :
    Within R (bindDefaults members space : Step E Unit) := by
  cases members with
  | nil =>
      rw [bindDefaults]
      exact within_pure follows ()
  | cons member rest =>
      obtain ⟨name, ty, kind⟩ := member
      rw [bindDefaults]
      apply within_bind follows (within_defaultFor follows ty space)
      intro v
      apply within_bind follows (within_bindName follows space name v)
      intro _
      exact within_bindDefaults follows rest space

end

/-! Member spaces -/

theorem within_memberSpaceWithin (follows : Follows P R) {embedding : Embedding E}
    (kept : embedding.Within R) (bound : Nat) (v : Value) :
    Within R (memberSpaceWithin embedding bound v) := by
  induction bound generalizing v with
  | zero => exact within_throw follows _
  | succ bound ih =>
      intro w
      cases held : w.backing v with
      | absent =>
          simp only [memberSpaceWithin, bind_apply, get_apply, held]
          exact follows.refl w
      | aggregate p space =>
          simp only [memberSpaceWithin, bind_apply, get_apply, held]
          exact follows.refl w
      | aggregateProperty b parent translator =>
          have made := kept.translate translator (b.read w.outside) parent w
          rw [memberSpaceWithin_aggregateProperty embedding bound held]
          split
          · exact World.recordTranslated_within follows w v _
          · generalize embedding.translate _ _ parent w = answer at made ⊢
            rcases answer with ⟨_ | t, u⟩
            · exact made
            · have reached := ih t u
              dsimp only
              generalize memberSpaceWithin embedding bound t u = outcome at reached ⊢
              rcases outcome with ⟨_ | space, x⟩
              · exact follows.trans made reached
              · apply follows.trans (follows.trans made reached)
                exact World.recordTranslated_within follows x v space
      | _ =>
          simp only [memberSpaceWithin, bind_apply, get_apply, held]
          exact within_changeArena follows _ (fun _ => .lend v) (fun a => a.keepsShared_lend v) w

theorem within_memberSpace (follows : Follows P R) {embedding : Embedding E}
    (kept : embedding.Within R) (v : Value) : Within R (memberSpace embedding v) :=
  within_get_bind (fun w => within_memberSpaceWithin follows kept w.walkBound v w)

theorem within_member (follows : Follows P R) {embedding : Embedding E} (kept : embedding.Within R)
    (v : Value) (name : String) : Within R (member embedding v name) :=
  within_bind follows (within_memberSpace follows kept v) (fun _ => within_look follows _)

/-! Host objects as aggregates -/

theorem within_exposedMember (follows : Follows P R) {embedding : Embedding E}
    (kept : embedding.Within R) (schema : Schema E) (translator : TranslatorId) (host : HostId)
    (space : SpaceId) (m : Member) :
    Within R (exposedMember embedding schema translator host space m) := by
  rw [exposedMember]
  cases m.kind with
  | field =>
      dsimp only
      cases schema.field? m.name with
      | none => exact within_pure follows none
      | some accessor =>
          dsimp only
          cases m.ty.isAggregate with
          | false =>
              exact within_map _ (within_change _ fun _ => follows.change (.addCell _ rfl) (.refl _))
          | true =>
              apply within_get_bind
              intro w
              by_cases null : ((⟨accessor, host⟩ : Binding E).readAlways w.outside).isNull = true
              · simp only [null, if_true]
                exact follows.refl w
              · simp only [null]
                exact within_map _ (kept.translate translator _ space) w
  | property =>
      dsimp only
      cases schema.property? m.name with
      | none => exact within_pure follows none
      | some accessor =>
          refine within_map _ (within_change _ fun w => ?_)
          cases m.ty.isAggregate with
          | true => exact follows.change (.addCell _ rfl) (.refl _)
          | false => exact follows.change (.addCell _ rfl) (.refl _)

theorem within_exposeMembers (follows : Follows P R) {embedding : Embedding E}
    (kept : embedding.Within R) (schema : Schema E) (translator : TranslatorId) (host : HostId)
    (space : SpaceId) (members : List Member) :
    Within R (exposeMembers embedding schema translator host space members) := by
  induction members with
  | nil => exact within_pure follows ()
  | cons m rest ih =>
      refine within_bind follows
        (within_exposedMember follows kept schema translator host space m) (fun exposed => ?_)
      cases exposed with
      | none => exact within_bind follows (within_pure follows ()) (fun _ => ih)
      | some v =>
          exact within_bind follows
            (within_bind follows (within_bindName follows space m.name v)
              (fun _ => within_pure follows ())) (fun _ => ih)

theorem within_encapsulate (follows : Follows P R) {embedding : Embedding E}
    (kept : embedding.Within R) (host : HostId) (ty : Ty) (schema : Schema E)
    (translator : TranslatorId) (parent : SpaceId) :
    Within R (encapsulate embedding host ty schema translator parent) := by
  rw [encapsulate]
  cases ty.aggregate? with
  | none => exact within_throw follows _
  | some definition =>
      apply within_bind follows (within_newAggregate follows ty parent _)
      intro made
      refine within_bind follows
        (within_exposeMembers follows kept schema translator host made.2 _) (fun _ => ?_)
      exact within_pure follows made.1

/-! Calls -/

theorem setAdd_within (follows : Follows P R) (w : World E) {s : SetId} (permitted : P (.fill (.set s)))
    (v : Value) : R w (setAdd s v w).2 := by
  rw [setAdd_apply]
  split
  · exact follows.refl w
  · exact World.setInsert_within follows w permitted v

theorem mapAdd_within (follows : Follows P R) (w : World E) {m : MapId} (permitted : P (.fill (.map m)))
    (key element : Value) : R w (mapAdd m key element w).2 := by
  rw [mapAdd_apply]
  split
  · exact follows.refl w
  · exact World.mapInsert_within follows w permitted key element

theorem onList_within (follows : Follows P R) (w : World E) {receiver : Value}
    (permitted : w.MayFill P receiver) {body : ListId → Step E Value}
    (each : ∀ l, P (.fill (.list l)) → R w (body l w).2) : R w (onList receiver body w).2 := by
  rw [onList_apply]
  cases found : w.list? receiver with
  | none => exact follows.refl w
  | some l => exact each l (permitted _ (by rw [World.backing_of_list? found]; rfl))

theorem onSet_within (follows : Follows P R) (w : World E) {receiver : Value}
    (permitted : w.MayFill P receiver) {body : SetId → Step E Value}
    (each : ∀ s, P (.fill (.set s)) → R w (body s w).2) : R w (onSet receiver body w).2 := by
  rw [onSet_apply]
  cases found : w.set? receiver with
  | none => exact follows.refl w
  | some s => exact each s (permitted _ (by rw [World.backing_of_set? found]; rfl))

theorem onMap_within (follows : Follows P R) (w : World E) {receiver : Value}
    (permitted : w.MayFill P receiver) {body : MapId → Step E Value}
    (each : ∀ m, P (.fill (.map m)) → R w (body m w).2) : R w (onMap receiver body w).2 := by
  rw [onMap_apply]
  cases found : w.map? receiver with
  | none => exact follows.refl w
  | some m => exact each m (permitted _ (by rw [World.backing_of_map? found]; rfl))

theorem newBool_within (follows : Follows P R) (w : World E) (b : Bool) : R w (w.newBool b).2 :=
  follows.change (.addCell _ rfl) (.refl _)

theorem sizeValue_within (follows : Follows P R) (w : World E) (n : Nat) : R w (w.sizeValue n).2 :=
  follows.change (.addCell _ rfl) (.refl _)

theorem answered_within (follows : Follows P R) (add : Step E Bool) (w : World E) :
    R (add w).2 ((add >>= fun answer => change fun u : World E => u.newBool answer) w).2 := by
  rw [bind_apply]
  rcases add w with ⟨_ | answer, u⟩
  · exact follows.refl u
  · exact newBool_within follows u answer

theorem run_within (follows : Follows P R) (w : World E) (method : Method) {receiver : Value}
    (permitted : w.MayFill P receiver) (arguments : List Value) :
    R w (method.run receiver arguments w).2 := by
  cases method with
  | listAdd =>
      exact onList_within follows w permitted (fun l here => World.listAdd_within follows w here _)
  | listSize => exact onList_within follows w permitted (fun l _ => sizeValue_within follows w _)
  | listGet => exact onList_within follows w permitted (fun l _ => follows.refl w)
  | listClear =>
      exact onList_within follows w permitted (fun l here => World.listClear_within follows w here)
  | setAdd =>
      refine onSet_within follows w permitted fun s here => ?_
      exact follows.trans (setAdd_within follows w here _) (answered_within follows _ w)
  | setSize => exact onSet_within follows w permitted (fun s _ => sizeValue_within follows w _)
  | setContains => exact onSet_within follows w permitted (fun s _ => newBool_within follows w _)
  | setClear =>
      exact onSet_within follows w permitted (fun s here => World.setClear_within follows w here)
  | mapAdd =>
      refine onMap_within follows w permitted fun m here => ?_
      exact follows.trans (mapAdd_within follows w here _ _) (answered_within follows _ w)
  | mapGet => exact onMap_within follows w permitted (fun m _ => follows.refl w)
  | mapSize => exact onMap_within follows w permitted (fun m _ => sizeValue_within follows w _)
  | mapKeys =>
      exact onMap_within follows w permitted (fun m _ => World.newListOf_within follows w _ _)
  | mapElements =>
      exact onMap_within follows w permitted (fun m _ => World.newListOf_within follows w _ _)
  | mapClear =>
      exact onMap_within follows w permitted (fun m here => World.mapClear_within follows w here)

theorem within_evaluateAll (composes : Composes R) {context : CallContext E}
    (each : ∀ i, Within R (context.argument i)) : Within R context.evaluateAll :=
  within_mapM composes each _

theorem within_nativeCall (composes : Composes R) (native : Native E) {context : CallContext E}
    (each : ∀ i, Within R (context.argument i))
    (body : ∀ receiver arguments, Within R (native.body receiver arguments))
    (receiver : Option Value) : Within R (native.call context receiver) := by
  unfold Native.call
  by_cases count : context.argumentCount = native.arity
  · simp only [count, if_true]
    cases receiver with
    | none => exact within_throw composes _
    | some receiver =>
        exact within_bind composes (within_evaluateAll composes each) (fun _ => body receiver _)
  · simp only [count, if_false]
    exact within_throw composes _

theorem within_ofValues (composes : Composes R) (values : List Value) (i : Nat) :
    Within R ((CallContext.ofValues values : CallContext E).argument i) :=
  within_pure composes _

theorem call_within (follows : Follows P R) {embedding : Embedding E} (kept : embedding.Within R)
    (w : World E) (f : Value) (values : List Value) {receiver : Option Value}
    (permitted : ∀ r, receiver = some r → w.MayFill P r) :
    R w (call embedding f (.ofValues values) receiver w).2 := by
  rw [call_apply]
  cases w.callable? f with
  | none => exact follows.refl w
  | some callable =>
      dsimp only
      cases callable.routine with
      | external name => exact kept.routine callable.identity values receiver w
      | method method =>
          cases receiver with
          | none =>
              dsimp only
              rw [nativeCall_missing]
              exact follows.refl w
          | some r =>
              dsimp only
              rw [nativeCall_ofValues]
              split
              · exact run_within follows w method (permitted r rfl) values
              · exact follows.refl w

end ScriptValues
