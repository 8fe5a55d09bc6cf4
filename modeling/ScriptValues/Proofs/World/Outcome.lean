import ScriptValues.Call.Native
import ScriptValues.Value.DeepCopy
import ScriptValues.Value.Default
import ScriptValues.Value.Writing
import ScriptValues.Host.Encapsulation

/-! Outcomes of the larger operations, as equations on the world that they start from. -/

namespace ScriptValues

variable {E : Type}

theorem newAggregate_apply (ty : Ty) (parent : SpaceId) (p : Payload) (w : World E) :
    newAggregate ty parent p w =
      match w.arena.newSpace (some parent) with
      | .error fault => (.error fault, w)
      | .ok (space, a) =>
          let (v, u) := (w.withArena a).addCell
            { ty, mutable := true, backing := .aggregate p space }
          (.ok (v, space), u.withArena (u.arena.bind space selfName v).2) := by
  rw [newAggregate, Step.bind_apply, Step.newSpace]
  rcases w.arena.newSpace (some parent) with fault | ⟨space, a⟩
  · rfl
  · rfl

theorem defaultFor_aggregate (name : String) (members : List Member) (parent : SpaceId)
    (w : World E) :
    defaultFor (.aggregate name members false) parent w =
      match newAggregate (.aggregate name members false) parent .null w with
      | (.error fault, u) => (.error fault, u)
      | (.ok (v, space), u) =>
          match bindDefaults members space u with
          | (.ok _, x) => (.ok v, x)
          | (.error fault, x) => (.error fault, x.withArena (x.arena.freeSubtree space).2) := by
  rw [defaultFor, Step.bind_apply]
  rcases newAggregate (.aggregate name members false) parent .null w with ⟨_ | ⟨v, space⟩, u⟩
  · rfl
  · simp only [Bool.false_eq_true, if_false, Step.bind_apply, Step.tryCatch_apply]
    rcases done : bindDefaults members space u with ⟨_ | _, x⟩
    · rfl
    · rfl

theorem encapsulate_aggregate (embedding : Embedding E) (host : HostId) {ty : Ty}
    {definition : AggregateType} (known : ty.aggregate? = some definition) (schema : Schema E)
    (translator : TranslatorId) (parent : SpaceId) (w : World E) :
    encapsulate embedding host ty schema translator parent w =
      match newAggregate ty parent (.host host) w with
      | (.error fault, u) => (.error fault, u)
      | (.ok (v, space), u) =>
          match exposeMembers embedding schema translator host space definition.members u with
          | (.error fault, x) => (.error fault, x)
          | (.ok _, x) => (.ok v, x) := by
  simp only [encapsulate, known]
  rw [Step.bind_apply]
  rcases newAggregate ty parent (.host host) w with ⟨_ | ⟨v, space⟩, u⟩
  · rfl
  · dsimp only
    rw [Step.bind_apply]
    rcases exposeMembers embedding schema translator host space definition.members u with ⟨_ | _, x⟩
    · rfl
    · rfl

theorem memberSpaceWithin_aggregate (embedding : Embedding E) (bound : Nat) {v : Value} {w : World E}
    {p : Payload} {space : SpaceId} (held : w.backing v = .aggregate p space) :
    memberSpaceWithin embedding (bound + 1) v w = (.ok space, w) := by
  rw [memberSpaceWithin, Step.bind_apply, Step.get_apply]
  simp only [held]
  rfl

theorem member_aggregate {w : World E} {v : Value} {p : Payload} {space : SpaceId}
    (held : w.backing v = .aggregate p space) (embedding : Embedding E) (name : String) :
    member embedding v name w = (.ok ((w.arena.lookupLocal space name).getD .none), w) := by
  have found : memberSpace embedding v w = (.ok space, w) :=
    memberSpaceWithin_aggregate embedding w.cells.size held
  rw [member]
  rw [Step.bind_apply, found]
  rfl

theorem member_snd (embedding : Embedding E) (v : Value) (name : String) (w : World E) :
    (member embedding v name w).2 = (memberSpace embedding v w).2 := by
  rw [member, Step.bind_apply]
  rcases memberSpace embedding v w with ⟨_ | space, u⟩
  · rfl
  · rfl

theorem memberSpaceWithin_aggregateProperty (embedding : Embedding E) (bound : Nat) {v : Value}
    {w : World E} {b : Binding E} {parent : SpaceId} {translator : TranslatorId}
    (held : w.backing v = .aggregateProperty b parent translator) :
    memberSpaceWithin embedding (bound + 1) v w =
      if (b.read w.outside).isNull then
        (.ok SpaceId.empty, w.recordTranslated v SpaceId.empty)
      else
        match embedding.translate translator (b.read w.outside) parent w with
        | (.error fault, u) => (.error fault, u)
        | (.ok translated, u) =>
            match memberSpaceWithin embedding bound translated u with
            | (.error fault, x) => (.error fault, x)
            | (.ok space, x) => (.ok space, x.recordTranslated v space) := by
  rw [memberSpaceWithin, Step.bind_apply, Step.get_apply]
  simp only [held]
  by_cases null : (b.read w.outside).isNull = true
  · rw [if_pos null, if_pos null]
    rfl
  · rw [if_neg null, if_neg null, Step.bind_apply]
    rcases embedding.translate translator (b.read w.outside) parent w with ⟨_ | translated, u⟩
    · rfl
    · dsimp only
      rw [Step.bind_apply]
      rcases memberSpaceWithin embedding bound translated u with ⟨_ | space, x⟩
      · rfl
      · rfl

/-! Calls -/

namespace World

theorem backing_of_list? {w : World E} {v : Value} {l : ListId} (found : w.list? v = some l) :
    w.backing v = .list l := by
  unfold World.list? at found
  split at found
  · cases found
    assumption
  · cases found

theorem backing_of_set? {w : World E} {v : Value} {s : SetId} (found : w.set? v = some s) :
    w.backing v = .set s := by
  unfold World.set? at found
  split at found
  · cases found
    assumption
  · cases found

theorem backing_of_map? {w : World E} {v : Value} {m : MapId} (found : w.map? v = some m) :
    w.backing v = .map m := by
  unfold World.map? at found
  split at found
  · cases found
    assumption
  · cases found

end World

theorem onList_apply (receiver : Value) (body : ListId → Step E Value) (w : World E) :
    onList receiver body w =
      match w.list? receiver with
      | none => (.error (receiverMismatch "list" (w.ty receiver)), w)
      | some l => body l w := by
  rw [onList, Step.bind_apply, Step.get_apply]
  dsimp only
  cases w.list? receiver <;> rfl

theorem onSet_apply (receiver : Value) (body : SetId → Step E Value) (w : World E) :
    onSet receiver body w =
      match w.set? receiver with
      | none => (.error (receiverMismatch "set" (w.ty receiver)), w)
      | some s => body s w := by
  rw [onSet, Step.bind_apply, Step.get_apply]
  dsimp only
  cases w.set? receiver <;> rfl

theorem onMap_apply (receiver : Value) (body : MapId → Step E Value) (w : World E) :
    onMap receiver body w =
      match w.map? receiver with
      | none => (.error (receiverMismatch "map" (w.ty receiver)), w)
      | some m => body m w := by
  rw [onMap, Step.bind_apply, Step.get_apply]
  dsimp only
  cases w.map? receiver <;> rfl

theorem setAdd_apply (s : SetId) (v : Value) (w : World E) :
    setAdd s v w =
      if w.reads (.set s) v then (.error .alreadyBorrowed, w)
      else (.ok (w.setInsert s v).1, (w.setInsert s v).2) := by
  rw [setAdd, Step.bind_apply, Step.get_apply]
  dsimp only
  split <;> rfl

theorem mapAdd_apply (m : MapId) (key element : Value) (w : World E) :
    mapAdd m key element w =
      if w.reads (.map m) key then (.error .alreadyBorrowed, w)
      else (.ok (w.mapInsert m key element).1, (w.mapInsert m key element).2) := by
  rw [mapAdd, Step.bind_apply, Step.get_apply]
  dsimp only
  split <;> rfl

theorem evaluateAll_ofValues (values : List Value) (w : World E) :
    (CallContext.ofValues values : CallContext E).evaluateAll w = (.ok values, w) := by
  have all : (List.range values.length).map (fun i => values.getD i .none) = values := by
    apply List.ext_getElem
    · simp
    · intro i short _
      rw [List.length_map, List.length_range] at short
      simp [List.getElem?_eq_getElem short]
  rw [CallContext.evaluateAll]
  change ((List.range values.length).mapM fun i =>
    (pure (values.getD i .none) : Step E Value)) w = _
  rw [List.mapM_pure, all]
  rfl

theorem nativeCall_ofValues (native : Native E) (values : List Value) (receiver : Value)
    (w : World E) :
    native.call (.ofValues values) (some receiver) w =
      if values.length = native.arity then native.body receiver values w
      else (.error (.arityMismatch native.name native.arity values.length), w) := by
  have size : (CallContext.ofValues values : CallContext E).argumentCount = values.length := rfl
  unfold Native.call
  by_cases count : values.length = native.arity
  · simp only [size, count, if_true]
    rw [Step.bind_apply, evaluateAll_ofValues]
  · simp only [size, count, if_false]
    rfl

theorem nativeCall_miscounted (native : Native E) {context : CallContext E}
    (miscounted : context.argumentCount ≠ native.arity) (receiver : Option Value) (w : World E) :
    native.call context receiver w =
      (.error (.arityMismatch native.name native.arity context.argumentCount), w) := by
  unfold Native.call
  simp only [miscounted, if_false]
  rfl

theorem nativeCall_missing (native : Native E) (context : CallContext E) (w : World E) :
    (native.call context none w).2 = w := by
  unfold Native.call
  by_cases count : context.argumentCount = native.arity
  · simp only [count, if_true]
    rfl
  · simp only [count, if_false]
    rfl

theorem call_apply (embedding : Embedding E) (f : Value) (context : CallContext E)
    (receiver : Option Value) (w : World E) :
    call embedding f context receiver w =
      match w.callable? f with
      | none => (.ok .none, w)
      | some callable =>
          match callable.routine with
          | .method method => method.native.call context receiver w
          | .external _ => embedding.routine callable.identity context receiver w := by
  rw [call, Step.bind_apply, Step.get_apply]
  dsimp only
  cases w.callable? f with
  | none => rfl
  | some callable =>
      dsimp only
      cases callable.routine <;> rfl

end ScriptValues
