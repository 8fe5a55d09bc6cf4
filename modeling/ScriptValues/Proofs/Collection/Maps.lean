import ScriptValues.Proofs.Collection.Effect
import ScriptValues.Proofs.TableHost.Tracking

/-! A map is the log of the entries that it accepted, each under the payload that its key had then.

The first entry under a payload wins. The index of the map leads from each payload to the position
of its entry, and nowhere else. -/

namespace ScriptValues

variable {E : Type} {embedding : Embedding E} {m : MapId} {u w : World E}
  {rows : Log (Value × Value)}

namespace World

def freshEntries (start : Nat) : List (Payload × Payload) → Log (Value × Value)
  | [] => []
  | entry :: rest => ((⟨start⟩, ⟨start + 1⟩), entry.1) :: freshEntries (start + 2) rest

/-- What an effect on the map `m` makes of its log. An entry is not added if the map lies within its
key. -/
def mapLog (m : MapId) (w : World E) (rows : Log (Value × Value)) : Effect → Log (Value × Value)
  | .write .null | .method .mapClear [] => []
  | .write (.map entries) => .ofRows (freshEntries w.cells.size entries)
  | .method .mapAdd [key, element] =>
      if w.reads (.map m) key then rows else rows.add (key, element) (w.payload key)
  | _ => rows

def mapLogAfter (embedding : Embedding E) (m : MapId) (operations : List (Operation E))
    (w : World E) (rows : Log (Value × Value)) : Log (Value × Value) :=
  logAfter embedding (.map m) (mapLog m) operations w rows

structure MapRecords (w : World E) (m : MapId) (rows : Log (Value × Value)) : Prop where
  there : m.index < w.maps.size
  records : (w.map m).Records rows

theorem MapRecords.congr (recorded : w.MapRecords m rows) (same : u.maps = w.maps) :
    u.MapRecords m rows := by
  refine ⟨same ▸ recorded.there, ?_⟩
  rw [World.map, same]
  exact recorded.records

theorem MapRecords.keep (recorded : w.MapRecords m rows) (kept : KeepsBox (.map m) w u) :
    u.MapRecords m rows := by
  obtain ⟨there, box⟩ := kept recorded.there
  refine ⟨there, ?_⟩
  rw [World.map, box]
  exact recorded.records

theorem MapRecords.writeMap (recorded : w.MapRecords m rows) {b : MapBox}
    {rows' : Log (Value × Value)} (records : b.Records rows') :
    (w.writeMap m b).MapRecords m rows' := by
  have box : (w.writeMap m b).map m = b := Heap.read_write_self w.maps b recorded.there
  refine ⟨?_, by rw [box]; exact records⟩
  change m.index < (w.maps.write m.index b).size
  rw [Heap.size_write]
  exact recorded.there

theorem MapRecords.mapInsert (recorded : w.MapRecords m rows) (key element : Value) :
    (w.mapInsert m key element).2.MapRecords m (rows.add (key, element) (w.payload key)) :=
  recorded.writeMap (recorded.records.add key element (w.payload key)).2

theorem MapRecords.mapAdd (recorded : w.MapRecords m rows) (key element : Value) :
    (mapAdd m key element w).2.MapRecords m
      (if w.reads (.map m) key then rows else rows.add (key, element) (w.payload key)) := by
  rw [mapAdd_apply]
  split
  · exact recorded
  · exact recorded.mapInsert key element

theorem MapRecords.mapClear (recorded : w.MapRecords m rows) : (w.mapClear m).MapRecords m [] :=
  recorded.writeMap (MapBox.records_cleared _)

theorem payload_newBasic_twice (w : World E) (ty ty' : Ty) (p q : Payload) :
    ((w.newBasic ty p).2.newBasic ty' q).2.payload (w.newBasic ty p).1 = p := by
  have old : w.cells.size ≠ (w.newBasic ty p).2.cells.size := by
    change w.cells.size ≠ (w.cells.push _).size
    rw [Heap.size_push]
    exact Nat.ne_of_lt (Nat.lt_succ_self _)
  have held : ((w.newBasic ty p).2.newBasic ty' q).2.backing ⟨w.cells.size⟩ = .basic p :=
    congrArg Cell.backing
      ((Heap.read_push_other _ _ old).trans (Heap.read_push_self w.cells _))
  exact payload_basic held

theorem MapRecords.mapRefill (recorded : w.MapRecords m rows)
    (entries : List (Payload × Payload)) :
    (w.mapRefill m entries).MapRecords m (.ofRows (freshEntries w.cells.size entries)) := by
  have cleared : (w.mapClear m).MapRecords m [] := recorded.mapClear
  have size : w.cells.size = (w.mapClear m).cells.size := rfl
  rw [World.mapRefill, Log.ofRows, size]
  generalize w.mapClear m = x at cleared
  generalize ([] : Log (Value × Value)) = logged at cleared
  induction entries generalizing x logged with
  | nil => exact cleared
  | cons entry rest ih =>
      let y := (x.newBasic (x.map m).key entry.1).2
      let z := (y.newBasic (y.map m).element entry.2).2
      have made : z.MapRecords m logged := cleared.congr rfl
      have added := made.mapInsert (x.newBasic (x.map m).key entry.1).1
        (y.newBasic (y.map m).element entry.2).1
      rw [payload_newBasic_twice] at added
      have one : y.cells.size = x.cells.size + 1 := Heap.size_push x.cells _
      have two : z.cells.size = x.cells.size + 2 :=
        (Heap.size_push y.cells _).trans (congrArg (· + 1) one)
      have second : (y.newBasic (y.map m).element entry.2).1 = ⟨x.cells.size + 1⟩ :=
        congrArg Value.mk one
      have more := ih _ _ added
      have next : (z.mapInsert m (x.newBasic (x.map m).key entry.1).1
          (y.newBasic (y.map m).element entry.2).1).2.cells.size = x.cells.size + 2 := two
      rw [next] at more
      rw [freshEntries, List.foldl_cons, List.foldl_cons, ← second]
      exact more

theorem MapRecords.perform (recorded : w.MapRecords m rows) (effect : Effect) :
    (w.perform (.map m) effect).MapRecords m (w.mapLog m rows effect) := by
  cases effect with
  | none => exact recorded
  | write p =>
      cases p with
      | null => exact recorded.mapClear
      | map entries => exact recorded.mapRefill entries
      | _ => exact recorded
  | method method values =>
      cases method with
      | mapAdd =>
          match values with
          | [key, element] => exact recorded.mapAdd key element
          | [] | [_] | _ :: _ :: _ :: _ => exact recorded
      | mapClear =>
          match values with
          | [] => exact recorded.mapClear
          | _ :: _ => exact recorded
      | _ => exact recorded

/-- In all its answers the map goes by the log. -/
structure MapAnswers (embedding : Embedding E) (w : World E) (m : MapId)
    (rows : Log (Value × Value)) : Prop where
  entries : (w.map m).entries = rows.map Prod.fst
  payloads : (w.map m).index.map Prod.fst = rows.map Prod.snd
  positions : (w.map m).index.map Prod.snd = List.range (w.map m).entries.length
  inBounds : ∀ row ∈ (w.map m).index, row.2 < (w.map m).entries.length
  unequal : (∀ row ∈ rows, row.2.Clean) →
    rows.Pairwise fun a b => a.2.same b.2 = false ∧ b.2.same a.2 = false
  containsKey : ∀ k, w.mapContainsKey m k = true ↔ ∃ row ∈ rows, (w.payload k).same row.2 = true
  rejects : ∀ k e, ¬ w.Inside (.map m) k → (∃ row ∈ rows, (w.payload k).same row.2 = true) →
    mapAdd m k e w = (.ok false, w)
  accepts : ∀ k e, ¬ w.Inside (.map m) k → ¬ (∃ row ∈ rows, (w.payload k).same row.2 = true) →
    ∃ u, mapAdd m k e w = (.ok true, u) ∧ u.MapRecords m (rows ++ [((k, e), w.payload k)]) ∧
      ∃ b, u = w.writeMap m b
  panics : ∀ k e, w.Inside (.map m) k → mapAdd m k e w = (.error .alreadyBorrowed, w)
  getFirst : ∀ k before key element p after, rows = before ++ ((key, element), p) :: after →
    (w.payload k).same p = true → (∀ row ∈ before, (w.payload k).same row.2 = false) →
    w.mapGet m k = element
  getNone : ∀ k, ¬ (∃ row ∈ rows, (w.payload k).same row.2 = true) → w.mapGet m k = .none
  calledAdd : ∀ f receiver k e, w.nativeMethod? f = some .mapAdd → w.map? receiver = some m →
    ¬ w.Inside (.map m) k →
    Step.Answers (call embedding f (.ofValues [k, e]) (some receiver)) w
      (.bool !rows.holds (w.payload k))
  calledPanics : ∀ f receiver k e, w.nativeMethod? f = some .mapAdd → w.map? receiver = some m →
    w.Inside (.map m) k →
    call embedding f (.ofValues [k, e]) (some receiver) w = (.error .alreadyBorrowed, w)
  calledGet : ∀ f receiver k, w.nativeMethod? f = some .mapGet → w.map? receiver = some m →
    call embedding f (.ofValues [k]) (some receiver) w = (.ok (w.mapGet m k), w)
  calledSize : ∀ f receiver, w.nativeMethod? f = some .mapSize → w.map? receiver = some m →
    Step.Answers (call embedding f (.ofValues []) (some receiver)) w
      (.int (clampedLength rows.length))
  calledKeys : ∀ f receiver, w.nativeMethod? f = some .mapKeys → w.map? receiver = some m →
    Step.Lists (call embedding f (.ofValues []) (some receiver)) w (rows.map fun row => row.1.1)
  calledElements : ∀ f receiver, w.nativeMethod? f = some .mapElements →
    w.map? receiver = some m →
    Step.Lists (call embedding f (.ofValues []) (some receiver)) w (rows.map fun row => row.1.2)

theorem writeMap_map (w : World E) (m : MapId) : w.writeMap m (w.map m) = w := by
  rw [writeMap, World.map, Heap.write_read]

theorem MapRecords.answers (recorded : w.MapRecords m rows) (embedding : Embedding E) :
    w.MapAnswers embedding m rows where
  entries := recorded.records.entries
  payloads := recorded.records.payloads
  positions := recorded.records.positions
  inBounds row member := by
    have position : row.2 ∈ (w.map m).index.map Prod.snd := List.mem_map_of_mem member
    rw [recorded.records.positions] at position
    exact List.mem_range.mp position
  unequal clean := recorded.records.distinct.unequal clean
  containsKey k := by
    rw [mapContainsKey, recorded.records.position?, Log.holds_iff]
  rejects k e apart equal := by
    rw [mapAdd_of_not_inside apart, World.mapInsert,
      recorded.records.rejects (Log.holds_iff.mpr equal)]
    exact congrArg (Prod.mk (Except.ok false)) (writeMap_map w m)
  accepts k e apart unequal := by
    have new : rows.holds (w.payload k) = false := by
      rw [← Log.holds_iff] at unequal
      exact Bool.eq_false_iff.mpr unequal
    have added := recorded.mapInsert k e
    rw [Log.add, if_neg (by rw [new]; exact Bool.false_ne_true)] at added
    refine ⟨_, ?_, added, _, rfl⟩
    rw [mapAdd_of_not_inside apart]
    exact congrArg (fun answer => (Except.ok answer, _))
      (congrArg Prod.fst (recorded.records.accepts new k e))
  panics k e inside := mapAdd_of_inside inside e
  getFirst k before key element p after split equal earlier := by
    have found : rows.find? (w.payload k) = some (key, element) :=
      Log.find?_eq_some_iff.mpr ⟨p, before, after, split, equal, earlier⟩
    rw [mapGet, recorded.records.elementAt?, found]
    rfl
  getNone k unequal := by
    have missing : rows.find? (w.payload k) = none := by
      rw [← Option.not_isSome_iff_eq_none, Log.find?_isSome, Log.holds_iff]
      exact unequal
    rw [mapGet, recorded.records.elementAt?, missing]
    rfl
  calledAdd f receiver k e behind found apart := by
    have answer := (recorded.records.add k e (w.payload k)).1
    refine ⟨_, _, ?_,
      payload_newBasic (w.mapInsert m k e).2 .bool (.bool !rows.holds (w.payload k)) true⟩
    rw [call_method behind embedding rfl, Method.run, onMap_apply, found, ← answer]
    dsimp only
    rw [Step.bind_apply, List.getD_cons_zero, List.getD_cons_succ, List.getD_cons_zero,
      mapAdd_of_not_inside apart]
    rfl
  calledPanics f receiver k e behind found inside := by
    rw [call_method behind embedding rfl, Method.run, onMap_apply, found]
    dsimp only
    rw [Step.bind_apply, List.getD_cons_zero, mapAdd_of_inside inside]
  calledGet f receiver k behind found := by
    rw [call_method behind embedding rfl, Method.run, onMap_apply, found]
    rfl
  calledSize f receiver behind found := by
    refine ⟨_, _, ?_, payload_newBasic w .int (.int (clampedLength rows.length)) true⟩
    have size : (w.map m).entries.length = rows.length := by
      rw [recorded.records.entries, List.length_map]
    rw [call_method behind embedding rfl, Method.run, onMap_apply, found, ← size]
    rfl
  calledKeys f receiver behind found := by
    have keys : rows.map (fun row => row.1.1) = (w.map m).entries.map Prod.fst := by
      rw [recorded.records.entries, List.map_map]
      rfl
    refine ⟨_, _, _, ?_, items_newListOf w (.list (w.map m).key) (rows.map fun row => row.1.1)⟩
    rw [call_method behind embedding rfl, Method.run, onMap_apply, found, keys]
    rfl
  calledElements f receiver behind found := by
    have elements : rows.map (fun row => row.1.2) = (w.map m).entries.map Prod.snd := by
      rw [recorded.records.entries, List.map_map]
      rfl
    refine ⟨_, _, _, ?_, items_newListOf w (.list (w.map m).element) (rows.map fun row => row.1.2)⟩
    rw [call_method behind embedding rfl, Method.run, onMap_apply, found, elements]
    rfl

/-- A map that a run has made goes by its log from then on, whatever is done to it and to all other
values, as long as the embedding program leaves it alone. -/
theorem maps_refine_log {maxDepth : Nat} {outside : E} {before : List (Operation E)}
    (kept : embedding.Within fun u w => u.BoxesSound → w.BoxesSound)
    (quiet : embedding.Within (KeepsBox (.map m)))
    (start : (World.initial maxDepth outside).after embedding before = w)
    (there : m.index < w.maps.size) (operations : List (Operation E)) :
    (w.after embedding operations).MapAnswers embedding m
      (mapLogAfter embedding m operations w (w.map m).log) := by
  have sound : w.BoxesSound := start ▸ boxesSound_after kept maxDepth outside before
  have recorded : w.MapRecords m (w.map m).log := ⟨there, sound.maps m⟩
  have after := logAfter_recorded quiet (fun x logged => x.MapRecords m logged) MapRecords.keep
    MapRecords.perform recorded operations
  exact after.answers embedding

/-- A map is filled anew, and a fresh key is written to: what the key was added under still leads to
its element, and the key is added again under what it holds now. -/
theorem maps_refine_log_rewrittenKey :
    let start := (World.initial 4 (Outside.initial "host" Table.empty)).after TableHost.embedding
      [.newMap (.map .int .int), .newBasic .int (.int 1) true, .newBasic .int (.int 1) true,
        .method ⟨2⟩ "add"]
    let operations := [.mapAdd ⟨0⟩ ⟨3⟩ ⟨3⟩, .write ⟨2⟩ (.map [(.int 1, .int 7)]),
      .write ⟨6⟩ (.int 5), .call ⟨5⟩ [⟨4⟩, ⟨3⟩] (some ⟨2⟩), .mapAdd ⟨0⟩ ⟨6⟩ ⟨4⟩]
    let rows := mapLogAfter TableHost.embedding ⟨0⟩ operations start (start.map ⟨0⟩).log
    rows.map Prod.fst = [(⟨6⟩, ⟨7⟩), (⟨6⟩, ⟨4⟩)] ∧
      (start.after TableHost.embedding operations).MapAnswers TableHost.embedding ⟨0⟩ rows := by
  refine ⟨by decide +kernel, maps_refine_log (TableHost.embedding_within tracks_boxesSound)
    (TableHost.embedding_within (tracks_keepsBox (.map ⟨0⟩))) rfl ?_ _⟩
  decide +kernel

/-- A key is rewritten after its entry was added, and a list with the map in it reads now as the key
did then. The map has an entry under its payload already, but to add another one panics. -/
theorem mapAdd_listOfItself_panics :
    let w := (World.initial 4 (Outside.initial "host" Table.empty)).after TableHost.embedding
      [.newBasic (.list (.map .int .int)) (.list [.map [(.int 5, .int 1)]]) true,
        .newBasic .int (.int 1) true, .newMap (.map (.list (.map .int .int)) .int),
        .mapAdd ⟨0⟩ ⟨2⟩ ⟨3⟩, .write ⟨2⟩ (.int 5), .newList (.list (.map .int .int)),
        .listAdd ⟨0⟩ ⟨4⟩]
    let p : Payload := .list [.map [(.int 5, .int 1)]]
    (∀ v, Loopless w.Contains v) ∧ p.Clean ∧ (w.map ⟨0⟩).log = [((⟨2⟩, ⟨3⟩), p)] ∧
      w.payload ⟨5⟩ = p ∧ p.same p = true ∧
      mapAdd ⟨0⟩ ⟨5⟩ ⟨3⟩ w = (.error .alreadyBorrowed, w) := by
  intro w p
  have inner : (Payload.map [(.int 5, .int 1)]).Clean :=
    .map (List.pairwise_singleton _ _)
      (fun entry member => List.mem_singleton.mp member ▸ .leaf rfl)
      fun entry member => List.mem_singleton.mp member ▸ .leaf rfl
  have clean : p.Clean := .list fun q member => List.mem_singleton.mp member ▸ inner
  exact ⟨loopless_of_earlier (by decide +kernel), clean, rfl, rfl, Payload.same_refl p,
    mapAdd_of_inside (by decide +kernel) ⟨3⟩⟩

end World

end ScriptValues
