import ScriptValues.Proofs.Collection.Effect
import ScriptValues.Proofs.TableHost.Tracking

/-! A set is the log of the insertions that it accepted.

The log is told from the operations alone: an insertion is compared with the payloads that were
logged and not with what the items hold by now, so writes to the items do not matter. -/

namespace ScriptValues

variable {E : Type} {embedding : Embedding E} {s : SetId} {u w : World E} {rows : Log Value}

namespace World

/-- Rows for the fresh values that are made from these payloads, the first of which is at `start`.
-/
def freshRows (start : Nat) : List Payload → Log Value
  | [] => []
  | p :: rest => (⟨start⟩, p) :: freshRows (start + 1) rest

/-- What an effect on the set `s` makes of its log. An item that the set lies within is not added. -/
def setLog (s : SetId) (w : World E) (rows : Log Value) : Effect → Log Value
  | .write .null | .method .setClear [] => []
  | .write (.set items) | .write (.list items) => .ofRows (freshRows w.cells.size items)
  | .method .setAdd [x] => if w.reads (.set s) x then rows else rows.add x (w.payload x)
  | _ => rows

def setLogAfter (embedding : Embedding E) (s : SetId) (operations : List (Operation E))
    (w : World E) (rows : Log Value) : Log Value :=
  logAfter embedding (.set s) (setLog s) operations w rows

structure SetRecords (w : World E) (s : SetId) (rows : Log Value) : Prop where
  there : s.index < w.sets.size
  records : (w.set s).Records rows

theorem SetRecords.congr (recorded : w.SetRecords s rows) (same : u.sets = w.sets) :
    u.SetRecords s rows := by
  refine ⟨same ▸ recorded.there, ?_⟩
  rw [World.set, same]
  exact recorded.records

theorem SetRecords.keep (recorded : w.SetRecords s rows) (kept : KeepsBox (.set s) w u) :
    u.SetRecords s rows := by
  obtain ⟨there, box⟩ := kept recorded.there
  refine ⟨there, ?_⟩
  rw [World.set, box]
  exact recorded.records

theorem SetRecords.writeSet (recorded : w.SetRecords s rows) {b : SetBox} {rows' : Log Value}
    (records : b.Records rows') : (w.writeSet s b).SetRecords s rows' := by
  have box : (w.writeSet s b).set s = b := Heap.read_write_self w.sets b recorded.there
  refine ⟨?_, by rw [box]; exact records⟩
  change s.index < (w.sets.write s.index b).size
  rw [Heap.size_write]
  exact recorded.there

theorem SetRecords.setInsert (recorded : w.SetRecords s rows) (x : Value) :
    (w.setInsert s x).2.SetRecords s (rows.add x (w.payload x)) :=
  recorded.writeSet (recorded.records.add x (w.payload x)).2

theorem SetRecords.setAdd (recorded : w.SetRecords s rows) (x : Value) :
    (setAdd s x w).2.SetRecords s
      (if w.reads (.set s) x then rows else rows.add x (w.payload x)) := by
  rw [setAdd_apply]
  split
  · exact recorded
  · exact recorded.setInsert x

theorem SetRecords.setClear (recorded : w.SetRecords s rows) : (w.setClear s).SetRecords s [] :=
  recorded.writeSet (SetBox.records_cleared _)

theorem SetRecords.setRefill (recorded : w.SetRecords s rows) (items : List Payload) :
    (w.setRefill s items).SetRecords s (.ofRows (freshRows w.cells.size items)) := by
  -- A write to the set makes no cells, so the fresh values are numbered from the start.
  have cleared : (w.setClear s).SetRecords s [] := recorded.setClear
  have size : w.cells.size = (w.setClear s).cells.size := rfl
  rw [World.setRefill, Log.ofRows, size]
  generalize w.setClear s = x at cleared
  generalize ([] : Log Value) = logged at cleared
  induction items generalizing x logged with
  | nil => exact cleared
  | cons p rest ih =>
      have made : (x.newBasic (x.set s).element p).2.SetRecords s logged := cleared.congr rfl
      have added := made.setInsert (x.newBasic (x.set s).element p).1
      rw [payload_newBasic] at added
      have more := ih _ _ added
      have next : ((x.newBasic (x.set s).element p).2.setInsert s
          (x.newBasic (x.set s).element p).1).2.cells.size = x.cells.size + 1 :=
        Heap.size_push x.cells _
      rw [next] at more
      exact more

theorem SetRecords.perform (recorded : w.SetRecords s rows) (effect : Effect) :
    (w.perform (.set s) effect).SetRecords s (w.setLog s rows effect) := by
  cases effect with
  | none => exact recorded
  | write p =>
      cases p with
      | null => exact recorded.setClear
      | set items | list items => exact recorded.setRefill items
      | _ => exact recorded
  | method method values =>
      cases method with
      | setAdd =>
          match values with
          | [x] => exact recorded.setAdd x
          | [] | _ :: _ :: _ => exact recorded
      | setClear =>
          match values with
          | [] => exact recorded.setClear
          | _ :: _ => exact recorded
      | _ => exact recorded

/-- In all its answers the set goes by the log. -/
structure SetAnswers (embedding : Embedding E) (w : World E) (s : SetId) (rows : Log Value) :
    Prop where
  values : (w.set s).items = rows.map Prod.fst
  index : (w.set s).index = rows.map Prod.snd
  sizes : (w.set s).items.length = rows.length ∧ (w.set s).index.length = rows.length
  unequal : (∀ row ∈ rows, row.2.Clean) →
    rows.Pairwise fun a b => a.2.same b.2 = false ∧ b.2.same a.2 = false
  contains : ∀ x, w.setContains s x = true ↔ ∃ row ∈ rows, (w.payload x).same row.2 = true
  rejects : ∀ x, ¬ w.Inside (.set s) x → (∃ row ∈ rows, (w.payload x).same row.2 = true) →
    setAdd s x w = (.ok false, w)
  accepts : ∀ x, ¬ w.Inside (.set s) x → ¬ (∃ row ∈ rows, (w.payload x).same row.2 = true) →
    ∃ u, setAdd s x w = (.ok true, u) ∧ u.SetRecords s (rows ++ [(x, w.payload x)]) ∧
      ∃ b, u = w.writeSet s b
  panics : ∀ x, w.Inside (.set s) x → setAdd s x w = (.error .alreadyBorrowed, w)
  calledAdd : ∀ f receiver x, w.nativeMethod? f = some .setAdd → w.set? receiver = some s →
    ¬ w.Inside (.set s) x →
    Step.Answers (call embedding f (.ofValues [x]) (some receiver)) w
      (.bool !rows.holds (w.payload x))
  calledPanics : ∀ f receiver x, w.nativeMethod? f = some .setAdd → w.set? receiver = some s →
    w.Inside (.set s) x →
    call embedding f (.ofValues [x]) (some receiver) w = (.error .alreadyBorrowed, w)
  calledContains : ∀ f receiver x, w.nativeMethod? f = some .setContains →
    w.set? receiver = some s →
    Step.Answers (call embedding f (.ofValues [x]) (some receiver)) w
      (.bool (rows.holds (w.payload x)))
  calledSize : ∀ f receiver, w.nativeMethod? f = some .setSize → w.set? receiver = some s →
    Step.Answers (call embedding f (.ofValues []) (some receiver)) w
      (.int (clampedLength rows.length))

theorem writeSet_set (w : World E) (s : SetId) : w.writeSet s (w.set s) = w := by
  rw [writeSet, World.set, Heap.write_read]

theorem SetRecords.answers (recorded : w.SetRecords s rows) (embedding : Embedding E) :
    w.SetAnswers embedding s rows where
  values := recorded.records.items
  index := recorded.records.index
  sizes := by
    rw [recorded.records.items, recorded.records.index, List.length_map, List.length_map]
    exact ⟨rfl, rfl⟩
  unequal clean := recorded.records.distinct.unequal clean
  contains x := by
    rw [setContains, recorded.records.indexed, Log.holds_iff]
  rejects x apart equal := by
    rw [setAdd_of_not_inside apart, World.setInsert,
      recorded.records.rejects (Log.holds_iff.mpr equal)]
    exact congrArg (Prod.mk (Except.ok false)) (writeSet_set w s)
  accepts x apart unequal := by
    have new : rows.holds (w.payload x) = false := by
      rw [← Log.holds_iff] at unequal
      exact Bool.eq_false_iff.mpr unequal
    have added := recorded.setInsert x
    rw [Log.add, if_neg (by rw [new]; exact Bool.false_ne_true)] at added
    refine ⟨_, ?_, added, _, rfl⟩
    rw [setAdd_of_not_inside apart]
    exact congrArg (fun answer => (Except.ok answer, _))
      (congrArg Prod.fst (recorded.records.accepts new x))
  panics x inside := setAdd_of_inside inside
  calledAdd f receiver x behind found apart := by
    have answer := (recorded.records.add x (w.payload x)).1
    refine ⟨_, _, ?_,
      payload_newBasic (w.setInsert s x).2 .bool (.bool !rows.holds (w.payload x)) true⟩
    rw [call_method behind embedding rfl, Method.run, onSet_apply, found, ← answer]
    dsimp only
    rw [Step.bind_apply, List.getD_cons_zero, setAdd_of_not_inside apart]
    rfl
  calledPanics f receiver x behind found inside := by
    rw [call_method behind embedding rfl, Method.run, onSet_apply, found]
    dsimp only
    rw [Step.bind_apply, List.getD_cons_zero, setAdd_of_inside inside]
  calledContains f receiver x behind found := by
    refine ⟨_, _, ?_, payload_newBasic w .bool (.bool (rows.holds (w.payload x))) true⟩
    rw [call_method behind embedding rfl, Method.run, onSet_apply, found,
      ← recorded.records.indexed]
    rfl
  calledSize f receiver behind found := by
    refine ⟨_, _, ?_, payload_newBasic w .int (.int (clampedLength rows.length)) true⟩
    have size : (w.set s).items.length = rows.length := by
      rw [recorded.records.items, List.length_map]
    rw [call_method behind embedding rfl, Method.run, onSet_apply, found, ← size]
    rfl

/-- A set that a run has made goes by its log from then on, whatever is done to it and to all other
values, as long as the embedding program leaves it alone. -/
theorem sets_refine_log {maxDepth : Nat} {outside : E} {before : List (Operation E)}
    (kept : embedding.Within fun u w => u.BoxesSound → w.BoxesSound)
    (quiet : embedding.Within (KeepsBox (.set s)))
    (start : (World.initial maxDepth outside).after embedding before = w)
    (there : s.index < w.sets.size) (operations : List (Operation E)) :
    (w.after embedding operations).SetAnswers embedding s
      (setLogAfter embedding s operations w (w.set s).log) := by
  have sound : w.BoxesSound := start ▸ boxesSound_after kept maxDepth outside before
  have recorded : w.SetRecords s (w.set s).log := ⟨there, sound.sets s⟩
  have after := logAfter_recorded quiet (fun x logged => x.SetRecords s logged) SetRecords.keep
    SetRecords.perform recorded operations
  exact after.answers embedding

/-- An item is written to after it was added: its twin is still turned away, and it is added again.
-/
theorem sets_refine_log_rewrittenItem :
    let start := (World.initial 4 (Outside.initial "host" Table.empty)).after TableHost.embedding
      [.newSet (.set .int), .newBasic .int (.int 1) true, .newBasic .int (.int 1) true,
        .method ⟨2⟩ "add"]
    let operations := [.setAdd ⟨0⟩ ⟨3⟩, .write ⟨3⟩ (.int 5), .call ⟨5⟩ [⟨4⟩] (some ⟨2⟩),
      .setAdd ⟨0⟩ ⟨3⟩]
    let rows := setLogAfter TableHost.embedding ⟨0⟩ operations start (start.set ⟨0⟩).log
    rows.map Prod.fst = [⟨3⟩, ⟨3⟩] ∧
      (start.after TableHost.embedding operations).SetAnswers TableHost.embedding ⟨0⟩ rows := by
  refine ⟨by decide +kernel, sets_refine_log (TableHost.embedding_within tracks_boxesSound)
    (TableHost.embedding_within (tracks_keepsBox (.set ⟨0⟩))) rfl ?_ _⟩
  decide +kernel

/-- An item is rewritten after it was added, and a list with the set in it reads now as the item did
then. The set holds its payload already, but to add the list panics. -/
theorem setAdd_listOfItself_panics :
    let w := (World.initial 4 (Outside.initial "host" Table.empty)).after TableHost.embedding
      [.newBasic (.list (.set .int)) (.list [.set [.int 5]]) true,
        .newSet (.set (.list (.set .int))), .setAdd ⟨0⟩ ⟨2⟩, .write ⟨2⟩ (.int 5),
        .newList (.list (.set .int)), .listAdd ⟨0⟩ ⟨3⟩]
    let p : Payload := .list [.set [.int 5]]
    (∀ v, Loopless w.Contains v) ∧ p.Clean ∧ (w.set ⟨0⟩).log = [(⟨2⟩, p)] ∧ w.payload ⟨4⟩ = p ∧
      p.same p = true ∧ setAdd ⟨0⟩ ⟨4⟩ w = (.error .alreadyBorrowed, w) := by
  intro w p
  have inner : (Payload.set [.int 5]).Clean :=
    .set (List.pairwise_singleton _ _) fun q member => List.mem_singleton.mp member ▸ .leaf rfl
  have clean : p.Clean := .list fun q member => List.mem_singleton.mp member ▸ inner
  exact ⟨loopless_of_earlier (by decide +kernel), clean, rfl, rfl, Payload.same_refl p,
    setAdd_of_inside (by decide +kernel)⟩

end World

end ScriptValues
