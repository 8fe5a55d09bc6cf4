import ScriptValues.Proofs.Collection.Sound
import ScriptValues.Proofs.Equality.Contents

/-! What an operation does to one container.

An operation reaches a container in one of two ways: it writes a payload to a value that the
container stands behind, or it runs a method on the container. What else an operation does leaves
the container as it is. -/

namespace ScriptValues

variable {E : Type} {c : Container} {u w : World E} {v : Value}

inductive Effect where
  | none
  | write (p : Payload)
  | method (method : Method) (values : List Value)

namespace World

def nativeMethod? (w : World E) (f : Value) : Option Method :=
  match (w.callable? f).map Callable.routine with
  | some (.method method) => some method
  | _ => none

/-- An assignment to the collection `v` writes the payload of `u`; otherwise it fails, does nothing,
or lets `v` share the container of `u`. -/
def takesPayload (w : World E) (v u : Value) : Bool :=
  (w.ty v).same (w.ty u) && v != u && (w.cell v).mutable && w.family v != w.family u

def perform (w : World E) (c : Container) : Effect → World E
  | .none => w
  | .write p =>
      match c, p with
      | .list l, .null => w.listClear l
      | .list l, .list items => w.listRefill l items
      | .set s, .null => w.setClear s
      | .set s, .set items | .set s, .list items => w.setRefill s items
      | .map m, .null => w.mapClear m
      | .map m, .map entries => w.mapRefill m entries
      | _, _ => w
  | .method method values =>
      match c, method, values with
      | .list l, .listAdd, [x] => w.listAdd l x
      | .list l, .listClear, [] => w.listClear l
      | .set s, .setAdd, [x] => (setAdd s x w).2
      | .set s, .setClear, [] => w.setClear s
      | .map m, .mapAdd, [key, element] => (mapAdd m key element w).2
      | .map m, .mapClear, [] => w.mapClear m
      | _, _, _ => w

end World

def Operation.effect (w : World E) (c : Container) : Operation E → Effect
  | listAdd l x => if c = .list l then .method .listAdd [x] else .none
  | listClear l => if c = .list l then .method .listClear [] else .none
  | setAdd s x => if c = .set s then .method .setAdd [x] else .none
  | setClear s => if c = .set s then .method .setClear [] else .none
  | mapAdd m key element => if c = .map m then .method .mapAdd [key, element] else .none
  | mapClear m => if c = .map m then .method .mapClear [] else .none
  | write v p =>
      if (w.backing v).container? = some c ∧ (w.cell v).mutable then .write p else .none
  | assign v u =>
      if (w.backing v).container? = some c ∧ w.takesPayload v u then .write (w.payload u) else .none
  | call f values (some receiver) =>
      if (w.backing receiver).container? = some c then
        (w.nativeMethod? f).elim .none fun method => .method method values
      else .none
  | _ => .none

namespace World

/-- The log of a container after a sequence of operations. It follows the effects on the container,
and nothing else. -/
def logAfter {α : Type} (embedding : Embedding E) (c : Container)
    (follow : World E → Log α → Effect → Log α) : List (Operation E) → World E → Log α → Log α
  | [], _, rows => rows
  | operation :: rest, w, rows =>
      logAfter embedding c follow rest (operation.step embedding w).2
        (follow w rows (operation.effect w c))

theorem setAdd_of_not_inside {s : SetId} {item : Value} (apart : ¬ w.Inside (.set s) item) :
    setAdd s item w = (.ok (w.setInsert s item).1, (w.setInsert s item).2) := by
  rw [setAdd_apply, reads_eq_false_iff.mpr apart]
  rfl

theorem setAdd_of_inside {s : SetId} {item : Value} (inside : w.Inside (.set s) item) :
    setAdd s item w = (.error .alreadyBorrowed, w) := by
  rw [setAdd_apply, reads_iff.mpr inside]
  rfl

theorem mapAdd_of_not_inside {m : MapId} {key : Value} (apart : ¬ w.Inside (.map m) key)
    (element : Value) :
    mapAdd m key element w =
      (.ok (w.mapInsert m key element).1, (w.mapInsert m key element).2) := by
  rw [mapAdd_apply, reads_eq_false_iff.mpr apart]
  rfl

theorem mapAdd_of_inside {m : MapId} {key : Value} (inside : w.Inside (.map m) key)
    (element : Value) : mapAdd m key element w = (.error .alreadyBorrowed, w) := by
  rw [mapAdd_apply, reads_iff.mpr inside]
  rfl

theorem writesOnly_setAdd (w : World E) (s : SetId) (item : Value) :
    WritesOnly (· = .set s) w (setAdd s item w).2 := by
  rw [setAdd_apply]
  split
  · exact .refl _ w
  · exact (WritesOnly.refl (· = .set s) w).writeSet rfl _

theorem writesOnly_mapAdd (w : World E) (m : MapId) (key element : Value) :
    WritesOnly (· = .map m) w (mapAdd m key element w).2 := by
  rw [mapAdd_apply]
  split
  · exact .refl _ w
  · exact (WritesOnly.refl (· = .map m) w).writeMap rfl _

theorem payload_basic {p : Payload} (held : w.backing v = .basic p) : w.payload v = p := by
  rw [payload, walkBound, payloadWithin]
  simp only [held]

theorem payload_newBasic (w : World E) (ty : Ty) (p : Payload) (mutable : Bool) :
    (w.newBasic ty p mutable).2.payload (w.newBasic ty p mutable).1 = p :=
  payload_basic (congrArg Cell.backing (Heap.read_push_self w.cells _))

theorem items_newListOf (w : World E) (ty : Ty) (items : List Value) :
    (w.newListOf ty items).2.list? (w.newListOf ty items).1 = some ⟨w.lists.size⟩ ∧
      ((w.newListOf ty items).2.list ⟨w.lists.size⟩).items = items := by
  have held : (w.newListOf ty items).2.backing (w.newListOf ty items).1 = .list ⟨w.lists.size⟩ :=
    congrArg Cell.backing (Heap.read_push_self w.cells _)
  refine ⟨?_, congrArg ListBox.items (Heap.read_push_self w.lists _)⟩
  rw [list?, held]

theorem KeepsBox.of_same (lists : w.lists = u.lists) (sets : w.sets = u.sets)
    (maps : w.maps = u.maps) : KeepsBox c u w := by
  cases c with
  | list l =>
      rw [KeepsBox, lists]
      exact Heap.kept_refl _ _
  | set s =>
      rw [KeepsBox, sets]
      exact Heap.kept_refl _ _
  | map m =>
      rw [KeepsBox, maps]
      exact Heap.kept_refl _ _

theorem accept_perform (behind : (w.backing v).container? = some c) (p : Payload) :
    (w.accept v p).2 = w.perform c (.write p) := by
  unfold accept
  rw [Backing.eq_of_container? behind]
  cases c <;> cases p <;> rfl

theorem accept_error {p : Payload} {fault : Fault} {x : World E}
    (behind : (w.backing v).container? = some c) (refused : w.accept v p = (.error fault, x)) :
    x = w := by
  unfold accept at refused
  rw [Backing.eq_of_container? behind] at refused
  cases c <;> cases p <;> cases refused <;> rfl

theorem keepsBox_write (behind : (w.backing v).container? = some c) (p : Payload) :
    KeepsBox c (w.perform c (if (w.cell v).mutable then .write p else .none)) (write v p w).2 := by
  rw [write, Step.bind_apply, Step.get_apply]
  by_cases mutable : (w.cell v).mutable = true
  · have accepted := accept_perform behind p
    simp only [mutable, if_true]
    rcases answer : w.accept v p with ⟨fault | accepts, x⟩
    · rw [answer] at accepted
      rw [← accepted, accept_error behind answer]
      exact keepsBox_refl c w
    · rw [answer] at accepted
      rw [← accepted]
      cases accepts with
      | false => exact keepsBox_refl c x
      | true => exact KeepsBox.of_same rfl rfl rfl
  · simp only [mutable]
    exact keepsBox_refl c w

theorem keepsBox_assign (behind : (w.backing v).container? = some c) (u : Value) :
    KeepsBox c (w.perform c (if w.takesPayload v u then .write (w.payload u) else .none))
      (assign v u w).2 := by
  have written := keepsBox_write behind (w.payload u)
  rw [assign, Step.bind_apply, Step.get_apply, takesPayload]
  by_cases types : (w.ty v).same (w.ty u) = true
  · by_cases self : v = u
    · subst self
      simp only [types, bne_self_eq_false]
      exact keepsBox_refl c w
    · by_cases mutable : (w.cell v).mutable = true
      · have distinct : (v != u) = true := bne_iff_ne.mpr self
        simp only [mutable, if_true] at written
        simp only [types, self, mutable, distinct, World.family, if_true, if_false, Bool.true_and]
        generalize held : w.backing v = b at behind ⊢
        generalize given : w.backing u = d
        cases b with
        | list | set | map =>
            cases d <;> first | exact written | exact KeepsBox.of_same rfl rfl rfl
        | _ => cases behind
      · simp only [types, self, mutable, Bool.and_false, Bool.false_and, Bool.false_eq_true,
          if_false]
        exact keepsBox_refl c w
  · simp only [types, Bool.false_and, Bool.false_eq_true, if_false]
    exact keepsBox_refl c w

theorem perform_miscounted (w : World E) (c : Container) {method : Method} {values : List Value}
    (miscounted : values.length ≠ method.arity) : w.perform c (.method method values) = w := by
  simp only [perform]
  split <;> first | rfl | exact absurd rfl miscounted

section Run

variable {receiver : Value} {method : Method} {values : List Value}
  (count : values.length = method.arity)
include count

theorem keepsBox_run_list {l : ListId} (held : w.backing receiver = .list l) :
    KeepsBox (.list l) (w.perform (.list l) (.method method values))
      (method.run receiver values w).2 := by
  have isList : w.list? receiver = some l := by rw [list?, held]
  have noSet : w.set? receiver = none := by rw [set?, held]
  have noMap : w.map? receiver = none := by rw [map?, held]
  cases method with
  | listAdd =>
      obtain ⟨x, rfl⟩ := List.length_eq_one_iff.mp count
      rw [Method.run, onList_apply, isList]
      exact keepsBox_refl _ _
  | listClear =>
      obtain rfl := List.length_eq_zero_iff.mp count
      rw [Method.run, onList_apply, isList]
      exact keepsBox_refl _ _
  | listSize =>
      rw [Method.run, onList_apply, isList]
      exact sizeValue_within (tracks_keepsBox _).follows w _
  | listGet =>
      rw [Method.run, onList_apply, isList]
      exact keepsBox_refl _ _
  | setAdd | setSize | setContains | setClear =>
      rw [Method.run, onSet_apply, noSet]
      exact keepsBox_refl _ _
  | mapAdd | mapGet | mapSize | mapKeys | mapElements | mapClear =>
      rw [Method.run, onMap_apply, noMap]
      exact keepsBox_refl _ _

theorem keepsBox_run_set {s : SetId} (held : w.backing receiver = .set s) :
    KeepsBox (.set s) (w.perform (.set s) (.method method values))
      (method.run receiver values w).2 := by
  have noList : w.list? receiver = none := by rw [list?, held]
  have isSet : w.set? receiver = some s := by rw [set?, held]
  have noMap : w.map? receiver = none := by rw [map?, held]
  cases method with
  | setAdd =>
      obtain ⟨x, rfl⟩ := List.length_eq_one_iff.mp count
      rw [Method.run, onSet_apply, isSet]
      exact answered_within (tracks_keepsBox _).follows _ w
  | setClear =>
      obtain rfl := List.length_eq_zero_iff.mp count
      rw [Method.run, onSet_apply, isSet]
      exact keepsBox_refl _ _
  | setSize =>
      rw [Method.run, onSet_apply, isSet]
      exact sizeValue_within (tracks_keepsBox _).follows w _
  | setContains =>
      rw [Method.run, onSet_apply, isSet]
      exact newBool_within (tracks_keepsBox _).follows w _
  | listAdd | listSize | listGet | listClear =>
      rw [Method.run, onList_apply, noList]
      exact keepsBox_refl _ _
  | mapAdd | mapGet | mapSize | mapKeys | mapElements | mapClear =>
      rw [Method.run, onMap_apply, noMap]
      exact keepsBox_refl _ _

theorem keepsBox_run_map {m : MapId} (held : w.backing receiver = .map m) :
    KeepsBox (.map m) (w.perform (.map m) (.method method values))
      (method.run receiver values w).2 := by
  have noList : w.list? receiver = none := by rw [list?, held]
  have noSet : w.set? receiver = none := by rw [set?, held]
  have isMap : w.map? receiver = some m := by rw [map?, held]
  cases method with
  | mapAdd =>
      obtain ⟨key, element, rfl⟩ := List.length_eq_two.mp count
      rw [Method.run, onMap_apply, isMap]
      exact answered_within (tracks_keepsBox _).follows _ w
  | mapClear =>
      obtain rfl := List.length_eq_zero_iff.mp count
      rw [Method.run, onMap_apply, isMap]
      exact keepsBox_refl _ _
  | mapGet =>
      rw [Method.run, onMap_apply, isMap]
      exact keepsBox_refl _ _
  | mapSize =>
      rw [Method.run, onMap_apply, isMap]
      exact sizeValue_within (tracks_keepsBox _).follows w _
  | mapKeys | mapElements =>
      rw [Method.run, onMap_apply, isMap]
      exact newListOf_within (tracks_keepsBox _).follows w _ _
  | listAdd | listSize | listGet | listClear =>
      rw [Method.run, onList_apply, noList]
      exact keepsBox_refl _ _
  | setAdd | setSize | setContains | setClear =>
      rw [Method.run, onSet_apply, noSet]
      exact keepsBox_refl _ _

theorem keepsBox_run (behind : (w.backing receiver).container? = some c) :
    KeepsBox c (w.perform c (.method method values)) (method.run receiver values w).2 := by
  have held := Backing.eq_of_container? behind
  cases c with
  | list l => exact keepsBox_run_list count held
  | set s => exact keepsBox_run_set count held
  | map m => exact keepsBox_run_map count held

end Run

end World

/-! Calls -/

def Step.Answers (step : Step E Value) (w : World E) (p : Payload) : Prop :=
  ∃ v u, step w = (.ok v, u) ∧ u.payload v = p

def Step.Lists (step : Step E Value) (w : World E) (items : List Value) : Prop :=
  ∃ v u l, step w = (.ok v, u) ∧ u.list? v = some l ∧ (u.list l).items = items

theorem call_of_nativeMethod? {f : Value} {method : Method} (found : w.nativeMethod? f = some method)
    (embedding : Embedding E) (context : CallContext E) (receiver : Option Value) :
    call embedding f context receiver w = method.native.call context receiver w := by
  rw [call_apply]
  rw [World.nativeMethod?] at found
  cases known : w.callable? f with
  | none =>
      rw [known] at found
      cases found
  | some callable =>
      rw [known, Option.map_some] at found
      dsimp only
      cases behind : callable.routine with
      | external name =>
          rw [behind] at found
          cases found
      | method m =>
          rw [behind] at found
          cases found
          rfl

theorem call_native {f : Value} {method : Method} (found : w.nativeMethod? f = some method)
    (embedding : Embedding E) (values : List Value) (receiver : Value) :
    call embedding f (.ofValues values) (some receiver) w =
      if values.length = method.arity then method.run receiver values w
      else (.error (.arityMismatch method.name method.arity values.length), w) :=
  (call_of_nativeMethod? found embedding (.ofValues values) (some receiver)).trans
    (nativeCall_ofValues method.native values receiver w)

theorem call_method {f : Value} {method : Method} (found : w.nativeMethod? f = some method)
    (embedding : Embedding E) {values : List Value} (count : values.length = method.arity)
    (receiver : Value) :
    call embedding f (.ofValues values) (some receiver) w = method.run receiver values w :=
  (call_native found embedding values receiver).trans (if_pos count)

theorem call_external {R : World E → World E → Prop} (composes : Composes R)
    {embedding : Embedding E} (kept : embedding.Within R) {f : Value}
    (none : w.nativeMethod? f = none) (values : List Value) (receiver : Option Value) :
    R w (call embedding f (.ofValues values) receiver w).2 := by
  rw [call_apply]
  rw [World.nativeMethod?] at none
  cases known : w.callable? f with
  | none => exact composes.refl w
  | some callable =>
      rw [known, Option.map_some] at none
      dsimp only
      cases behind : callable.routine with
      | external name => exact kept.routine callable.identity values receiver w
      | method m =>
          rw [behind] at none
          cases none

namespace World

section Step

variable {embedding : Embedding E} (quiet : embedding.Within (KeepsBox c))
include quiet

theorem keepsBox_call {receiver : Value} (behind : (w.backing receiver).container? = some c)
    (f : Value) (values : List Value) :
    KeepsBox c
      (w.perform c ((w.nativeMethod? f).elim .none fun method => .method method values))
      (call embedding f (.ofValues values) (some receiver) w).2 := by
  cases found : w.nativeMethod? f with
  | none => exact call_external (tracks_keepsBox c).toComposes quiet found values (some receiver)
  | some method =>
      rw [call_native found, Option.elim_some]
      by_cases count : values.length = method.arity
      · rw [if_pos count]
        exact keepsBox_run count behind
      · rw [if_neg count, perform_miscounted w c count]
        exact keepsBox_refl c w

/-- After each operation the container is what its effect alone makes of it. -/
theorem keepsBox_step (operation : Operation E) :
    KeepsBox c (w.perform c (operation.effect w c)) (operation.step embedding w).2 := by
  have apart : (∀ d, operation.fills w d → d ≠ c) →
      KeepsBox c w (operation.step embedding w).2 := by
    intro other
    apply operation_within (tracks_keepsBox c) quiet w operation
    rintro deed done rfl
    exact other c done rfl
  cases operation with
  | listAdd | listClear | setClear | mapClear =>
      rw [Operation.effect]
      split
      · rename_i same
        subst same
        exact keepsBox_refl _ _
      · rename_i other
        exact apart fun d filled => filled ▸ Ne.symm other
  | setAdd | mapAdd =>
      rw [Operation.effect]
      split
      · rename_i same
        subst same
        rw [Operation.step, Operation.dropped, Step.map_snd]
        exact keepsBox_refl _ _
      · rename_i other
        exact apart fun d filled => filled ▸ Ne.symm other
  | write v p =>
      rw [Operation.effect]
      by_cases behind : (w.backing v).container? = some c
      · have written := keepsBox_write behind p
        simp only [behind, true_and]
        rw [Operation.step, Operation.dropped, Step.map_snd]
        exact written
      · rw [if_neg fun both => behind both.1]
        exact apart fun d filled same => behind (same ▸ filled)
  | assign v u =>
      rw [Operation.effect]
      by_cases behind : (w.backing v).container? = some c
      · have assigned := keepsBox_assign behind u
        simp only [behind, true_and]
        rw [Operation.step, Operation.dropped, Step.map_snd]
        exact assigned
      · rw [if_neg fun both => behind both.1]
        exact apart fun d filled same => behind (same ▸ filled)
  | call f values receiver =>
      cases receiver with
      | none =>
          refine apart ?_
          rintro d ⟨r, same, _⟩
          cases same
      | some receiver =>
          rw [Operation.effect]
          by_cases behind : (w.backing receiver).container? = some c
          · rw [if_pos behind, Operation.step, Operation.dropped, Step.map_snd]
            exact keepsBox_call quiet behind f values
          · rw [if_neg behind]
            refine apart ?_
            rintro d ⟨r, same, filled⟩ here
            cases same
            exact behind (here ▸ filled)
  | _ => exact apart fun d filled => filled.elim

/-- What stays true of a container and its log across effects on it and changes elsewhere is true
after every run. -/
theorem logAfter_recorded {α : Type} (Recorded : World E → Log α → Prop)
    {follow : World E → Log α → Effect → Log α}
    (keep : ∀ {u w rows}, Recorded u rows → KeepsBox c u w → Recorded w rows)
    (perform : ∀ {w rows}, Recorded w rows → ∀ effect,
      Recorded (w.perform c effect) (follow w rows effect))
    {rows : Log α} (start : Recorded w rows) (operations : List (Operation E)) :
    Recorded (w.after embedding operations) (logAfter embedding c follow operations w rows) := by
  induction operations generalizing w rows with
  | nil => exact start
  | cons operation rest ih =>
      exact ih (keep (perform start (operation.effect w c)) (keepsBox_step quiet operation))

end Step

end World

end ScriptValues
