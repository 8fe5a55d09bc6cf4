import ScriptValues.Proofs.Copy.Separate
import ScriptValues.Proofs.World.Outcome

/-! What the library does to values of the new part leaves the two parts separate. -/

namespace ScriptValues

variable {E : Type}

theorem SetBox.mem_items_add {b : SetBox} {v x : Value} {p : Payload}
    (member : x ∈ (b.add v p).2.items) : x ∈ b.items ∨ x = v := by
  rw [SetBox.add] at member
  split at member
  · exact .inl member
  · exact (List.mem_append.mp member).imp id List.mem_singleton.mp

theorem MapBox.mem_entries_add {b : MapBox} {key element : Value} {p : Payload}
    {entry : Value × Value} (member : entry ∈ (b.add key element p).2.entries) :
    entry ∈ b.entries ∨ entry = (key, element) := by
  rw [MapBox.add] at member
  split at member
  · exact .inl member
  · exact (List.mem_append.mp member).imp id List.mem_singleton.mp

namespace World.Separate

variable {w u : World E} (separate : w.Separate u)

include separate

theorem newBasics (ty : Ty) (ps : List Payload) :
    w.Separate (u.newBasics ty ps).2 ∧ ∀ x ∈ (u.newBasics ty ps).1, w.Vacant x := by
  induction ps generalizing u with
  | nil => exact ⟨separate, fun _ member => absurd member List.not_mem_nil⟩
  | cons p rest ih =>
      have made : w.Separate (u.newBasic ty p).2 := separate.addCell trivial
      obtain ⟨separate', others⟩ := ih made
      refine ⟨separate', fun x member => ?_⟩
      rcases List.mem_cons.mp member with here | later
      · subst here
        exact vacant_of_new separate.keeps.cells.size
      · exact others x later

/-! Containers of the new part -/

theorem listAdd {l : ListId} (new : w.lists.size ≤ l.index) {x : Value} (vacant : w.Vacant x) :
    w.Separate (u.listAdd l x) := by
  apply separate.writeList new
  intro y member
  rcases List.mem_append.mp member with before | last
  · exact separate.lists l.index new y before
  · rw [List.mem_singleton.mp last]
    exact vacant

theorem listClear {l : ListId} (new : w.lists.size ≤ l.index) : w.Separate (u.listClear l) :=
  separate.writeList new (fun _ member => absurd member List.not_mem_nil)

theorem listRefill {l : ListId} (new : w.lists.size ≤ l.index) (ps : List Payload) :
    w.Separate (u.listRefill l ps) := by
  obtain ⟨made, vacant⟩ := separate.newBasics (u.list l).element ps
  exact made.writeList new vacant

theorem setInsert {s : SetId} (new : w.sets.size ≤ s.index) {x : Value} (vacant : w.Vacant x) :
    w.Separate (u.setInsert s x).2 := by
  apply separate.writeSet new
  intro y member
  rcases SetBox.mem_items_add member with before | last
  · exact separate.sets s.index new y before
  · exact last ▸ vacant

theorem setClear {s : SetId} (new : w.sets.size ≤ s.index) : w.Separate (u.setClear s) :=
  separate.writeSet new (fun _ member => absurd member List.not_mem_nil)

theorem setRefill {s : SetId} (new : w.sets.size ≤ s.index) (ps : List Payload) :
    w.Separate (u.setRefill s ps) := by
  have cleared := separate.setClear new
  rw [World.setRefill]
  generalize u.setClear s = v at cleared
  induction ps generalizing v with
  | nil => exact cleared
  | cons p rest ih =>
      rw [List.foldl_cons]
      apply ih _
      have made : w.Separate (v.newBasic (v.set s).element p).2 := cleared.addCell trivial
      exact made.setInsert new (vacant_of_new cleared.keeps.cells.size)

theorem mapInsert {m : MapId} (new : w.maps.size ≤ m.index) {key element : Value}
    (vacant : w.Vacant key ∧ w.Vacant element) : w.Separate (u.mapInsert m key element).2 := by
  apply separate.writeMap new
  intro entry member
  rcases MapBox.mem_entries_add member with before | last
  · exact separate.maps m.index new entry before
  · exact last ▸ vacant

theorem mapClear {m : MapId} (new : w.maps.size ≤ m.index) : w.Separate (u.mapClear m) :=
  separate.writeMap new (fun _ member => absurd member List.not_mem_nil)

theorem mapRefill {m : MapId} (new : w.maps.size ≤ m.index) (ps : List (Payload × Payload)) :
    w.Separate (u.mapRefill m ps) := by
  have cleared := separate.mapClear new
  rw [World.mapRefill]
  generalize u.mapClear m = v at cleared
  induction ps generalizing v with
  | nil => exact cleared
  | cons p rest ih =>
      rw [List.foldl_cons]
      apply ih _
      have first : w.Separate (v.newBasic (v.map m).key p.1).2 := cleared.addCell trivial
      have second : w.Separate (((v.newBasic (v.map m).key p.1).2).newBasic
          ((v.newBasic (v.map m).key p.1).2.map m).element p.2).2 := first.addCell trivial
      exact second.mapInsert new
        ⟨vacant_of_new cleared.keeps.cells.size, vacant_of_new first.keeps.cells.size⟩

/-! Payloads -/

theorem writeHost (write : Payload → E → Except Refusal Unit × E) (p : Payload) :
    w.Separate (u.writeHost write p).2 := by
  rw [World.writeHost]
  split
  · exact separate.outside _
  · exact separate.outside _

theorem accept {x : Value} (vacant : w.Vacant x) (p : Payload) :
    w.Separate (u.accept x p).2 := by
  have beyond := separate.beyond vacant
  have new := separate.new_of_backing vacant
  unfold World.accept
  cases held : u.backing x with
  | absent => exact separate
  | basic q => exact separate.setBacking (new (by rw [held]; nofun)) trivial
  | aggregate q space =>
      rw [held] at beyond
      exact separate.setBacking (new (by rw [held]; nofun)) beyond
  | property b => exact separate.writeHost _ p
  | aggregateProperty b parent translator => exact separate.writeHost _ p
  | field b => exact separate.writeHost _ p
  | list l =>
      rw [held] at beyond
      cases p with
      | null => exact separate.listClear beyond
      | list items => exact separate.listRefill beyond items
      | _ => exact separate
  | set s =>
      rw [held] at beyond
      cases p with
      | null => exact separate.setClear beyond
      | list items | set items => exact separate.setRefill beyond items
      | _ => exact separate
  | map m =>
      rw [held] at beyond
      cases p with
      | null => exact separate.mapClear beyond
      | map entries => exact separate.mapRefill beyond entries
      | _ => exact separate
  | enum _ | function _ | prototype _ =>
      have here := new (by rw [held]; nofun)
      cases p with
      | null | variant | callable | prototype =>
          first
            | exact separate.setBacking here trivial
            | exact separate
      | _ => exact separate

/-! Writes and assignments -/

open Step

theorem write {x : Value} (vacant : w.Vacant x) (p : Payload) :
    w.Separate (ScriptValues.write x p u).2 := by
  have accepted := separate.accept vacant p
  rw [ScriptValues.write]
  simp only [bind_apply, get_apply]
  by_cases mutable : (u.cell x).mutable = true
  · simp only [mutable, if_true]
    by_cases absent : u.backing x = .absent
    · unfold World.accept
      simp only [absent]
      exact separate
    · have new := separate.new_of_backing vacant absent
      rcases answer : u.accept x p with ⟨fault | accepts, v⟩
      · exact separate
      · rw [answer] at accepted
        cases accepts with
        | false => exact accepted
        | true => exact accepted.setDirty new
  · simp only [mutable]
    exact separate

theorem rehome {x : Value} (vacant : w.Vacant x) {space : SpaceId}
    (new : w.arena.slots.size ≤ space.index) : w.Separate (ScriptValues.rehome x space u).2 := by
  rw [ScriptValues.rehome]
  simp only [bind_apply, get_apply]
  by_cases live : u.arena.contains space = true
  · simp only [live, if_true]
    cases held : u.backing x with
    | aggregate p old =>
        have here := separate.new_of_backing vacant (by rw [held]; nofun)
        have moved : w.Separate (u.setBacking x (.aggregate p space)) := separate.setBacking here new
        exact (moved.unbind new selfName).bind new selfName vacant
    | _ => exact separate
  · simp only [live]
    exact separate

theorem share {x y : Value} (vacant : w.Vacant x ∧ w.Vacant y) (present : u.backing x ≠ .absent) :
    w.Separate ((u.setBacking x (u.backing y)).setDirty x) := by
  have new := separate.new_of_backing vacant.1 present
  exact (separate.setBacking new (separate.beyond vacant.2)).setDirty new

theorem assign {x y : Value} (vacant : w.Vacant x ∧ w.Vacant y) :
    w.Separate (ScriptValues.assign x y u).2 := by
  rw [ScriptValues.assign]
  simp only [bind_apply, get_apply]
  by_cases same : (u.ty x).same (u.ty y) = true
  · simp only [same, if_true]
    by_cases self : x = y
    · simp only [self, if_true]
      exact separate
    · by_cases mutable : (u.cell x).mutable = true
      · simp only [self, if_false, mutable, if_true]
        generalize held : u.backing x = b
        generalize given : u.backing y = c
        split
        · rename_i q p space
          have beyond := separate.beyond vacant.2
          rw [given] at beyond
          have new := separate.new_of_backing vacant.1 (by rw [held]; nofun)
          have moved := separate.rehome vacant.1 beyond
          simp only [bind_apply]
          rcases done : ScriptValues.rehome x space u with ⟨_ | _, v⟩
          · rw [done] at moved
            exact moved
          · rw [done] at moved
            exact (moved.setBacking new beyond).setDirty new
        · exact separate.share vacant (by rw [held]; nofun)
        · exact separate.share vacant (by rw [held]; nofun)
        · exact separate.share vacant (by rw [held]; nofun)
        · exact separate.share vacant (by rw [held]; nofun)
        · exact separate.write vacant.1 _
      · simp only [self, mutable, if_false]
        exact separate
  · simp only [same]
    exact separate

/-! Methods of the containers -/

def Answers (w u : World E) (step : Step E Value) : Prop :=
  w.Separate (step u).2 ∧ ∀ answer, (step u).1 = .ok answer → w.Vacant answer

theorem made {c : Cell E} (beyond : w.Beyond c.backing) :
    w.Separate (u.addCell c).2 ∧ w.Vacant (u.addCell c).1 :=
  ⟨separate.addCell beyond, vacant_of_new separate.keeps.cells.size⟩

omit separate in
theorem answers_change {f : World E → Value × World E}
    (changed : w.Separate (f u).2 ∧ w.Vacant (f u).1) : Answers w u (.change f) :=
  ⟨changed.1, fun _ same => by cases same; exact changed.2⟩

theorem answers_look {f : World E → Value} (vacant : w.Vacant (f u)) : Answers w u (.look f) :=
  ⟨separate, fun _ same => by cases same; exact vacant⟩

omit separate in
theorem answers_added {add : Step E Bool} (added : w.Separate (add u).2) :
    Answers w u (add >>= fun answer => .change fun w : World E => w.newBool answer) := by
  unfold Answers
  rw [bind_apply]
  rcases done : add u with ⟨_ | answer, x⟩
  · rw [done] at added
    exact ⟨added, nofun⟩
  · rw [done] at added
    exact answers_change (added.made trivial)

theorem setAdd {s : SetId} (new : w.sets.size ≤ s.index) {x : Value} (vacant : w.Vacant x) :
    w.Separate (ScriptValues.setAdd s x u).2 := by
  rw [setAdd_apply]
  split
  · exact separate
  · exact separate.setInsert new vacant

theorem mapAdd {m : MapId} (new : w.maps.size ≤ m.index) {key element : Value}
    (vacant : w.Vacant key ∧ w.Vacant element) :
    w.Separate (ScriptValues.mapAdd m key element u).2 := by
  rw [mapAdd_apply]
  split
  · exact separate
  · exact separate.mapInsert new vacant

theorem onList {receiver : Value} (vacant : w.Vacant receiver) {body : ListId → Step E Value}
    (each : ∀ l : ListId, w.lists.size ≤ l.index → Answers w u (body l)) :
    Answers w u (ScriptValues.onList receiver body) := by
  have beyond := separate.beyond vacant
  unfold Answers ScriptValues.onList
  simp only [bind_apply, get_apply, World.list?]
  cases held : u.backing receiver with
  | list l =>
      rw [held] at beyond
      exact each l beyond
  | _ => exact ⟨separate, fun x same => by cases same⟩

theorem onSet {receiver : Value} (vacant : w.Vacant receiver) {body : SetId → Step E Value}
    (each : ∀ s : SetId, w.sets.size ≤ s.index → Answers w u (body s)) :
    Answers w u (ScriptValues.onSet receiver body) := by
  have beyond := separate.beyond vacant
  unfold Answers ScriptValues.onSet
  simp only [bind_apply, get_apply, World.set?]
  cases held : u.backing receiver with
  | set s =>
      rw [held] at beyond
      exact each s beyond
  | _ => exact ⟨separate, fun x same => by cases same⟩

theorem onMap {receiver : Value} (vacant : w.Vacant receiver) {body : MapId → Step E Value}
    (each : ∀ m : MapId, w.maps.size ≤ m.index → Answers w u (body m)) :
    Answers w u (ScriptValues.onMap receiver body) := by
  have beyond := separate.beyond vacant
  unfold Answers ScriptValues.onMap
  simp only [bind_apply, get_apply, World.map?]
  cases held : u.backing receiver with
  | map m =>
      rw [held] at beyond
      exact each m beyond
  | _ => exact ⟨separate, fun x same => by cases same⟩

omit separate in
theorem vacant_getD (absent : w.Vacant .none) {values : List Value}
    (vacant : ∀ x ∈ values, w.Vacant x) (i : Nat) : w.Vacant (values.getD i .none) := by
  rw [List.getD_eq_getElem?_getD]
  cases found : values[i]? with
  | none => exact absent
  | some x => exact vacant x (List.mem_of_getElem? found)

theorem mapGet (absent : w.Vacant .none) {m : MapId} (new : w.maps.size ≤ m.index) (key : Value) :
    w.Vacant (u.mapGet m key) := by
  unfold World.mapGet elementAt?
  cases found : (u.map m).index.find? fun row => (u.payload key).same row.1 with
  | none => exact absent
  | some row =>
      rw [Option.bind_some]
      cases entry : (u.map m).entries[row.2]? with
      | none => exact absent
      | some pair => exact (separate.maps m.index new pair (List.mem_of_getElem? entry)).2

theorem itemAt (absent : w.Vacant .none) {l : ListId} (new : w.lists.size ≤ l.index) (i : Value) :
    w.Vacant (u.itemAt l i) := by
  rw [World.itemAt]
  split
  · exact absent
  · split
    · exact absent
    · exact vacant_getD absent (separate.lists l.index new) _

theorem newListOf (ty : Ty) {items : List Value} (vacant : ∀ x ∈ items, w.Vacant x) :
    w.Separate (u.newListOf ty items).2 ∧ w.Vacant (u.newListOf ty items).1 := by
  have stored := separate.addList (b := ⟨ty.element?.getD .noType, items⟩) vacant
  exact stored.made (c := { ty, mutable := true, backing := .list ⟨u.lists.size⟩ })
    separate.keeps.lists.size

theorem method (absent : w.Vacant .none) (m : Method) {receiver : Value} {arguments : List Value}
    (vacant : w.Vacant receiver) (given : ∀ x ∈ arguments, w.Vacant x) :
    Answers w u (m.run receiver arguments) := by
  have first := vacant_getD absent given 0
  have second := vacant_getD absent given 1
  cases m with
  | listAdd =>
      exact separate.onList vacant fun l new => answers_change ⟨separate.listAdd new first, absent⟩
  | listSize =>
      exact separate.onList vacant fun l new => answers_change (separate.made trivial)
  | listGet =>
      exact separate.onList vacant fun l new => separate.answers_look (separate.itemAt absent new _)
  | listClear =>
      exact separate.onList vacant fun l new => answers_change ⟨separate.listClear new, absent⟩
  | setAdd => exact separate.onSet vacant fun s new => answers_added (separate.setAdd new first)
  | setSize => exact separate.onSet vacant fun s new => answers_change (separate.made trivial)
  | setContains => exact separate.onSet vacant fun s new => answers_change (separate.made trivial)
  | setClear =>
      exact separate.onSet vacant fun s new => answers_change ⟨separate.setClear new, absent⟩
  | mapAdd =>
      exact separate.onMap vacant fun m new => answers_added (separate.mapAdd new ⟨first, second⟩)
  | mapGet =>
      exact separate.onMap vacant fun m new => separate.answers_look (separate.mapGet absent new _)
  | mapSize => exact separate.onMap vacant fun m new => answers_change (separate.made trivial)
  | mapKeys =>
      refine separate.onMap vacant fun m new => answers_change (separate.newListOf _ ?_)
      intro x member
      obtain ⟨entry, found, same⟩ := List.mem_map.mp member
      exact same ▸ (separate.maps m.index new entry found).1
  | mapElements =>
      refine separate.onMap vacant fun m new => answers_change (separate.newListOf _ ?_)
      intro x member
      obtain ⟨entry, found, same⟩ := List.mem_map.mp member
      exact same ▸ (separate.maps m.index new entry found).2
  | mapClear =>
      exact separate.onMap vacant fun m new => answers_change ⟨separate.mapClear new, absent⟩

end World.Separate

end ScriptValues
