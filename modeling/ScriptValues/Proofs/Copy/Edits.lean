import ScriptValues.Proofs.Copy.Content
import ScriptValues.Proofs.Copy.Writing

/-! Edits on one side of two separate parts.

An edit that is only given values of the new part changes nothing in the old one, and leaves the two
separate. So does every sequence of such edits. -/

namespace ScriptValues

variable {E : Type}

namespace World

def ownSpace? (w : World E) (v : Value) : Option SpaceId :=
  match w.backing v with
  | .aggregate _ space => some space
  | _ => none

end World

/-- What a script can do to values that it holds: writing payloads, assigning, changing and querying
containers, binding members, and making new values from payloads. -/
inductive Edit (E : Type) where
  | write (v : Value) (p : Payload)
  | assign (v u : Value)
  | listAdd (v u : Value)
  | listClear (v : Value)
  | setAdd (v u : Value)
  | setClear (v : Value)
  | mapAdd (v key element : Value)
  | mapClear (v : Value)
  | method (method : Method) (receiver : Value) (arguments : List Value)
  | bind (v : Value) (name : String) (u : Value)
  | rebind (v : Value) (name : String) (u : Value)
  | unbind (v : Value) (name : String)
  | newBasic (ty : Ty) (p : Payload) (mutable : Bool)
  | newEnum (ty : Ty) (variant : Option Variant)
  | newFunction (ty : Ty) (callable : Option Callable)
  | newList (ty : Ty)
  | newSet (ty : Ty)
  | newMap (ty : Ty)

namespace Edit

def mentions : Edit E → List Value
  | write v _ | listClear v | setClear v | mapClear v | unbind v _ => [v]
  | assign v u | listAdd v u | setAdd v u | bind v _ u | rebind v _ u => [v, u]
  | mapAdd v key element => [v, key, element]
  | method _ receiver arguments => receiver :: arguments
  | newBasic _ _ _ | newEnum _ _ | newFunction _ _ | newList _ | newSet _ | newMap _ => []

def atSpace (w : World E) (v : Value) (change : Arena → SpaceId → Arena) : World E :=
  match w.ownSpace? v with
  | none => w
  | some space => w.withArena (change w.arena space)

def yielded : Except Fault Value × World E → List Value × World E
  | (.ok answer, w) => ([answer], w)
  | (.error _, w) => ([], w)

/-- The values that an edit yields, and the world afterwards. -/
def run : Edit E → World E → List Value × World E
  | write v p, w => ([], (ScriptValues.write v p w).2)
  | assign v u, w => ([], (ScriptValues.assign v u w).2)
  | listAdd v u, w => ([], ((w.list? v).map fun l => w.listAdd l u).getD w)
  | listClear v, w => ([], ((w.list? v).map fun l => w.listClear l).getD w)
  | setAdd v u, w => ([], ((w.set? v).map fun s => (ScriptValues.setAdd s u w).2).getD w)
  | setClear v, w => ([], ((w.set? v).map fun s => w.setClear s).getD w)
  | mapAdd v key element, w =>
      ([], ((w.map? v).map fun m => (ScriptValues.mapAdd m key element w).2).getD w)
  | mapClear v, w => ([], ((w.map? v).map fun m => w.mapClear m).getD w)
  | method m receiver arguments, w => yielded (m.run receiver arguments w)
  | bind v name u, w => ([], atSpace w v fun a space => (a.bind space name u).2)
  | rebind v name u, w => ([], atSpace w v fun a space => (a.rebind space name u).2)
  | unbind v name, w => ([], atSpace w v fun a space => (a.unbind space name).2)
  | newBasic ty p mutable, w => ([(w.newBasic ty p mutable).1], (w.newBasic ty p mutable).2)
  | newEnum ty variant, w => ([(w.newEnum ty variant).1], (w.newEnum ty variant).2)
  | newFunction ty callable, w => ([(w.newFunction ty callable).1], (w.newFunction ty callable).2)
  | newList ty, w => ([(w.newList ty).1], (w.newList ty).2)
  | newSet ty, w => ([(w.newSet ty).1], (w.newSet ty).2)
  | newMap ty, w => ([(w.newMap ty).1], (w.newMap ty).2)

end Edit

/-- Sequences of edits from the world `w` and the value `c`. Each edit is given values that can be
read from `c` or from what earlier edits yielded. -/
inductive Edited (w : World E) (c : Value) : List Value → World E → Prop
  | start : Edited w c [] w
  | next {made : List Value} {u : World E} (before : Edited w c made u) (edit : Edit E)
      (own : ∀ x ∈ edit.mentions, ∃ root ∈ c :: made, u.Leads root x) :
      Edited w c ((edit.run u).1 ++ made) (edit.run u).2

namespace World.Separate

variable {w u : World E} (separate : w.Separate u)

include separate

theorem vacant_of_links {x y : Value} (vacant : w.Vacant x) (step : u.Links x y) : w.Vacant y := by
  have beyond := separate.beyond vacant
  cases step with
  | content step =>
      cases step with
      | listItem held item =>
          rw [held] at beyond
          exact separate.lists _ beyond y item
      | setItem held item =>
          rw [held] at beyond
          exact separate.sets _ beyond y item
      | key held entry =>
          rw [held] at beyond
          exact (separate.maps _ beyond _ entry).1
      | element held entry =>
          rw [held] at beyond
          exact (separate.maps _ beyond _ entry).2
      | member held _ bound =>
          rw [held] at beyond
          exact separate.vacant_of_bound beyond bound
  | itself held bound =>
      rw [held] at beyond
      exact separate.vacant_of_bound beyond bound

theorem vacant_of_leads {x y : Value} (vacant : w.Vacant x) (path : u.Leads x y) : w.Vacant y := by
  induction path with
  | refl => exact vacant
  | tail _ step ih => exact separate.vacant_of_links ih step

theorem atSpace {x : Value} (vacant : w.Vacant x) (change : Arena → SpaceId → Arena)
    (each : ∀ space : SpaceId, w.arena.slots.size ≤ space.index →
      w.Separate (u.withArena (change u.arena space))) :
    w.Separate (Edit.atSpace u x change) := by
  have beyond := separate.beyond vacant
  unfold Edit.atSpace World.ownSpace?
  cases held : u.backing x with
  | aggregate p space =>
      rw [held] at beyond
      exact each space beyond
  | _ => exact separate

theorem atList {x : Value} (vacant : w.Vacant x) {change : ListId → World E}
    (each : ∀ l : ListId, w.lists.size ≤ l.index → w.Separate (change l)) :
    w.Separate (((u.list? x).map change).getD u) := by
  have beyond := separate.beyond vacant
  rw [World.list?]
  cases held : u.backing x with
  | list l =>
      rw [held] at beyond
      exact each l beyond
  | _ => exact separate

theorem atSet {x : Value} (vacant : w.Vacant x) {change : SetId → World E}
    (each : ∀ s : SetId, w.sets.size ≤ s.index → w.Separate (change s)) :
    w.Separate (((u.set? x).map change).getD u) := by
  have beyond := separate.beyond vacant
  rw [World.set?]
  cases held : u.backing x with
  | set s =>
      rw [held] at beyond
      exact each s beyond
  | _ => exact separate

theorem atMap {x : Value} (vacant : w.Vacant x) {change : MapId → World E}
    (each : ∀ m : MapId, w.maps.size ≤ m.index → w.Separate (change m)) :
    w.Separate (((u.map? x).map change).getD u) := by
  have beyond := separate.beyond vacant
  rw [World.map?]
  cases held : u.backing x with
  | map m =>
      rw [held] at beyond
      exact each m beyond
  | _ => exact separate

omit separate in
theorem no_values : ∀ x ∈ ([] : List Value), w.Vacant x :=
  fun _ member => absurd member List.not_mem_nil

omit separate in
theorem one_value {x : Value} (vacant : w.Vacant x) : ∀ y ∈ [x], w.Vacant y := by
  intro y member
  rw [List.mem_singleton.mp member]
  exact vacant

theorem newCell {c : Cell E} (beyond : w.Beyond c.backing) :
    w.Separate (u.addCell c).2 ∧ ∀ x ∈ [(u.addCell c).1], w.Vacant x :=
  ⟨separate.addCell beyond, one_value (vacant_of_new separate.keeps.cells.size)⟩

theorem edit (absent : w.Vacant .none) (edit : Edit E)
    (given : ∀ x ∈ edit.mentions, w.Vacant x) :
    w.Separate (edit.run u).2 ∧ ∀ x ∈ (edit.run u).1, w.Vacant x := by
  cases edit with
  | write v p => exact ⟨separate.write (given v (by simp [Edit.mentions])) p, no_values⟩
  | assign v x =>
      exact ⟨separate.assign ⟨given v (by simp [Edit.mentions]), given x (by simp [Edit.mentions])⟩,
        no_values⟩
  | listAdd v x =>
      have item := given x (by simp [Edit.mentions])
      exact ⟨separate.atList (given v (by simp [Edit.mentions]))
        fun l new => separate.listAdd new item, no_values⟩
  | listClear v =>
      exact ⟨separate.atList (given v (by simp [Edit.mentions]))
        fun l new => separate.listClear new, no_values⟩
  | setAdd v x =>
      have item := given x (by simp [Edit.mentions])
      exact ⟨separate.atSet (given v (by simp [Edit.mentions]))
        fun s new => separate.setAdd new item, no_values⟩
  | setClear v =>
      exact ⟨separate.atSet (given v (by simp [Edit.mentions]))
        fun s new => separate.setClear new, no_values⟩
  | mapAdd v key element =>
      have entry : w.Vacant key ∧ w.Vacant element :=
        ⟨given key (by simp [Edit.mentions]), given element (by simp [Edit.mentions])⟩
      exact ⟨separate.atMap (given v (by simp [Edit.mentions]))
        fun m new => separate.mapAdd new entry, no_values⟩
  | mapClear v =>
      exact ⟨separate.atMap (given v (by simp [Edit.mentions]))
        fun m new => separate.mapClear new, no_values⟩
  | method m receiver arguments =>
      have others : ∀ x ∈ arguments, w.Vacant x :=
        fun x member => given x (by simp [Edit.mentions, member])
      have answers := separate.method absent m (given receiver (by simp [Edit.mentions])) others
      rw [Answers] at answers
      change w.Separate (Edit.yielded (m.run receiver arguments u)).2 ∧
        ∀ x ∈ (Edit.yielded (m.run receiver arguments u)).1, w.Vacant x
      rcases done : m.run receiver arguments u with ⟨_ | answer, v⟩
      · rw [done] at answers
        exact ⟨answers.1, no_values⟩
      · rw [done] at answers
        exact ⟨answers.1, one_value (answers.2 answer rfl)⟩
  | bind v name x =>
      have item := given x (by simp [Edit.mentions])
      exact ⟨separate.atSpace (given v (by simp [Edit.mentions]))
        (fun a space => (a.bind space name x).2)
        fun space new => separate.bind new name item, no_values⟩
  | rebind v name x =>
      have item := given x (by simp [Edit.mentions])
      exact ⟨separate.atSpace (given v (by simp [Edit.mentions]))
        (fun a space => (a.rebind space name x).2)
        fun space new => separate.rebind new name item, no_values⟩
  | unbind v name =>
      exact ⟨separate.atSpace (given v (by simp [Edit.mentions]))
        (fun a space => (a.unbind space name).2)
        fun space new => separate.unbind new name, no_values⟩
  | newBasic | newEnum | newFunction => exact separate.newCell trivial
  | newList ty =>
      have stored := separate.addList (b := ⟨ty.element?.getD .noType, []⟩) no_values
      exact stored.newCell (c := { ty, mutable := true, backing := .list ⟨u.lists.size⟩ })
        separate.keeps.lists.size
  | newSet ty =>
      have stored := separate.addSet (b := ⟨ty.element?.getD .noType, [], []⟩) no_values
      exact stored.newCell (c := { ty, mutable := true, backing := .set ⟨u.sets.size⟩ })
        separate.keeps.sets.size
  | newMap ty =>
      have stored := separate.addMap
        (b := ⟨ty.key?.getD .noType, ty.element?.getD .noType, [], []⟩)
        (fun _ member => absurd member List.not_mem_nil)
      exact stored.newCell (c := { ty, mutable := true, backing := .map ⟨u.maps.size⟩ })
        separate.keeps.maps.size

/-- A sequence of edits that starts from a value of the new part stays within the new part. -/
theorem edited (absent : w.Vacant .none) {c : Value} (vacant : w.Vacant c) {made : List Value}
    {v : World E} (edited : Edited u c made v) :
    w.Separate v ∧ ∀ x ∈ made, w.Vacant x := by
  induction edited with
  | start => exact ⟨separate, no_values⟩
  | next before edit own ih =>
      obtain ⟨separate, roots⟩ := ih
      have given : ∀ x ∈ edit.mentions, w.Vacant x := by
        intro x member
        obtain ⟨root, known, path⟩ := own x member
        rcases List.mem_cons.mp known with first | later
        · exact separate.vacant_of_leads (first ▸ vacant) path
        · exact separate.vacant_of_leads (roots root later) path
      obtain ⟨separate, yielded⟩ := separate.edit absent edit given
      refine ⟨separate, fun x member => ?_⟩
      rcases List.mem_append.mp member with here | earlier
      · exact yielded x here
      · exact roots x earlier

end World.Separate

end ScriptValues
