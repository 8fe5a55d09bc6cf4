import ScriptValues.Proofs.World.Change
import ScriptValues.Proofs.World.Depth
import ScriptValues.Value.Equality

/-! What lies within a value, and its payload told from theirs.

Values are compared and read through the containers behind them, and not through the members of
aggregates. -/

namespace ScriptValues

namespace World

variable {E : Type} {w : World E} {v u : Value}

def Contains (w : World E) (v u : Value) : Prop := u ∈ w.contents v

def Spans (w : World E) : Value → Value → Prop := Relation.ReflTransGen w.Contains

theorem spans_refl (w : World E) (v : Value) : w.Spans v v := Relation.ReflTransGen.refl

theorem Spans.of_contains {x : Value} (step : w.Contains v u) (path : w.Spans u x) : w.Spans v x :=
  Relation.ReflTransGen.head step path

theorem contains_of_list {l : ListId} (held : w.backing v = .list l) (item : u ∈ (w.list l).items) :
    w.Contains v u := by
  rw [Contains, contents, held]
  exact item

theorem contains_of_set {s : SetId} (held : w.backing v = .set s) (item : u ∈ (w.set s).items) :
    w.Contains v u := by
  rw [Contains, contents, held]
  exact item

theorem contains_of_map {m : MapId} (held : w.backing v = .map m) {entry : Value × Value}
    (member : entry ∈ (w.map m).entries) : w.Contains v entry.1 ∧ w.Contains v entry.2 := by
  simp only [Contains, contents, held, List.mem_flatMap]
  exact ⟨⟨entry, member, List.mem_cons_self⟩,
    ⟨entry, member, List.mem_cons_of_mem _ List.mem_cons_self⟩⟩

theorem present_of_contains (step : w.Contains v u) : v.index < w.cells.size := by
  refine present_of_backing (fun absent => ?_)
  rw [Contains, contents, absent] at step
  exact absurd step List.not_mem_nil

/-- A walk through a value that does not lie within itself ends before it is cut off. -/
theorem shallow_of_loopless (loopless : Loopless w.Contains v) :
    Shallow w.Contains w.walkBound v :=
  loopless.shallow_succ Value.index_injective fun _ _ => present_of_contains

theorem payloadWithin_eq {n m : Nat} (shallow : Shallow w.Contains n v) (enough : n ≤ m) :
    w.payloadWithin m v = w.payloadWithin n v := by
  induction n generalizing v m with
  | zero => exact shallow.elim
  | succ n ih =>
      obtain ⟨m, rfl⟩ : ∃ k, m = k + 1 := ⟨m - 1, by omega⟩
      have within : ∀ x, w.Contains v x → w.payloadWithin m x = w.payloadWithin n x :=
        fun x step => ih (shallow x step) (Nat.le_of_succ_le_succ enough)
      cases held : w.backing v with
      | list l =>
          have items := List.map_congr_left fun x item => within x (contains_of_list held item)
          simp only [payloadWithin, held, items]
      | set s =>
          have items := List.map_congr_left fun x item => within x (contains_of_set held item)
          simp only [payloadWithin, held, items]
      | map k =>
          simp only [payloadWithin, held]
          refine congrArg Payload.map (List.map_congr_left fun entry member => ?_)
          obtain ⟨key, element⟩ := contains_of_map held member
          rw [within _ key, within _ element]
      | enum variant => cases variant <;> simp only [payloadWithin, held]
      | function callable => cases callable <;> simp only [payloadWithin, held]
      | _ => simp only [payloadWithin, held]

section Loopless

variable (loopless : Loopless w.Contains v)
include loopless

theorem payloadWithin_of_contains (step : w.Contains v u) :
    w.payloadWithin w.cells.size u = w.payload u := by
  have shallow : Shallow w.Contains w.cells.size u := shallow_of_loopless loopless u step
  exact (payloadWithin_eq shallow (Nat.le_succ _)).symm

theorem payload_of_list {l : ListId} (held : w.backing v = .list l) :
    w.payload v = .list ((w.list l).items.map w.payload) := by
  have items := List.map_congr_left fun x item =>
    payloadWithin_of_contains loopless (contains_of_list held item)
  rw [payload, walkBound, payloadWithin]
  simp only [held, items]

theorem payload_of_set {s : SetId} (held : w.backing v = .set s) :
    w.payload v = .set ((w.set s).items.map w.payload) := by
  have items := List.map_congr_left fun x item =>
    payloadWithin_of_contains loopless (contains_of_set held item)
  rw [payload, walkBound, payloadWithin]
  simp only [held, items]

theorem payload_of_map {m : MapId} (held : w.backing v = .map m) :
    w.payload v =
      .map ((w.map m).entries.map fun entry => (w.payload entry.1, w.payload entry.2)) := by
  rw [payload, walkBound, payloadWithin]
  simp only [held]
  refine congrArg Payload.map (List.map_congr_left fun entry member => ?_)
  obtain ⟨key, element⟩ := contains_of_map held member
  rw [payloadWithin_of_contains loopless key, payloadWithin_of_contains loopless element]

end Loopless

theorem payload_of_aggregate {p : Payload} {space : SpaceId}
    (held : w.backing v = .aggregate p space) : w.payload v = p := by
  rw [payload, walkBound, payloadWithin]
  simp only [held]

/-! What is read of a value that nothing changed in -/

def SameBox (w u : World E) : Container → Prop
  | .list l => u.list l = w.list l
  | .set s => u.set s = w.set s
  | .map m => u.map m = w.map m

structure ReadsAlike (w u : World E) (v : Value) : Prop where
  backing : ∀ x, w.Spans v x → u.backing x = w.backing x
  boxes : ∀ x c, w.Spans v x → (w.backing x).container? = some c → w.SameBox u c
  outside : u.outside = w.outside

namespace ReadsAlike

variable {x : World E} (alike : w.ReadsAlike x v)
include alike

theorem of_contains (step : w.Contains v u) : w.ReadsAlike x u where
  backing y path := alike.backing y (path.of_contains step)
  boxes y c path behind := alike.boxes y c (path.of_contains step) behind
  outside := alike.outside

theorem payloadWithin (n : Nat) : x.payloadWithin n v = w.payloadWithin n v := by
  induction n generalizing v with
  | zero => rfl
  | succ n ih =>
      have within : ∀ y, w.Contains v y → x.payloadWithin n y = w.payloadWithin n y :=
        fun y step => ih (alike.of_contains step)
      have same := alike.backing v (spans_refl w v)
      have box := fun c => alike.boxes v c (spans_refl w v)
      cases held : w.backing v with
      | list l =>
          have items := List.map_congr_left fun y item => within y (contains_of_list held item)
          have box : x.list l = w.list l := box (.list l) (by rw [held]; rfl)
          simp only [World.payloadWithin, same, held, box, items]
      | set s =>
          have items := List.map_congr_left fun y item => within y (contains_of_set held item)
          have box : x.set s = w.set s := box (.set s) (by rw [held]; rfl)
          simp only [World.payloadWithin, same, held, box, items]
      | map m =>
          have box : x.map m = w.map m := box (.map m) (by rw [held]; rfl)
          simp only [World.payloadWithin, same, held, box]
          refine congrArg Payload.map (List.map_congr_left fun entry member => ?_)
          obtain ⟨key, element⟩ := contains_of_map held member
          rw [within _ key, within _ element]
      | enum variant => cases variant <;> simp only [World.payloadWithin, same, held]
      | function callable => cases callable <;> simp only [World.payloadWithin, same, held]
      | property | aggregateProperty | field =>
          simp only [World.payloadWithin, same, held, alike.outside]
      | _ => simp only [World.payloadWithin, same, held]

theorem payload (size : x.cells.size = w.cells.size) : x.payload v = w.payload v := by
  rw [World.payload, World.payload, walkBound, walkBound, size]
  exact alike.payloadWithin _

end ReadsAlike

structure WritesOnly (filled : Container → Prop) (w u : World E) : Prop where
  cells : u.cells = w.cells
  boxes : ∀ c, ¬ filled c → w.SameBox u c
  outside : u.outside = w.outside

/-- The container stands behind `v` or behind something within it. -/
def Inside (w : World E) (c : Container) (v : Value) : Prop :=
  ∃ x, w.Spans v x ∧ (w.backing x).container? = some c

section Earlier

variable (earlier : ∀ i < w.cells.size, ∀ u ∈ w.contents ⟨i⟩, u.index < i)
include earlier

theorem loopless_of_earlier (v : Value) : Loopless w.Contains v :=
  loopless_of_lt Value.index (fun x _ step => earlier x.index (present_of_contains step) _ step) v

theorem index_le_of_spans {x : Value} (path : w.Spans v x) : x.index ≤ v.index := by
  induction path with
  | refl => exact Nat.le_refl _
  | @tail y z _ step ih =>
      have lower : z.index < y.index := earlier y.index (present_of_contains step) z step
      omega

end Earlier

section Inside

variable {c : Container}

theorem inside_of_readsWithin {bound : Nat} (read : w.readsWithin c bound v = true) :
    w.Inside c v := by
  induction bound generalizing v with
  | zero => cases read
  | succ bound ih =>
      rw [readsWithin, Bool.or_eq_true, beq_iff_eq, List.any_eq_true] at read
      rcases read with here | ⟨x, held, below⟩
      · exact ⟨v, spans_refl w v, here⟩
      · obtain ⟨y, path, behind⟩ := ih below
        exact ⟨y, .of_contains held path, behind⟩

theorem readsWithin_of_path {path : List Value} (chain : List.IsChain w.Contains (v :: path))
    (last : (v :: path).getLast? = some u) (behind : (w.backing u).container? = some c)
    {bound : Nat} (enough : path.length < bound) : w.readsWithin c bound v = true := by
  induction path generalizing v bound with
  | nil =>
      obtain ⟨bound, rfl⟩ : ∃ k, bound = k + 1 := ⟨bound - 1, by omega⟩
      obtain rfl : v = u := Option.some.inj last
      rw [readsWithin, behind, beq_self_eq_true, Bool.true_or]
  | cons x rest ih =>
      obtain ⟨bound, rfl⟩ : ∃ k, bound = k + 1 := ⟨bound - 1, by omega⟩
      rw [List.isChain_cons_cons] at chain
      rw [List.getLast?_cons_cons] at last
      have below := ih chain.2 last (Nat.lt_of_succ_lt_succ enough)
      rw [readsWithin, Bool.or_eq_true, List.any_eq_true]
      exact .inr ⟨x, chain.1, below⟩

/-- A container is read with a value exactly when it lies within the value. The walk is not cut off
before: a path that visits nothing twice is no longer than there are cells. -/
theorem reads_iff : w.reads c v = true ↔ w.Inside c v := by
  refine ⟨inside_of_readsWithin, ?_⟩
  rintro ⟨u, reach, behind⟩
  obtain ⟨path, chain, distinct, last⟩ := exists_nodup_path reach
  have few := length_le_of_places Value.index_injective ((List.dropLast_sublist _).nodup distinct)
    fun x visited => (exists_step_of_mem_dropLast chain visited).elim fun _ => present_of_contains
  rw [List.length_dropLast, List.length_cons] at few
  exact readsWithin_of_path chain last behind (Nat.lt_succ_of_le few)

instance : Decidable (w.Inside c v) := decidable_of_iff _ reads_iff

theorem reads_eq_false_iff : w.reads c v = false ↔ ¬ w.Inside c v := by
  rw [← reads_iff, Bool.not_eq_true]

end Inside

section WritesOnly

variable {filled : Container → Prop} {x : World E}

theorem WritesOnly.refl (filled : Container → Prop) (w : World E) : WritesOnly filled w w where
  cells := rfl
  boxes c _ := by cases c <;> rfl
  outside := rfl

theorem WritesOnly.symm (writes : WritesOnly filled w x) : WritesOnly filled x w where
  cells := writes.cells.symm
  outside := writes.outside.symm
  boxes c apart := by
    have same := writes.boxes c apart
    cases c <;> exact same.symm

theorem WritesOnly.trans {y : World E} (first : WritesOnly filled w x)
    (second : WritesOnly filled x y) : WritesOnly filled w y where
  cells := second.cells.trans first.cells
  outside := second.outside.trans first.outside
  boxes c apart := by
    have before := first.boxes c apart
    have after := second.boxes c apart
    cases c <;> exact Eq.trans after before

theorem WritesOnly.mono {filled' : Container → Prop} (writes : WritesOnly filled w x)
    (more : ∀ c, filled c → filled' c) : WritesOnly filled' w x where
  cells := writes.cells
  outside := writes.outside
  boxes c apart := writes.boxes c fun here => apart (more c here)

theorem WritesOnly.cell (writes : WritesOnly filled w x) (v : Value) : x.cell v = w.cell v :=
  congrArg (Heap.read · v.index) writes.cells

theorem WritesOnly.backing (writes : WritesOnly filled w x) (v : Value) :
    x.backing v = w.backing v :=
  congrArg Cell.backing (writes.cell v)

theorem WritesOnly.contents (writes : WritesOnly filled w x)
    (apart : ∀ c, (w.backing v).container? = some c → ¬ filled c) : x.contents v = w.contents v := by
  have box : ∀ c, (w.backing v).container? = some c → w.SameBox x c :=
    fun c behind => writes.boxes c (apart c behind)
  rw [World.contents, World.contents, writes.backing]
  cases held : w.backing v with
  | list l => exact congrArg ListBox.items (box (.list l) (by rw [held]; rfl))
  | set s => exact congrArg SetBox.items (box (.set s) (by rw [held]; rfl))
  | map m =>
      have same : x.map m = w.map m := box (.map m) (by rw [held]; rfl)
      simp only [same]
  | _ => rfl

theorem WritesOnly.apart (writes : WritesOnly filled w x) (apart : ∀ c, filled c → ¬ w.Inside c v) :
    ∀ c, filled c → ¬ x.Inside c v := by
  rintro c here ⟨u, path, behind⟩
  induction path using Relation.ReflTransGen.head_induction_on with
  | refl => exact apart c here ⟨u, spans_refl w u, writes.backing u ▸ behind⟩
  | @head a b step _ ih =>
      have same : x.contents a = w.contents a :=
        writes.contents fun d held filled => apart d filled ⟨a, spans_refl w a, held⟩
      rw [Contains, same] at step
      exact ih fun d filled ⟨y, path, held⟩ => apart d filled ⟨y, .of_contains step path, held⟩

theorem WritesOnly.inside_iff {c : Container} (writes : WritesOnly (· = c) w x) :
    x.Inside c v ↔ w.Inside c v := by
  constructor
  · contrapose
    exact fun outside => writes.apart (fun d here => here ▸ outside) c rfl
  · contrapose
    exact fun outside => writes.symm.apart (fun d here => here ▸ outside) c rfl

/-- What is written to a container shows in no value that the container does not lie within. -/
theorem WritesOnly.payload (writes : WritesOnly filled w x) (apart : ∀ c, filled c → ¬ w.Inside c v) :
    x.payload v = w.payload v := by
  have alike : w.ReadsAlike x v := by
    refine ⟨fun y _ => ?_, fun y c path behind => ?_, writes.outside⟩
    · exact writes.backing y
    · exact writes.boxes c fun there => apart c there ⟨y, path, behind⟩
  exact alike.payload (congrArg Heap.size writes.cells)

theorem WritesOnly.writeSet (writes : WritesOnly filled w x) {s : SetId} (there : filled (.set s))
    (b : SetBox) : WritesOnly filled w (x.writeSet s b) where
  cells := writes.cells
  outside := writes.outside
  boxes c apart := by
    cases c with
    | list l => exact writes.boxes (.list l) apart
    | map m => exact writes.boxes (.map m) apart
    | set t =>
        have other : s.index ≠ t.index := by
          intro equal
          cases s
          cases t
          cases equal
          exact apart there
        exact (Heap.read_write_other x.sets b other).trans (writes.boxes (.set t) apart)

theorem WritesOnly.writeMap (writes : WritesOnly filled w x) {m : MapId} (there : filled (.map m))
    (b : MapBox) : WritesOnly filled w (x.writeMap m b) where
  cells := writes.cells
  outside := writes.outside
  boxes c apart := by
    cases c with
    | list l => exact writes.boxes (.list l) apart
    | set s => exact writes.boxes (.set s) apart
    | map n =>
        have other : m.index ≠ n.index := by
          intro equal
          cases m
          cases n
          cases equal
          exact apart there
        exact (Heap.read_write_other x.maps b other).trans (writes.boxes (.map n) apart)

end WritesOnly

end World

end ScriptValues
