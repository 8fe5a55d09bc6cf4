import ScriptValues.Collection.Basic
import ScriptValues.Proofs.Payload.Equality

/-! Sets and maps as logs of the additions that they accepted.

A log holds what was added and the payload under which it was added, and turns away an addition
under a payload that it holds. A set or map stands for a log through two lists that have to fit
together: its contents and its index. -/

namespace ScriptValues

/-- Accepted additions in their order, each with the payload under which it was made. -/
abbrev Log (α : Type) := List (α × Payload)

namespace Log

variable {α : Type} {log : Log α} {a : α} {p : Payload}

def holds (log : Log α) (p : Payload) : Bool := log.any fun row => p.same row.2

def find? (log : Log α) (p : Payload) : Option α :=
  (List.find? (fun row => p.same row.2) log).map Prod.fst

/-- The first addition under a payload wins. -/
def add (log : Log α) (a : α) (p : Payload) : Log α :=
  if log.holds p then log else log ++ [(a, p)]

def ofRows (rows : List (α × Payload)) : Log α := rows.foldl (fun log row => log.add row.1 row.2) []

def Distinct (log : Log α) : Prop :=
  log.Pairwise fun earlier later => later.2.same earlier.2 = false

theorem holds_iff : log.holds p = true ↔ ∃ row ∈ log, p.same row.2 = true := by
  rw [holds, List.any_eq_true]

theorem indexed_payloads (log : Log α) (p : Payload) :
    World.indexed (log.map Prod.snd) p = log.holds p := by
  rw [World.indexed, List.any_map]
  rfl

theorem find?_isSome (log : Log α) (p : Payload) : (log.find? p).isSome = log.holds p := by
  rw [find?, Option.isSome_map, List.isSome_find?, holds]

theorem find?_eq_some_iff : log.find? p = some a ↔
    ∃ q before after, log = before ++ (a, q) :: after ∧ p.same q = true ∧
      ∀ row ∈ before, p.same row.2 = false := by
  rw [find?, Option.map_eq_some_iff]
  constructor
  · rintro ⟨⟨b, q⟩, found, same⟩
    obtain ⟨equal, before, after, split, none⟩ := List.find?_eq_some_iff_append.mp found
    subst same
    exact ⟨q, before, after, split, equal, fun row member => by simpa using none row member⟩
  · rintro ⟨q, before, after, split, equal, none⟩
    refine ⟨(a, q), List.find?_eq_some_iff_append.mpr ⟨equal, before, after, split, ?_⟩, rfl⟩
    exact fun row member => by simpa using none row member

theorem holds_add {q : Payload} (equal : q.same p = true) (a : α) :
    (log.add a p).holds q = true := by
  rw [add]
  split
  · rename_i there
    obtain ⟨row, member, same⟩ := holds_iff.mp there
    exact holds_iff.mpr ⟨row, member, Payload.same_trans equal same⟩
  · exact holds_iff.mpr ⟨(a, p), List.mem_append_right _ List.mem_cons_self, equal⟩

theorem holds_add_of_holds {q : Payload} (there : log.holds q = true) (a : α) (p : Payload) :
    (log.add a p).holds q = true := by
  rw [add]
  split
  · exact there
  · obtain ⟨row, member, same⟩ := holds_iff.mp there
    exact holds_iff.mpr ⟨row, List.mem_append_left _ member, same⟩

theorem mem_add {row : α × Payload} (member : row ∈ log.add a p) : row ∈ log ∨ row = (a, p) := by
  rw [add] at member
  split at member
  · exact .inl member
  · exact (List.mem_append.mp member).imp id List.mem_singleton.mp

theorem distinct_nil : Distinct ([] : Log α) := List.Pairwise.nil

theorem Distinct.add (distinct : log.Distinct) (a : α) (p : Payload) : (log.add a p).Distinct := by
  rw [Log.add]
  split
  · exact distinct
  · rename_i new
    refine List.pairwise_append.mpr ⟨distinct, List.pairwise_singleton _ _, ?_⟩
    intro row member last same
    rw [List.mem_singleton.mp same]
    have other : ¬ p.same row.2 = true := fun equal => new (holds_iff.mpr ⟨row, member, equal⟩)
    simpa using other

theorem Distinct.unequal (distinct : log.Distinct) (clean : ∀ row ∈ log, row.2.Clean) :
    log.Pairwise fun a b => a.2.same b.2 = false ∧ b.2.same a.2 = false := by
  refine List.Pairwise.imp_of_mem (fun {a b} first second apart => ⟨?_, apart⟩) distinct
  rw [(clean a first).same_comm (clean b second)]
  exact apart

end Log

namespace SetBox

variable {b : SetBox} {rows : Log Value}

/-- The set stands for the log with these rows. -/
structure Records (b : SetBox) (rows : Log Value) : Prop where
  items : b.items = rows.map Prod.fst
  index : b.index = rows.map Prod.snd
  distinct : rows.Distinct

def log (b : SetBox) : Log Value := b.items.zip b.index

def Sound (b : SetBox) : Prop := b.Records b.log

theorem Records.log_eq (records : b.Records rows) : b.log = rows := by
  rw [SetBox.log, records.items, records.index, List.zip_map', List.map_id']

theorem Records.sound (records : b.Records rows) : b.Sound := by
  rw [Sound, records.log_eq]
  exact records

theorem Records.indexed (records : b.Records rows) (p : Payload) :
    World.indexed b.index p = rows.holds p := by
  rw [records.index, Log.indexed_payloads]

theorem records_cleared (b : SetBox) : b.cleared.Records [] := ⟨rfl, rfl, Log.distinct_nil⟩

theorem records_new (element : Ty) : (⟨element, [], []⟩ : SetBox).Records [] :=
  ⟨rfl, rfl, Log.distinct_nil⟩

theorem Records.rejects (records : b.Records rows) {p : Payload} (there : rows.holds p = true)
    (v : Value) : b.add v p = (false, b) := by
  rw [SetBox.add, records.indexed, if_pos there]

theorem Records.accepts (records : b.Records rows) {p : Payload} (new : rows.holds p = false)
    (v : Value) :
    b.add v p = (true, { b with items := b.items ++ [v], index := b.index ++ [p] }) := by
  rw [SetBox.add, records.indexed, new]
  rfl

theorem Records.add (records : b.Records rows) (v : Value) (p : Payload) :
    (b.add v p).1 = !rows.holds p ∧ (b.add v p).2.Records (rows.add v p) := by
  have distinct := records.distinct.add v p
  cases there : rows.holds p with
  | true =>
      rw [records.rejects there, Log.add, if_pos there]
      exact ⟨rfl, records⟩
  | false =>
      rw [records.accepts there]
      rw [Log.add, there] at distinct ⊢
      exact ⟨rfl, by simp [records.items], by simp [records.index], distinct⟩

theorem Sound.add (sound : b.Sound) (v : Value) (p : Payload) : (b.add v p).2.Sound :=
  (Records.add sound v p).2.sound

end SetBox

namespace MapBox

variable {b : MapBox} {rows : Log (Value × Value)}

/-- The map stands for the log with these rows: its index leads from each payload to its row. -/
structure Records (b : MapBox) (rows : Log (Value × Value)) : Prop where
  entries : b.entries = rows.map Prod.fst
  index : b.index = (rows.map Prod.snd).zipIdx
  distinct : rows.Distinct

def log (b : MapBox) : Log (Value × Value) := b.entries.zip (b.index.map Prod.fst)

def Sound (b : MapBox) : Prop := b.Records b.log

theorem Records.payloads (records : b.Records rows) : b.index.map Prod.fst = rows.map Prod.snd := by
  rw [records.index, List.zipIdx_map_fst]

theorem Records.log_eq (records : b.Records rows) : b.log = rows := by
  rw [MapBox.log, records.entries, records.payloads, List.zip_map', List.map_id']

theorem Records.sound (records : b.Records rows) : b.Sound := by
  rw [Sound, records.log_eq]
  exact records

theorem Records.positions (records : b.Records rows) :
    b.index.map Prod.snd = List.range b.entries.length := by
  rw [records.index, records.entries, List.zipIdx_map_snd, List.length_map, List.length_map,
    List.range_eq_range']

def keys (b : MapBox) : List Payload := b.index.map Prod.fst

theorem position?_isSome (b : MapBox) (p : Payload) :
    (b.position? p).isSome = World.indexed b.keys p := by
  rw [MapBox.position?, Option.isSome_map, List.isSome_find?, World.indexed, keys, List.any_map]
  rfl

theorem Records.position? (records : b.Records rows) (p : Payload) :
    (b.position? p).isSome = rows.holds p := by
  rw [position?_isSome, keys, records.payloads, Log.indexed_payloads]

theorem records_cleared (b : MapBox) : b.cleared.Records [] := ⟨rfl, rfl, Log.distinct_nil⟩

theorem records_new (key element : Ty) : (⟨key, element, [], []⟩ : MapBox).Records [] :=
  ⟨rfl, rfl, Log.distinct_nil⟩

theorem Records.rejects (records : b.Records rows) {p : Payload} (there : rows.holds p = true)
    (key element : Value) : b.add key element p = (false, b) := by
  rw [MapBox.add, records.position?, if_pos there]

theorem Records.accepts (records : b.Records rows) {p : Payload} (new : rows.holds p = false)
    (key element : Value) :
    b.add key element p =
      (true,
        { b with
            entries := b.entries ++ [(key, element)]
            index := b.index ++ [(p, b.entries.length)] }) := by
  rw [MapBox.add, records.position?, new]
  rfl

theorem Records.add (records : b.Records rows) (key element : Value) (p : Payload) :
    (b.add key element p).1 = !rows.holds p ∧
      (b.add key element p).2.Records (rows.add (key, element) p) := by
  have distinct := records.distinct.add (key, element) p
  cases there : rows.holds p with
  | true =>
      rw [records.rejects there, Log.add, if_pos there]
      exact ⟨rfl, records⟩
  | false =>
      rw [records.accepts there]
      rw [Log.add, there] at distinct ⊢
      refine ⟨rfl, by simp [records.entries], ?_, distinct⟩
      simp [records.index, records.entries, List.zipIdx_append]

theorem Sound.add (sound : b.Sound) (key element : Value) (p : Payload) :
    (b.add key element p).2.Sound :=
  (Records.add sound key element p).2.sound

theorem find_from (p : Payload) (front : List (Value × Value)) (rows : Log (Value × Value)) :
    (((rows.map Prod.snd).zipIdx front.length).find? fun row => p.same row.1).bind
        (fun row => (front ++ rows.map Prod.fst)[row.2]?) = rows.find? p := by
  induction rows generalizing front with
  | nil => rfl
  | cons row rest ih =>
      have later := ih (front ++ [row.1])
      rw [List.length_append, List.length_singleton, List.append_assoc] at later
      rw [List.map_cons, List.map_cons, List.zipIdx_cons, List.find?_cons, Log.find?,
        List.find?_cons]
      cases p.same row.2 with
      | true => simp
      | false => exact later

/-- Every position in the index leads to an entry, so what is found under a payload is the element
of the first addition under it. -/
theorem Records.elementAt? (records : b.Records rows) (p : Payload) :
    World.elementAt? b p = (rows.find? p).map Prod.snd := by
  have found := find_from p [] rows
  rw [List.length_nil, List.nil_append, ← records.index, ← records.entries] at found
  rw [World.elementAt?, ← found, Option.map_bind]
  rfl

end MapBox

end ScriptValues
