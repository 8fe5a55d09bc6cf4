import ScriptValues.Collection.Hashed
import ScriptValues.Proofs.Collection.Firsts
import ScriptValues.Proofs.Payload.Hashing
import Mathlib.Data.List.Find

/-! A look-up by hash misses nothing.

It compares a payload with those of one hash only, which is enough when equal payloads have one
hash. So a set or map that goes by hashes takes the additions that one takes that compares a payload
with all, and finds what was added. -/

namespace ScriptValues

variable {κ : Type} {hash : Payload → κ}

/-- Equal payloads have one hash where nothing is repeated in them. -/
def Coherent (hash : Payload → κ) : Prop :=
  ∀ {p q : Payload}, p.Clean → q.Clean → p.same q = true → hash p = hash q

theorem coherent_feed (digest : Feed → UInt64) (finish : Feed → κ) :
    Coherent fun p => finish (p.feed digest) :=
  fun first second equal => congrArg finish (first.feed_eq second equal)

variable [DecidableEq κ]

theorem find?_hashRows {α : Type} (coherent : Coherent hash) (key : α → Payload) {rows : List α}
    {p : Payload} (clean : ∀ row ∈ rows, (key row).Clean) (first : p.Clean) :
    (hashRows hash key rows p).find? (fun row => p.same (key row)) =
      rows.find? fun row => p.same (key row) := by
  rw [hashRows, List.find?_filter]
  refine List.find?_congr fun row member => ?_
  have one : p.same (key row) = true → hash (key row) = hash p := fun equal =>
    (coherent first (clean row member) equal).symm
  cases equal : p.same (key row) <;> simp_all

section Filing

variable {α β : Type} {keys : β → List Payload} {add hashedAdd : β → α × Payload → β}

/-- What is added is filed under its payload, unless an equal one is filed already. -/
def Files (keys : β → List Payload) (add : β → α × Payload → β) : Prop :=
  ∀ b row, keys (add b row) =
    if World.indexed (keys b) row.2 then keys b else keys b ++ [row.2]

theorem Files.indexed_add (files : Files keys add) (b : β) (row : α × Payload) (p : Payload) :
    World.indexed (keys (add b row)) p = (World.indexed (keys b) p || p.same row.2) := by
  rw [files b row]
  split
  · rename_i there
    cases equal : p.same row.2 with
    | false => rw [Bool.or_false]
    | true =>
        obtain ⟨r, member, same⟩ := List.any_eq_true.mp there
        rw [Bool.or_true]
        exact List.any_eq_true.mpr ⟨r, member, Payload.same_trans equal same⟩
  · exact indexed_append (keys b) row.2 p

theorem Files.indexed_foldl (files : Files keys add) (b : β) (rows : Log α) (p : Payload) :
    World.indexed (keys (rows.foldl add b)) p = (World.indexed (keys b) p || rows.holds p) := by
  induction rows generalizing b with
  | nil => exact (Bool.or_false _).symm
  | cons row rest ih =>
      calc
        _ = (World.indexed (keys (add b row)) p || Log.holds rest p) := ih _
        _ = (World.indexed (keys b) p || p.same row.2 || Log.holds rest p) := by
          rw [files.indexed_add]
        _ = _ := by rw [Log.holds, Log.holds, List.any_cons, Bool.or_assoc]

/-- An addition that agrees with one that files clean payloads agrees with it over a whole run. -/
theorem Files.foldl_eq (files : Files keys add)
    (agree : ∀ b row, (∀ q ∈ keys b, q.Clean) → row.2.Clean → hashedAdd b row = add b row) {b : β}
    (clean : ∀ q ∈ keys b, q.Clean) {rows : Log α} (added : ∀ row ∈ rows, row.2.Clean) :
    rows.foldl hashedAdd b = rows.foldl add b ∧ ∀ q ∈ keys (rows.foldl add b), q.Clean := by
  induction rows generalizing b with
  | nil => exact ⟨rfl, clean⟩
  | cons row rest ih =>
      obtain ⟨new, rest⟩ := List.forall_mem_cons.mp added
      rw [List.foldl_cons, List.foldl_cons, agree b row clean new]
      refine ih ?_ rest
      rw [files b row]
      split
      · exact clean
      · simpa [or_imp, forall_and] using ⟨clean, new⟩

end Filing

namespace SetBox

variable {b : SetBox} {p : Payload}

theorem files_add : Files index fun b (row : Value × Payload) => (b.add row.1 row.2).2 := by
  intro b row
  dsimp only [add]
  split <;> rfl

theorem hashedContains_eq (coherent : Coherent hash) (clean : ∀ q ∈ b.index, q.Clean)
    (first : p.Clean) : b.hashedContains hash p = World.indexed b.index p := by
  have found := find?_hashRows coherent id clean first
  rw [hashedContains, World.indexed, World.indexed, ← List.isSome_find?, ← List.isSome_find?]
  exact congrArg Option.isSome found

theorem hashedAdd_eq (coherent : Coherent hash) (clean : ∀ q ∈ b.index, q.Clean) (v : Value)
    (first : p.Clean) : b.hashedAdd hash v p = b.add v p := by
  rw [hashedAdd, add, hashedContains_eq coherent clean first]

theorem fill_hashedAdd (coherent : Coherent hash) (clean : ∀ q ∈ b.index, q.Clean)
    {rows : Log Value} (added : ∀ row ∈ rows, row.2.Clean) :
    b.fill (hashedAdd hash) rows = b.fill add rows ∧ ∀ q ∈ (b.fill add rows).index, q.Clean :=
  files_add.foldl_eq
    (fun _ row clean new => congrArg Prod.snd (hashedAdd_eq coherent clean row.1 new)) clean added

end SetBox

namespace MapBox

variable {b : MapBox} {p : Payload}

theorem files_add :
    Files keys fun b (row : (Value × Value) × Payload) => (b.add row.1.1 row.1.2 row.2).2 := by
  intro b row
  dsimp only [add]
  rw [← position?_isSome]
  split
  · rfl
  · exact List.map_append

theorem hashedPosition?_eq (coherent : Coherent hash) (clean : ∀ q ∈ b.keys, q.Clean)
    (first : p.Clean) : b.hashedPosition? hash p = b.position? p := by
  rw [hashedPosition?, position?,
    find?_hashRows coherent Prod.fst (List.forall_mem_map.mp clean) first]

theorem hashedAdd_eq (coherent : Coherent hash) (clean : ∀ q ∈ b.keys, q.Clean)
    (key element : Value) (first : p.Clean) :
    b.hashedAdd hash key element p = b.add key element p := by
  rw [hashedAdd, add, hashedPosition?_eq coherent clean first]

theorem fill_hashedAdd (coherent : Coherent hash) (clean : ∀ q ∈ b.keys, q.Clean)
    {rows : Log (Value × Value)} (added : ∀ row ∈ rows, row.2.Clean) :
    b.fill (hashedAdd hash) rows = b.fill add rows ∧ ∀ q ∈ (b.fill add rows).keys, q.Clean :=
  files_add.foldl_eq
    (fun _ row clean new => congrArg Prod.snd (hashedAdd_eq coherent clean row.1.1 row.1.2 new))
    clean added

end MapBox

namespace Payload

/-- Equal payloads without repetitions feed a hasher the same, whatever function `digest` hashes the
items of their sets and maps by, and the order of those does not matter. So a set or map that compares
only what has one hash behaves like one that compares a payload with all, and finds it exactly if it
held an equal one or one was added. -/
theorem equal_payloads_hash_alike (digest : Feed → UInt64) (finish : Feed → κ) :
    (∀ p q : Payload, p.Clean → q.Clean → p.same q = true → p.feed digest = q.feed digest) ∧
    (∀ items others : List Payload, items.Perm others →
      (set items).feed digest = (set others).feed digest) ∧
    (∀ entries others : List (Payload × Payload), entries.Perm others →
      (map entries).feed digest = (map others).feed digest) ∧
    (∀ x y : Double, (float x).feed digest = (float y).feed digest ↔
      x = y ∨ (x.isZero = true ∧ y.isZero = true) ∨ (x.isNaN = true ∧ y.isNaN = true)) ∧
    (∀ (b : SetBox) (rows : Log Value),
      (∀ q ∈ b.index, q.Clean) → (∀ row ∈ rows, row.2.Clean) →
        let hash := fun p : Payload => finish (p.feed digest)
        let filled := b.fill (SetBox.hashedAdd hash) rows
        filled = b.fill SetBox.add rows ∧
          ∀ p : Payload, p.Clean →
            filled.hashedContains hash p = (World.indexed b.index p || rows.holds p)) ∧
    ∀ (b : MapBox) (rows : Log (Value × Value)),
      (∀ row ∈ b.index, row.1.Clean) → (∀ row ∈ rows, row.2.Clean) →
        let hash := fun p : Payload => finish (p.feed digest)
        let filled := b.fill (MapBox.hashedAdd hash) rows
        filled = b.fill MapBox.add rows ∧
          ∀ p : Payload, p.Clean →
            filled.hashedPosition? hash p = filled.position? p ∧
              (filled.hashedPosition? hash p).isSome = ((b.position? p).isSome || rows.holds p) := by
  have coherent : Coherent fun p : Payload => finish (p.feed digest) := coherent_feed digest finish
  refine ⟨?equal, ?set, ?map, ?float, ?inSet, ?inMap⟩
  case equal =>
    intro p q first second equal
    exact first.feed_eq second equal
  case set =>
    intro items others perm
    exact feed_set_perm perm
  case map =>
    intro entries others perm
    exact feed_map_perm perm
  case float =>
    intro x y
    rw [feed_float_iff, Double.same_iff]
  case inSet =>
    intro b rows clean added hash filled
    obtain ⟨plain, still⟩ := SetBox.fill_hashedAdd coherent clean added
    refine ⟨plain, fun p first => ?_⟩
    calc
      filled.hashedContains hash p
      _ = (b.fill SetBox.add rows).hashedContains hash p := by rw [← plain]
      _ = World.indexed (b.fill SetBox.add rows).index p :=
        SetBox.hashedContains_eq coherent still first
      _ = (World.indexed b.index p || rows.holds p) := SetBox.files_add.indexed_foldl b rows p
  case inMap =>
    intro b rows clean added hash filled
    obtain ⟨plain, still⟩ :=
      MapBox.fill_hashedAdd coherent (List.forall_mem_map.mpr clean) added
    refine ⟨plain, fun p first => ?_⟩
    have found : filled.hashedPosition? hash p = filled.position? p := by
      rw [show filled = b.fill MapBox.add rows from plain]
      exact MapBox.hashedPosition?_eq coherent still first
    refine ⟨found, ?_⟩
    calc
      (filled.hashedPosition? hash p).isSome
      _ = ((b.fill MapBox.add rows).position? p).isSome := by rw [found, ← plain]
      _ = World.indexed (b.fill MapBox.add rows).keys p := MapBox.position?_isSome _ p
      _ = (World.indexed b.keys p || rows.holds p) := MapBox.files_add.indexed_foldl b rows p
      _ = ((b.position? p).isSome || rows.holds p) := by rw [MapBox.position?_isSome]

/-- Two sets in different orders, of the zeros and of two patterns of no number: one is found where
the other was added. -/
theorem equal_payloads_hash_alike_numbers :
    let p : Payload := set [float ⟨0x8000000000000000⟩, list [float ⟨0x7ff8000000000001⟩]]
    let q : Payload := set [list [float ⟨0xfff8000000000000⟩], float ⟨0⟩]
    let hash := fun p : Payload => (p.feed fun item => item.length.toUInt64).length
    let b : SetBox := ⟨.noType, [], []⟩
    p.Clean ∧ q.Clean ∧ p.same q = true ∧
      (p.feed fun item => item.length.toUInt64) = (q.feed fun item => item.length.toUInt64) ∧
      (b.fill (SetBox.hashedAdd hash) [(Value.none, p)]).hashedContains hash q = true := by
  intro p q hash b
  have first : p.Clean := by
    refine .set (by decide +kernel) ?_
    simp only [List.forall_mem_cons]
    exact ⟨.leaf rfl, .list (by simpa using Clean.leaf rfl), nofun⟩
  have second : q.Clean := by
    refine .set (by decide +kernel) ?_
    simp only [List.forall_mem_cons]
    exact ⟨.list (by simpa using Clean.leaf rfl), .leaf rfl, nofun⟩
  have equal : p.same q = true := by decide +kernel
  have added : ∀ row ∈ ([(Value.none, p)] : Log Value), row.2.Clean := by simpa using first
  obtain ⟨feeds, -, -, -, sets, -⟩ :=
    equal_payloads_hash_alike (fun item => item.length.toUInt64) List.length
  have found := (sets b [(Value.none, p)] nofun added).2 q second
  refine ⟨first, second, equal, feeds p q first second equal, ?_⟩
  rw [found]
  decide +kernel

end Payload

end ScriptValues
