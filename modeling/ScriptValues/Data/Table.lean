/-! Finite tables keyed by name.

A name has at most one row, so `get?` decides what a table holds and the order of the rows means
nothing; a listing for display is sorted by name. -/

namespace ScriptValues

structure Table (α : Type) where
  rows : List (String × α)
  distinct : (rows.map Prod.fst).Nodup := by simp

namespace Table

variable {α β : Type}

def empty : Table α := ⟨[], by simp⟩

instance : Inhabited (Table α) := ⟨empty⟩

def get? (t : Table α) (name : String) : Option α := t.rows.lookup name

def contains (t : Table α) (name : String) : Bool := (t.get? name).isSome

def size (t : Table α) : Nat := t.rows.length

def isEmpty (t : Table α) : Bool := t.rows.isEmpty

def names (t : Table α) : List String := t.rows.map Prod.fst

theorem distinct_filter {rows : List (String × α)} (distinct : (rows.map Prod.fst).Nodup)
    (keep : String × α → Bool) : ((rows.filter keep).map Prod.fst).Nodup :=
  distinct.sublist (List.filter_sublist.map _)

def erase (t : Table α) (name : String) : Table α :=
  ⟨t.rows.filter (·.1 != name), distinct_filter t.distinct _⟩

def insert (t : Table α) (name : String) (a : α) : Table α :=
  ⟨(name, a) :: (t.erase name).rows, by
    refine List.nodup_cons.mpr ⟨?_, (t.erase name).distinct⟩
    simp [erase]⟩

def ofList (rows : List (String × α)) : Table α :=
  rows.foldl (fun t row => t.insert row.1 row.2) empty

def sorted (t : Table α) : List (String × α) :=
  t.rows.mergeSort fun a b => decide (a.1 ≤ b.1)

@[simp] theorem get?_empty (name : String) : (empty : Table α).get? name = none := rfl

theorem lookup_filter_self (rows : List (String × α)) (name : String) :
    (rows.filter (·.1 != name)).lookup name = none := by
  induction rows with
  | nil => rfl
  | cons row rows ih =>
      obtain ⟨key, a⟩ := row
      by_cases h : key = name
      · simp [h, ih]
      · have hb : (name == key) = false := by simpa using fun e => h e.symm
        simp [h, hb, ih, List.lookup_cons]

theorem lookup_filter_other (rows : List (String × α)) {name other : String} (h : other ≠ name) :
    (rows.filter (·.1 != name)).lookup other = rows.lookup other := by
  induction rows with
  | nil => rfl
  | cons row rows ih =>
      obtain ⟨key, a⟩ := row
      by_cases hk : key = name
      · have hb : (other == name) = false := by simpa using h
        simp only [List.filter_cons, bne_iff_ne, hk, ne_eq, not_true_eq_false, if_false,
          List.lookup_cons, hb, ih]
      · simp [hk, ih, List.lookup_cons]

@[simp] theorem get?_erase_self (t : Table α) (name : String) : (t.erase name).get? name = none :=
  lookup_filter_self t.rows name

theorem get?_erase_other (t : Table α) {name other : String} (h : other ≠ name) :
    (t.erase name).get? other = t.get? other :=
  lookup_filter_other t.rows h

@[simp] theorem get?_insert_self (t : Table α) (name : String) (a : α) :
    (t.insert name a).get? name = some a := by
  simp [insert, get?]

theorem get?_insert_other (t : Table α) (a : α) {name other : String} (h : other ≠ name) :
    (t.insert name a).get? other = t.get? other := by
  have hb : (other == name) = false := by simpa using h
  simpa only [insert, get?, List.lookup_cons, hb] using get?_erase_other t h

theorem lookup_of_mem {rows : List (String × α)} (distinct : (rows.map Prod.fst).Nodup)
    {name : String} {a : α} (member : (name, a) ∈ rows) : rows.lookup name = some a := by
  induction rows with
  | nil => cases member
  | cons row rest ih =>
      obtain ⟨key, b⟩ := row
      rw [List.map_cons, List.nodup_cons] at distinct
      rcases List.mem_cons.mp member with same | later
      · cases same
        exact List.lookup_cons_self
      · have other : name ≠ key := by
          intro same
          subst same
          exact distinct.1 (List.mem_map.mpr ⟨(name, a), later, rfl⟩)
        rw [List.lookup_cons, beq_eq_false_iff_ne.mpr other]
        exact ih distinct.2 later

theorem mem_of_lookup {rows : List (String × α)} {name : String} {a : α}
    (found : rows.lookup name = some a) : (name, a) ∈ rows := by
  induction rows with
  | nil => cases found
  | cons row rest ih =>
      obtain ⟨key, b⟩ := row
      rw [List.lookup_cons] at found
      by_cases same : name = key
      · subst same
        rw [beq_self_eq_true] at found
        cases found
        exact List.mem_cons_self
      · rw [beq_eq_false_iff_ne.mpr same] at found
        exact List.mem_cons_of_mem _ (ih found)

theorem mem_rows_iff (t : Table α) (name : String) (a : α) :
    (name, a) ∈ t.rows ↔ t.get? name = some a :=
  ⟨lookup_of_mem t.distinct, mem_of_lookup⟩

end Table

end ScriptValues
