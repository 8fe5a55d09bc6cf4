import ScriptValues.Proofs.Ty.Reading

/-! Registration of types by their text.

A registry keeps each type under its text, so it tells types apart exactly as far as their texts do:
a type is refused when one that reads the same is there. Where no list or set of functions occurs
in the types, that is when an equal one is there. -/

namespace ScriptValues

namespace Registry

variable {meaning : String → Nominal} {r : Registry}

/-- The registry after types were offered to it one by one. One that is refused changes nothing. -/
def after (r : Registry) (types : List Ty) : Registry :=
  types.foldl (fun r ty => (r.register ty).toOption.getD r) r

def Has (r : Registry) (ty : Ty) : Prop := ∃ name, (name, ty) ∈ r.types.rows

/-- Each type is kept under its own text, which is made of words with one meaning. -/
def Sound (meaning : String → Nominal) (r : Registry) : Prop :=
  ∀ row ∈ r.types.rows, row.1 = row.2.text ∧ row.2.WellNamed meaning

theorem has_of_resolve {name : String} {ty : Ty} (found : r.resolve? name = some ty) : r.Has ty :=
  ⟨name, (Table.mem_rows_iff r.types name ty).mpr found⟩

theorem Sound.resolve? (sound : r.Sound meaning) {ty : Ty} (there : r.Has ty) :
    r.resolve? ty.text = some ty := by
  obtain ⟨name, row⟩ := there
  have own : name = ty.text := (sound _ row).1
  exact own ▸ (Table.mem_rows_iff r.types name ty).mp row

theorem Sound.insert (sound : r.Sound meaning) {ty : Ty} (named : ty.WellNamed meaning) :
    Sound meaning ⟨r.types.insert ty.text ty⟩ := by
  intro row member
  rcases List.mem_cons.mp member with new | old
  · subst new
    exact ⟨rfl, named⟩
  · exact sound row (List.mem_filter.mp old |>.1)

theorem Sound.insertAll (sound : r.Sound meaning) {types : List Ty}
    (named : ∀ ty ∈ types, ty.WellNamed meaning) :
    Sound meaning ⟨(types.map fun ty => (ty.name, ty)).foldl
      (fun table row => table.insert row.1 row.2) r.types⟩ := by
  induction types generalizing r with
  | nil => exact sound
  | cons ty rest ih =>
      have first : Sound meaning ⟨r.types.insert ty.text ty⟩ :=
        sound.insert (named ty List.mem_cons_self)
      exact ih first fun ty later => named ty (List.mem_cons_of_mem _ later)

theorem sound_initial (meaning : String → Nominal) : initial.Sound meaning := by
  have unnamed : ∀ ty ∈ builtins, ty.nominals.isEmpty = true := by decide
  have bare : Sound meaning ⟨Table.empty⟩ := nofun
  refine bare.insertAll fun ty there use used => ?_
  rw [List.isEmpty_iff.mp (unnamed ty there)] at used
  cases used

theorem mem_builtins_of_initial {ty : Ty} (there : initial.Has ty) : ty ∈ builtins := by
  obtain ⟨name, row⟩ := there
  have offered : ∀ (types : List Ty) (table : Table Ty),
      (name, ty) ∈ ((types.map fun ty => (ty.name, ty)).foldl
        (fun table row => table.insert row.1 row.2) table).rows →
      (name, ty) ∈ table.rows ∨ ty ∈ types := by
    intro types
    induction types with
    | nil => exact fun _ kept => .inl kept
    | cons first rest ih =>
        intro table kept
        rcases ih _ kept with before | later
        · rcases List.mem_cons.mp before with new | old
          · cases new
            exact .inr List.mem_cons_self
          · exact .inl (List.mem_filter.mp old).1
        · exact .inr (List.mem_cons_of_mem _ later)
  exact (offered builtins Table.empty row).resolve_left nofun

theorem asRead_builtin {ty : Ty} (builtin : ty ∈ builtins) : ty.asRead = ty := by
  have words : ∀ ty ∈ builtins, ty.isWord = true := by decide
  exact Ty.asRead_of_isWord (words ty builtin)

/-! One registration -/

theorem register_eq (r : Registry) (ty : Ty) :
    r.register ty =
      if (r.resolve? ty.text).isSome then .error ⟨ty.text⟩
      else .ok ⟨r.types.insert ty.text ty⟩ := rfl

theorem after_cons (r : Registry) (ty : Ty) (rest : List Ty) :
    r.after (ty :: rest) =
      (if (r.resolve? ty.text).isSome then r else ⟨r.types.insert ty.text ty⟩ : Registry).after
        rest := by
  rw [after, List.foldl_cons, register_eq]
  split <;> rfl

theorem resolve?_insert (r : Registry) (ty : Ty) (name : String) :
    resolve? ⟨r.types.insert ty.text ty⟩ name =
      if name = ty.text then some ty else r.resolve? name := by
  split
  · rename_i same
    subst same
    exact Table.get?_insert_self _ _ _
  · rename_i other
    exact Table.get?_insert_other _ _ other

theorem register_error {t : Ty} {duplicate : DuplicateType} (failed : r.register t = .error duplicate) :
    duplicate = ⟨t.name⟩ ∧ r.after [t] = r := by
  refine ⟨?_, by rw [after, List.foldl_cons, failed]; rfl⟩
  rw [register_eq] at failed
  split at failed
  · cases failed
    rfl
  · cases failed

theorem register_ok {r' : Registry} {t : Ty} (added : r.register t = .ok r') :
    r.after [t] = r' ∧
      ∀ name, r'.resolve? name = if name = t.name then some t else r.resolve? name := by
  refine ⟨by rw [after, List.foldl_cons, added]; rfl, fun name => ?_⟩
  rw [register_eq] at added
  split at added
  · cases added
  · cases added
    exact resolve?_insert r t name

/-- The texts that are taken belong to the types that read as the type does. -/
theorem Sound.resolve?_eq_some_iff (sound : r.Sound meaning) {t u : Ty}
    (named : t.WellNamed meaning) :
    r.resolve? t.text = some u ↔ r.Has u ∧ u.asRead.same t.asRead = true := by
  constructor
  · intro found
    have row := (Table.mem_rows_iff r.types t.text u).mpr found
    obtain ⟨text, namedU⟩ := sound _ row
    exact ⟨has_of_resolve found, (Ty.text_eq_iff namedU named).mp text.symm⟩
  · rintro ⟨there, equal⟩
    obtain ⟨name, row⟩ := there
    have text : u.text = t.text := (Ty.text_eq_iff (sound _ row).2 named).mpr equal
    exact text ▸ sound.resolve? ⟨name, row⟩

theorem register_refused_iff (sound : r.Sound meaning) {t : Ty} (named : t.WellNamed meaning) :
    r.register t = .error ⟨t.name⟩ ↔ ∃ u, r.Has u ∧ u.asRead.same t.asRead = true := by
  rw [register_eq]
  constructor
  · intro refused
    cases found : r.resolve? t.text with
    | none =>
        rw [found] at refused
        cases refused
    | some u => exact ⟨u, (sound.resolve?_eq_some_iff named).mp found⟩
  · rintro ⟨u, reads⟩
    rw [(sound.resolve?_eq_some_iff named).mpr reads]
    rfl

/-! Sequences of registrations -/

theorem Sound.after (sound : r.Sound meaning) {types : List Ty}
    (named : ∀ ty ∈ types, ty.WellNamed meaning) : (r.after types).Sound meaning := by
  induction types generalizing r with
  | nil => exact sound
  | cons ty rest ih =>
      have later : ∀ ty ∈ rest, ty.WellNamed meaning :=
        fun ty member => named ty (List.mem_cons_of_mem _ member)
      rw [after_cons]
      split
      · exact ih sound later
      · exact ih (sound.insert (named ty List.mem_cons_self)) later

theorem resolve?_after {name : String} {ty : Ty} (found : r.resolve? name = some ty)
    (types : List Ty) : (r.after types).resolve? name = some ty := by
  induction types generalizing r with
  | nil => exact found
  | cons t rest ih =>
      rw [after_cons]
      split
      · exact ih found
      · rename_i free
        apply ih
        rw [resolve?_insert, if_neg, found]
        rintro rfl
        rw [found] at free
        exact free rfl

theorem Has.of_after {types : List Ty} {u : Ty} (there : (r.after types).Has u) :
    r.Has u ∨ u ∈ types := by
  induction types generalizing r with
  | nil => exact .inl there
  | cons ty rest ih =>
      rw [after_cons] at there
      split at there
      · rcases ih there with before | offered
        · exact .inl before
        · exact .inr (List.mem_cons_of_mem _ offered)
      · rcases ih there with ⟨name, row⟩ | offered
        · rcases List.mem_cons.mp row with new | old
          · cases new
            exact .inr List.mem_cons_self
          · exact .inl ⟨name, (List.mem_filter.mp old).1⟩
        · exact .inr (List.mem_cons_of_mem _ offered)

/-- Any types may have been offered to a new registry before, as long as their words have one meaning.
A type is refused exactly if one that reads the same is kept, its text then stands for that one, and
nothing has changed; otherwise it is kept under its text, and all other texts stand for what they
stood for. What a text stands for it stands for ever. Where no list or set of functions occurs, a type
is refused exactly if an equal one is kept, and its text stands for an equal one exactly if there is
one. -/
theorem registration_by_reading {types : List Ty} (named : ∀ ty ∈ types, ty.WellNamed meaning)
    {t : Ty} (namedT : t.WellNamed meaning) :
    let r := initial.after types
    (∀ duplicate, r.register t = .error duplicate ↔
      duplicate = ⟨t.name⟩ ∧ ∃ u, r.Has u ∧ u.asRead.same t.asRead = true) ∧
    (∀ u, r.resolve? t.name = some u ↔ r.Has u ∧ u.asRead.same t.asRead = true) ∧
    (∀ duplicate, r.register t = .error duplicate → r.after [t] = r) ∧
    (∀ r', r.register t = .ok r' → r.after [t] = r' ∧
      ∀ name, r'.resolve? name = if name = t.name then some t else r.resolve? name) ∧
    (∀ name u, r.resolve? name = some u → ∀ more, (r.after more).resolve? name = some u) ∧
    ((∀ ty ∈ t :: types, ty.collectsFunctions = false) →
      (r.register t = .error ⟨t.name⟩ ↔ ∃ u, r.Has u ∧ u.same t = true) ∧
      ((∃ u, r.resolve? t.name = some u ∧ u.same t = true) ↔ ∃ u, r.Has u ∧ u.same t = true)) := by
  intro r
  have sound : r.Sound meaning := (sound_initial meaning).after named
  have refused := register_refused_iff sound namedT
  have found := fun u => sound.resolve?_eq_some_iff (u := u) namedT
  refine ⟨?_, found, fun duplicate failed => (register_error failed).2,
    fun r' => register_ok, fun name u known more => resolve?_after known more, ?_⟩
  · intro duplicate
    constructor
    · intro failed
      have same := (register_error failed).1
      exact ⟨same, refused.mp (same ▸ failed)⟩
    · rintro ⟨rfl, kept⟩
      exact refused.mpr kept
  · intro plain
    have asIsT : t.asRead = t := t.asRead_eq_self (plain t List.mem_cons_self)
    have asIs : ∀ u, r.Has u → u.asRead = u := fun u there =>
      there.of_after.elim (fun first => asRead_builtin (mem_builtins_of_initial first))
        fun offered => u.asRead_eq_self (plain u (List.mem_cons_of_mem t offered))
    have kept : (∃ u, r.Has u ∧ u.asRead.same t.asRead = true) ↔ ∃ u, r.Has u ∧ u.same t = true := by
      rw [asIsT]
      refine exists_congr fun u => and_congr_right fun there => ?_
      rw [asIs u there]
    refine ⟨refused.trans kept, ?_⟩
    constructor
    · rintro ⟨u, known, equal⟩
      exact ⟨u, ((found u).mp known).1, equal⟩
    · rintro ⟨u, there, equal⟩
      exact ⟨u, (found u).mpr ⟨there, by rwa [asIs u there, asIsT]⟩, equal⟩

/-- A list of items, of the aggregate `Item`, and functions of the enum `Colour` are kept, and a list
of items is offered again. -/
theorem registration_by_reading_items :
    let colour : Ty := .enum ⟨"Colour", ["Red", "Green"]⟩
    let items : Ty := .list (.aggregate "Item" [] false)
    let r := initial.after [items, .function [colour] items]
    r.register items = .error ⟨"Item[]"⟩ ∧ ∃ u, r.resolve? "Item[]" = some u ∧ u.same items = true := by
  intro colour items r
  let meaning : String → Nominal := fun name => if name = "Item" then .aggregate else .enum
  have named : ∀ ty ∈ [items, .function [colour] items], ty.WellNamed meaning := by decide +kernel
  have settled := registration_by_reading named (named items List.mem_cons_self)
  have plain : ∀ ty ∈ [items, items, .function [colour] items], ty.collectsFunctions = false := by
    decide
  have first : (initial.after [items]).resolve? "Item[]" = some items := rfl
  have there : r.Has items := has_of_resolve (resolve?_after first [.function [colour] items])
  obtain ⟨refused, found⟩ := settled.2.2.2.2.2 plain
  exact ⟨refused.mpr ⟨items, there, Ty.same_refl items⟩,
    found.mpr ⟨items, there, Ty.same_refl items⟩⟩

/-- The list of functions `fn() -> int` and the function to lists of `int` have one text. Where the
first is kept, the second is refused though none that equals it is there, and what stands for its
text does not equal it. -/
theorem registration_functionList_refused :
    let listOfFunctions : Ty := .list (.function [] .int)
    let functionToList : Ty := .function [] (.list .int)
    let r := initial.after [listOfFunctions]
    r.register functionToList = .error ⟨functionToList.name⟩ ∧
      (∀ u, r.Has u → u.same functionToList = false) ∧
      r.resolve? functionToList.name = some listOfFunctions := by
  intro listOfFunctions functionToList r
  have others : ∀ row ∈ r.types.rows, row.2.same functionToList = false := by decide +kernel
  refine ⟨rfl, ?_, rfl⟩
  rintro u ⟨name, row⟩
  exact others _ row

end Registry

end ScriptValues
