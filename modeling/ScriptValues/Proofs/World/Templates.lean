import ScriptValues.Proofs.World.Assignment
import ScriptValues.Proofs.World.Fillable

/-! The defaults of a template are those that were last registered.

A template is changed by the calls that register a default in it, and by nothing else. So at any time
its defaults can be told from the calls that were accepted, through whatever value they were made. -/

namespace ScriptValues

open Step World

variable {E : Type}

namespace World

variable {u w : World E} {v : Value} {t : TemplateId} {embedding : Embedding E}

def KeepsTemplate (t : TemplateId) (u w : World E) : Prop :=
  t.index < u.templates.size → t.index < w.templates.size ∧ w.template t = u.template t

theorem keepsTemplate_of_keepsFrom (kept : u.templates.KeepsFrom 0 w.templates) :
    KeepsTemplate t u w :=
  fun there => ⟨Nat.lt_of_lt_of_le there kept.size, kept.read (Nat.zero_le _) there⟩

theorem keepsTemplate_of_same (same : w.templates = u.templates) : KeepsTemplate t u w :=
  keepsTemplate_of_keepsFrom (same ▸ Heap.keepsFrom_refl 0 _)

theorem admits_keepsTemplate (t : TemplateId) : Admits (KeepsTemplate (E := E) t) where
  refl _ there := ⟨there, rfl⟩
  trans first second there :=
    have middle := first there
    have last := second middle.1
    ⟨last.1, last.2.trans middle.2⟩
  same _ _ templates := keepsTemplate_of_keepsFrom templates
  addCell _ _ _ := keepsTemplate_of_same rfl

theorem permits_keepsTemplate (t : TemplateId) (v : Value) : Permits (KeepsTemplate (E := E) t) v where
  toAdmits := admits_keepsTemplate t
  writeCell _ _ _ := keepsTemplate_of_same rfl
  outside _ _ := keepsTemplate_of_same rfl

theorem tableHost_keepsTemplate (t : TemplateId) : TableHost.embedding.Within (KeepsTemplate t) :=
  tableHost_permits (permits_keepsTemplate t)

/-! Calls -/

end World

def Prototype.HasMember (p : Prototype) (name : String) : Prop :=
  ∃ ty definition, p.internal = some ty ∧ ty.aggregate? = some definition ∧
    ∃ m ∈ definition.members, m.name = name

/-- What the operation registers in the template, if it is a call that does and it is accepted. -/
def Operation.accepted? (t : TemplateId) (w : World E) : Operation E → Option (String × Value)
  | addDefault p name v =>
      if p.id = t ∧ (w.addDefault p name v).1 = true then some (name, v) else none
  | _ => none

/-- What was accepted for the template in the course of a run, in this order. -/
def World.acceptedCalls (embedding : Embedding E) (t : TemplateId) :
    List (Operation E) → World E → List (String × Value)
  | [], _ => []
  | operation :: rest, w =>
      (operation.accepted? t w).toList ++
        acceptedCalls embedding t rest (operation.step embedding w).2

def lastCall (calls : List (String × Value)) (name : String) : Option Value :=
  calls.reverse.lookup name

namespace Table

variable {α : Type} {t : Table α} {rows : List (String × α)} {name : String}

theorem get?_insert_all :
    (rows.foldl (fun t row => t.insert row.1 row.2) t).get? name =
      (rows.reverse.lookup name).or (t.get? name) := by
  induction rows generalizing t with
  | nil => rfl
  | cons row rest ih =>
      obtain ⟨key, a⟩ := row
      rw [List.foldl_cons, ih, List.reverse_cons, List.lookup_append, Option.or_assoc]
      congr 1
      by_cases same : name = key
      · subst same
        simp
      · rw [get?_insert_other t a same, List.lookup_cons, beq_eq_false_iff_ne.mpr same]
        rfl

theorem isSome_lookup_iff : (rows.lookup name).isSome = true ↔ name ∈ rows.map Prod.fst := by
  rw [List.lookup_isSome_iff]
  simp

theorem mem_names_iff : name ∈ t.names ↔ (t.get? name).isSome = true :=
  isSome_lookup_iff.symm

end Table

namespace World

open Table

variable {w : World E} {v : Value} {t : TemplateId} {embedding : Embedding E}

theorem knowsMember_iff (p : Prototype) (name : String) :
    knowsMember p name = true ↔ p.HasMember name := by
  simp only [knowsMember, Ty.member?, AggregateType.member?, Prototype.HasMember]
  cases p.internal with
  | none => simp
  | some ty => cases definition : ty.aggregate? <;> simp [definition]

theorem addDefault_fst (w : World E) (p : Prototype) (name : String) (v : Value) :
    (w.addDefault p name v).1 = knowsMember p name := by
  rw [addDefault]
  cases knowsMember p name <;> rfl

theorem addDefault_accepted_iff (w : World E) (p : Prototype) (name : String) (v : Value) :
    (w.addDefault p name v).1 = true ↔ p.HasMember name := by
  rw [addDefault_fst, knowsMember_iff]

theorem addDefault_rejected {p : Prototype} {name : String}
    (rejected : (w.addDefault p name v).1 = false) : (w.addDefault p name v).2 = w := by
  rw [addDefault_fst] at rejected
  rw [addDefault, rejected]
  rfl

theorem addDefault_accepted {p : Prototype} {name : String}
    (accepted : (w.addDefault p name v).1 = true) :
    (w.addDefault p name v).2 = w.writeTemplate p.id ((w.template p.id).insert name v) := by
  rw [addDefault_fst] at accepted
  rw [addDefault, accepted]
  rfl

theorem keepsTemplate_addDefault {p : Prototype} (other : p.id ≠ t) (name : String) (v : Value) :
    KeepsTemplate t w (w.addDefault p name v).2 := by
  cases accepted : (w.addDefault p name v).1 with
  | false =>
      rw [addDefault_rejected accepted]
      exact (admits_keepsTemplate t).refl w
  | true =>
      rw [addDefault_accepted accepted]
      have apart : p.id.index ≠ t.index := fun same => other (congrArg TemplateId.mk same)
      intro there
      refine ⟨?_, Heap.read_write_other w.templates _ apart⟩
      exact Nat.lt_of_lt_of_eq there (Heap.size_write w.templates _ _).symm

theorem template_addDefault (there : t.index < w.templates.size) (p : Prototype) (name : String)
    (v : Value) :
    t.index < (w.addDefault p name v).2.templates.size ∧
      (w.addDefault p name v).2.template t =
        ((Operation.addDefault p name v).accepted? t w).toList.foldl
          (fun d row => d.insert row.1 row.2) (w.template t) := by
  rw [Operation.accepted?]
  by_cases own : p.id = t
  · subst own
    cases accepted : (w.addDefault p name v).1 with
    | false =>
        rw [addDefault_rejected accepted, if_neg (by simp)]
        exact ⟨there, rfl⟩
    | true =>
        rw [addDefault_accepted accepted, if_pos ⟨rfl, rfl⟩]
        exact ⟨Nat.lt_of_lt_of_eq there (Heap.size_write w.templates _ _).symm,
          Heap.read_write_self w.templates _ there⟩
  · rw [if_neg fun both => own both.1]
    exact keepsTemplate_addDefault own name v there

/-- The template after an operation has what the operation registers in it. -/
theorem template_step (kept : embedding.Within (KeepsTemplate t)) (there : t.index < w.templates.size)
    (operation : Operation E) :
    t.index < (operation.step embedding w).2.templates.size ∧
      (operation.step embedding w).2.template t =
        (operation.accepted? t w).toList.foldl (fun d row => d.insert row.1 row.2) (w.template t) := by
  by_cases call : ∃ p name v, operation = .addDefault p name v
  · obtain ⟨p, name, v, rfl⟩ := call
    exact template_addDefault there p name v
  · have other : ∀ p name v, operation ≠ .addDefault p name v := fun p name v same =>
      call ⟨p, name, v, same⟩
    have nothing : operation.accepted? t w = none := by
      cases operation with
      | addDefault p name v => exact absurd rfl (other p name v)
      | _ => rfl
    have still : KeepsTemplate t w (operation.step embedding w).2 :=
      permits_step (permits_keepsTemplate t) kept w fun p name v same =>
        absurd same (other p name v)
    rw [nothing]
    exact still there

/-- The template after a run has what was accepted for it, registered in this order. -/
theorem template_after (kept : embedding.Within (KeepsTemplate t)) (there : t.index < w.templates.size)
    (operations : List (Operation E)) :
    (w.after embedding operations).template t =
      (acceptedCalls embedding t operations w).foldl (fun d row => d.insert row.1 row.2)
        (w.template t) := by
  induction operations generalizing w with
  | nil => rfl
  | cons operation rest ih =>
      obtain ⟨still, registered⟩ := template_step kept there operation
      rw [acceptedCalls, List.foldl_append, ← registered]
      exact ih still

/-! Holders -/

theorem backing_of_prototype? {p : Prototype} (holds : w.prototype? v = some p) :
    w.backing v = .prototype p := by
  unfold prototype? at holds
  split at holds
  · cases holds
    assumption
  · cases holds

theorem prototype?_of_backing {p : Prototype} (held : w.backing v = .prototype p) :
    w.prototype? v = some p := by
  rw [prototype?, held]

theorem write_prototype {a : Value} {old : Prototype} (holds : w.prototype? a = some old)
    (mutable : (w.cell a).mutable = true) (p : Prototype) :
    ∃ u, write a (.prototype p) w = (.ok true, u) ∧ u.prototype? a = some p := by
  have stored : w.accept a (.prototype p) = (.ok true, w.setBacking a (.prototype p)) := by
    unfold accept
    simp only [backing_of_prototype? holds]
  have there := present_of_mutable mutable
  refine ⟨_, write_accepted mutable stored, prototype?_of_backing ?_⟩
  rw [setBacking_setDirty_eq there]
  exact congrArg Cell.backing (Heap.read_write_self w.cells _ there)

theorem payload_of_prototype {p : Prototype} (holds : w.prototype? v = some p) :
    w.payload v = .prototype p := by
  rw [payload, walkBound, payloadWithin]
  simp only [backing_of_prototype? holds]

/-- What comes to hold the prototype `p` that `v` holds: views and copies of `v`, and every prototype
value of its type that `v` is assigned to or that its payload is written to. -/
structure HandsOn (w : World E) (v : Value) (p : Prototype) : Prop where
  view : (w.shallowView v).2.prototype? (w.shallowView v).1 = some p
  copy : ∃ c u, deepCopy v w = (.ok c, u) ∧ u.prototype? c = some p
  assigned : ∀ a old, w.prototype? a = some old → (w.cell a).mutable = true →
    (w.ty a).same (w.ty v) = true → ∃ u, assign a v w = (.ok true, u) ∧ u.prototype? a = some p
  written : ∀ a old, w.prototype? a = some old → (w.cell a).mutable = true →
    ∃ u, write a (w.payload v) w = (.ok true, u) ∧ u.prototype? a = some p

theorem handsOn {p : Prototype} (holds : w.prototype? v = some p) : w.HandsOn v p where
  view := by
    have cell : (w.shallowView v).2.cell (w.shallowView v).1 = { w.cell v with translated := none } :=
      Heap.read_push_self w.cells _
    refine prototype?_of_backing ?_
    rw [backing, cell]
    exact backing_of_prototype? holds
  copy := by
    have held := backing_of_prototype? holds
    refine ⟨_, _, deepCopyWithin_plain (by rw [held]; rfl), prototype?_of_backing ?_⟩
    rw [held]
    exact congrArg Cell.backing (Heap.read_push_self w.cells _)
  assigned a old other mutable types := by
    by_cases self : a = v
    · subst self
      refine ⟨w, ?_, holds⟩
      rw [assign, bind_apply, get_apply]
      simp only [types, if_true]
      rfl
    · have held := backing_of_prototype? holds
      have done : assign a v w = (.ok true, w.takeOver a v) := by
        refine assign_ordinary types mutable self ?_ ?_ ?_
        · rw [family, family, held, backing_of_prototype? other, Backing.family, Backing.family]
        · rw [family, held]
          rfl
        · intro q space given
          rw [held] at given
          cases given
      refine ⟨_, done, prototype?_of_backing ?_⟩
      rw [backing, cell_takeOver (present_of_mutable mutable)]
      exact held
  written a old other mutable := by
    rw [payload_of_prototype holds]
    exact write_prototype other mutable p

/-! Defaults -/

/-- The prototype shows of each name what was last registered under it, and lists what it shows. -/
structure Shows (w : World E) (p : Prototype) (calls : List (String × Value)) : Prop where
  value : ∀ name, w.defaultValue p name = (lastCall calls name).getD .none
  listed : ∀ name v, (name, v) ∈ (w.defaultValues p).rows ↔ lastCall calls name = some v
  once : (w.defaultValues p).names.Nodup
  accepted : ∀ name, name ∈ (w.defaultValues p).names ↔ name ∈ calls.map Prod.fst

theorem shows_of_template {p : Prototype} {calls : List (String × Value)}
    (registered : w.template p.id = Table.ofList calls) : w.Shows p calls := by
  have reads : ∀ name, (w.template p.id).get? name = lastCall calls name := by
    intro name
    rw [registered, Table.ofList, Table.get?_insert_all, Table.get?_empty, Option.or_none, lastCall]
  refine ⟨fun name => ?_, fun name v => ?_, (w.template p.id).distinct, fun name => ?_⟩
  · rw [defaultValue, reads]
  · rw [defaultValues, Table.mem_rows_iff, reads]
  · rw [defaultValues, Table.mem_names_iff, reads, lastCall, isSome_lookup_iff, List.map_reverse,
      List.mem_reverse]

theorem acceptedCalls_made {operations : List (Operation E)} {name : String}
    (accepted : (name, v) ∈ acceptedCalls embedding t operations w) :
    ∃ p, Operation.addDefault p name v ∈ operations ∧ p.id = t ∧ p.HasMember name := by
  induction operations generalizing w with
  | nil => cases accepted
  | cons operation rest ih =>
      rw [acceptedCalls] at accepted
      rcases List.mem_append.mp accepted with now | later
      · cases operation with
        | addDefault p other d =>
            rw [Operation.accepted?, Option.mem_toList] at now
            split at now
            · rename_i both
              cases now
              exact ⟨p, List.mem_cons_self, both.1, (addDefault_accepted_iff w p name v).mp both.2⟩
            · cases now
        | _ => cases now
      · obtain ⟨p, made, same, known⟩ := ih later
        exact ⟨p, List.mem_cons_of_mem _ made, same, known⟩

theorem template_newPrototype (w : World E) (ty : Ty) (internal : Option Ty) :
    w.templates.size < (w.newPrototype ty internal).2.templates.size ∧
      (w.newPrototype ty internal).2.template ⟨w.templates.size⟩ = Table.empty := by
  refine ⟨?_, Heap.read_push_self w.templates _⟩
  exact Nat.lt_of_lt_of_eq (Nat.lt_succ_self _) (Heap.size_push w.templates _).symm

/-- A prototype is made, and any operations follow. Then a call is accepted exactly if the name is that
of a member, and changes nothing otherwise. Whichever value the prototype is read from, it shows what
was last registered, and no names but those that were accepted; these are names of members where each
call on the template was made with the prototype that it was made for. A value that holds the
prototype hands it on to its views and copies, and to the prototype values that it is assigned or
written to. -/
theorem templates_keep_last_defaults (w : World E) (ty : Ty) (internal : Option Ty)
    (kept : embedding.Within (KeepsTemplate ⟨w.templates.size⟩)) (operations : List (Operation E)) :
    let p : Prototype := ⟨⟨w.templates.size⟩, ty, internal⟩
    let v := (w.newPrototype ty internal).1
    let made := (w.newPrototype ty internal).2
    let u := made.after embedding operations
    let calls := acceptedCalls embedding p.id operations made
    made.prototype? v = some p ∧
    (∀ q name x, ((u.addDefault q name x).1 = true ↔ q.HasMember name) ∧
      ((u.addDefault q name x).1 = false → (u.addDefault q name x).2 = u)) ∧
    (∀ holder q, u.prototype? holder = some q → q.id = p.id → u.Shows q calls) ∧
    u.Shows p calls ∧
    ((∀ q name x, .addDefault q name x ∈ operations → q.id = p.id → q = p) →
      ∀ name ∈ (u.defaultValues p).names, p.HasMember name) ∧
    ∀ holder q, u.prototype? holder = some q → u.HandsOn holder q := by
  intro p v made u calls
  obtain ⟨there, empty⟩ := template_newPrototype w ty internal
  have registered : u.template p.id = Table.ofList calls := by
    rw [template_after kept there operations, empty, Table.ofList]
  have shows : u.Shows p calls := shows_of_template registered
  refine ⟨?_, ?_, ?_, shows, ?_, fun holder q holds => handsOn holds⟩
  · exact prototype?_of_backing (congrArg Cell.backing (Heap.read_push_self w.cells _))
  · intro q name x
    exact ⟨addDefault_accepted_iff u q name x, addDefault_rejected⟩
  · intro holder q _ same
    exact shows_of_template (same ▸ registered)
  · intro unforged name listed
    obtain ⟨⟨key, x⟩, accepted, rfl⟩ := List.mem_map.mp ((shows.accepted name).mp listed)
    obtain ⟨q, call, same, known⟩ := acceptedCalls_made accepted
    rw [unforged q key x call same] at known
    exact known

end World

def doorPrototype : Prototype :=
  ⟨⟨0⟩, .prototype .entity,
    some (.aggregate "Door" [⟨"width", .int, .field⟩, ⟨"open", .bool, .field⟩] false)⟩

/-- The prototype is viewed, copied and assigned to another value. Then two widths are registered, and
a height in between, which doors do not have. -/
def doorCalls : List (Operation Outside) :=
  [.newBasic .int (.int 1) true, .newBasic .int (.int 2) true, .shallowView ⟨2⟩, .deepCopy ⟨2⟩,
    .newPrototype (.prototype .entity) none, .assign ⟨7⟩ ⟨2⟩, .addDefault doorPrototype "width" ⟨3⟩,
    .addDefault doorPrototype "height" ⟨4⟩, .addDefault doorPrototype "width" ⟨4⟩]

namespace World

theorem templates_keep_last_defaults_doors :
    let w := World.initial 4 (Outside.initial "host" Table.empty)
    let u := (w.newPrototype doorPrototype.ty doorPrototype.internal).2.after TableHost.embedding
      doorCalls
    (∀ holder ∈ ([⟨2⟩, ⟨5⟩, ⟨6⟩, ⟨7⟩] : List Value),
        (u.prototype? holder).map Prototype.id = some ⟨0⟩) ∧
      u.Shows doorPrototype [("width", ⟨3⟩), ("width", ⟨4⟩)] ∧
        ∀ name ∈ (u.defaultValues doorPrototype).names, doorPrototype.HasMember name := by
  intro w u
  have calls : acceptedCalls TableHost.embedding ⟨0⟩ doorCalls
      (w.newPrototype doorPrototype.ty doorPrototype.internal).2 =
        [("width", ⟨3⟩), ("width", ⟨4⟩)] := by
    decide +kernel
  obtain ⟨-, -, -, shows, members, -⟩ := templates_keep_last_defaults w doorPrototype.ty
    doorPrototype.internal (tableHost_keepsTemplate ⟨0⟩) doorCalls
  have unforged : ∀ q name x, .addDefault q name x ∈ doorCalls → q.id = ⟨0⟩ → q = doorPrototype := by
    intro q name x call _
    simp only [doorCalls, List.mem_cons, reduceCtorEq, Operation.addDefault.injEq, List.not_mem_nil,
      false_or, or_false] at call
    tauto
  exact ⟨by decide +kernel, calls ▸ shows, members unforged⟩

end World

end ScriptValues
