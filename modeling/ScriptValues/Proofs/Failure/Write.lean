import ScriptValues.Proofs.Equality.Symmetry
import ScriptValues.Proofs.World.Tracking

/-! Writes that are rejected.

A write is rejected before anything is touched, or by a host object. As long as a host object that
refuses a payload stays as it is, a rejected write has no effect at all. -/

namespace ScriptValues

open Step

variable {E : Type}

/-- A host object that refuses a payload leaves the outside state as it was. -/
def Binding.Considerate (b : Binding E) : Prop :=
  ∀ p outside refusal after, b.writeAlways p outside = (.error refusal, after) → after = outside

theorem Binding.Considerate.write {b : Binding E} (considerate : b.Considerate) {p : Payload}
    {outside after : E} {refusal : Refusal}
    (refused : b.write p outside = (.error refusal, after)) : after = outside := by
  rw [Binding.write] at refused
  by_cases settable : b.accessor.access.set = true
  · rw [if_pos settable] at refused
    exact considerate p outside refusal after refused
  · rw [if_neg settable] at refused
    cases refused
    rfl

/-- A payload that may be put behind a value. The null payload empties a collection, an enum and a
function; a host object decides for itself. -/
def Backing.takes : Backing E → Payload → Bool
  | .absent, _ => false
  | .list _, .null | .list _, .list _ => true
  | .set _, .null | .set _, .set _ | .set _, .list _ => true
  | .map _, .null | .map _, .map _ => true
  | .enum _, .null | .enum _, .variant _ => true
  | .function _, .null | .function _, .callable _ => true
  | .prototype _, .prototype _ => true
  | .list _, _ | .set _, _ | .map _, _ | .enum _, _ | .function _, _ | .prototype _, _ => false
  | .basic _, _ | .aggregate _ _, _ | .property _, _ | .aggregateProperty _ _ _, _ | .field _, _ =>
      true

namespace World

variable {w : World E} {v : Value}

/-- A value of one of the families that stand for an entry of a host object. -/
def Hosted (w : World E) (v : Value) : Prop :=
  w.family v = .property ∨ w.family v = .aggregateProperty ∨ w.family v = .field

/-- How a write to `v` may end: there is an answer if the write is permitted, only a hosted value
answers `false`, nothing has changed after anything but the answer `true`, and `v` is dirty after
that one. -/
structure Settles (w : World E) (v : Value) (permitted : Prop)
    (ended : Except Fault Bool × World E) : Prop where
  answered : (∃ accepted, ended.1 = .ok accepted) ↔ permitted
  unchanged : ended.1 ≠ .ok true → ended.2 = w
  hosted : ended.1 = .ok false → w.Hosted v
  dirty : ended.1 = .ok true → (ended.2.cell v).dirty = true

variable {permitted : Prop}

theorem settles_error (w : World E) (v : Value) (fault : Fault) (forbidden : ¬ permitted) :
    w.Settles v permitted (.error fault, w) :=
  ⟨iff_of_false nofun forbidden, fun _ => rfl, nofun, nofun⟩

theorem settles_refused (allowed : permitted) (hosted : w.Hosted v) :
    w.Settles v permitted (.ok false, w) :=
  ⟨iff_of_true ⟨false, rfl⟩ allowed, fun _ => rfl, fun _ => hosted, nofun⟩

theorem dirty_setDirty {u : World E} (present : v.index < u.cells.size) :
    ((u.setDirty v).cell v).dirty = true :=
  congrArg Cell.dirty (Heap.read_write_self u.cells _ present)

theorem settles_setDirty (w : World E) {u : World E} (allowed : permitted)
    (present : v.index < u.cells.size) : w.Settles v permitted (.ok true, u.setDirty v) :=
  ⟨iff_of_true ⟨true, rfl⟩ allowed, fun other => absurd rfl other, nofun,
    fun _ => dirty_setDirty present⟩

/-! Payloads -/

theorem writeHost_unchanged {write : Payload → E → Except Refusal Unit × E} {p : Payload}
    (quiet : ∀ refusal after, write p w.outside = (.error refusal, after) → after = w.outside)
    (refused : (w.writeHost write p).1 ≠ true) : (w.writeHost write p).2 = w := by
  rw [writeHost] at refused ⊢
  generalize write p w.outside = answer at quiet refused ⊢
  obtain ⟨refusal | _, after⟩ := answer
  · rw [quiet refusal after rfl]
  · exact absurd rfl refused

theorem accept_unchanged (considerate : ∀ b, w.binding? v = some b → b.Considerate) (p : Payload)
    (rejected : (w.accept v p).1 ≠ .ok true) : (w.accept v p).2 = w := by
  unfold accept at rejected ⊢
  unfold binding? at considerate
  cases held : w.backing v with
  | absent => rfl
  | property b | aggregateProperty b =>
      rw [held] at rejected considerate
      have refused : (w.writeHost b.write p).1 ≠ true := mt (congrArg Except.ok) rejected
      exact writeHost_unchanged (fun _ _ => (considerate b rfl).write) refused
  | field b =>
      rw [held] at rejected considerate
      have refused : (w.writeHost b.writeAlways p).1 ≠ true := mt (congrArg Except.ok) rejected
      exact writeHost_unchanged (considerate b rfl p w.outside) refused
  | list | set | map | enum | function | prototype =>
      rw [held] at rejected
      cases p <;> first | rfl | exact absurd rfl rejected
  | basic | aggregate =>
      rw [held] at rejected
      exact absurd rfl rejected

theorem accept_answers (w : World E) (v : Value) (p : Payload) :
    (∃ accepted, (w.accept v p).1 = .ok accepted) ↔ (w.backing v).takes p = true := by
  unfold accept
  cases w.backing v with
  | list | set | map | enum | function | prototype => cases p <;> simp [Backing.takes]
  | _ => simp [Backing.takes]

theorem accept_hosted (w : World E) (v : Value) (p : Payload)
    (refused : (w.accept v p).1 = .ok false) : w.Hosted v := by
  unfold accept at refused
  rw [Hosted, family]
  cases held : w.backing v with
  | property => exact .inl rfl
  | aggregateProperty => exact .inr (.inl rfl)
  | field => exact .inr (.inr rfl)
  | _ =>
      rw [held] at refused
      cases p <;> cases refused

/-! Writes -/

def CellsGrow (u w : World E) : Prop := u.cells.size ≤ w.cells.size

theorem tracks_cellsGrow : Tracks Deed.any (CellsGrow (E := E)) where
  refl _ := Nat.le_refl _
  trans first second := Nat.le_trans first second
  change := by
    intro u w changed
    have written : ∀ v c, CellsGrow u (u.writeCell v c) :=
      fun v c => Nat.le_of_eq (Heap.size_write u.cells v.index c).symm
    cases changed with
    | addCell c bare =>
        rw [CellsGrow, addCell, Heap.size_push]
        exact Nat.le_succ u.cells.size
    | addAggregate c =>
        change u.cells.size ≤ (u.cells.push c).size
        rw [Heap.size_push]
        exact Nat.le_succ u.cells.size
    | setBacking | setDirty | setTranslated => exact written _ _
    | _ => exact Nat.le_refl u.cells.size

theorem present_of_mutable (mutable : (w.cell v).mutable = true) : v.index < w.cells.size := by
  apply Nat.lt_of_not_le
  intro beyond
  rw [cell_of_new beyond] at mutable
  cases mutable

theorem write_accepted {p : Payload} {u : World E} (mutable : (w.cell v).mutable = true)
    (accepted : w.accept v p = (.ok true, u)) : write v p w = (.ok true, u.setDirty v) := by
  rw [write, bind_apply, get_apply]
  simp only [mutable, if_true, accepted]
  rfl

theorem write_faulted {p : Payload} {fault : Fault} {u : World E}
    (mutable : (w.cell v).mutable = true) (faulted : w.accept v p = (.error fault, u)) :
    write v p w = (.error fault, w) := by
  rw [write, bind_apply, get_apply]
  simp only [mutable, if_true, faulted]
  rfl

theorem write_settles (considerate : ∀ b, w.binding? v = some b → b.Considerate) (p : Payload) :
    w.Settles v ((w.cell v).mutable = true ∧ (w.backing v).takes p = true) (write v p w) := by
  rw [write, bind_apply, get_apply]
  by_cases mutable : (w.cell v).mutable = true
  · simp only [mutable, if_true, true_and]
    have answers := accept_answers w v p
    have unchanged := accept_unchanged considerate p
    have hosted := accept_hosted w v p
    have grown : w.CellsGrow (w.accept v p).2 :=
      accept_within tracks_cellsGrow.follows w (fun _ _ => trivial) p mutable
    generalize w.accept v p = answer at answers unchanged hosted grown ⊢
    obtain ⟨fault | accepted, u⟩ := answer
    · exact settles_error w v fault (mt answers.mpr (by simp))
    · have allowed := answers.mp ⟨accepted, rfl⟩
      cases accepted with
      | false =>
          have same : u = w := unchanged (by simp)
          subst same
          exact settles_refused allowed (hosted rfl)
      | true =>
          exact settles_setDirty w allowed (Nat.lt_of_lt_of_le (present_of_mutable mutable) grown)
  · simp only [mutable]
    exact settles_error w v _ fun allowed => absurd allowed.1 (by simp)

theorem rehome_aggregate {p : Payload} {old space : SpaceId}
    (held : w.backing v = .aggregate p old) :
    rehome v space w =
      if w.arena.contains space = true then
        (.ok (), (w.setBacking v (.aggregate p space)).withArena
          ((w.arena.unbind space selfName).2.bind space selfName v).2)
      else (.error .unknownSpace, w) := by
  rw [rehome, bind_apply, get_apply]
  by_cases live : w.arena.contains space = true
  · simp only [live, if_true, held]
    rfl
  · simp only [live]
    rfl

/-- What stands behind `u` may also stand behind `v`. An aggregate needs the space of `u`. -/
def Assignable (w : World E) (v u : Value) : Prop :=
  match w.backing v, w.backing u with
  | .aggregate _ _, .aggregate _ space => w.arena.contains space = true
  | .list _, .list _ | .set _, .set _ | .map _, .map _ | .function _, .function _ => True
  | b, _ => b.takes (w.payload u) = true

theorem assign_settles (considerate : ∀ b, w.binding? v = some b → b.Considerate) {u : Value}
    (other : v ≠ u) :
    w.Settles v
      ((w.ty v).same (w.ty u) = true ∧ (w.cell v).mutable = true ∧ w.Assignable v u)
      (assign v u w) := by
  have written := write_settles considerate (w.payload u)
  rw [assign, bind_apply, get_apply]
  by_cases types : (w.ty v).same (w.ty u) = true
  · by_cases mutable : (w.cell v).mutable = true
    · have stored : ∀ (x : World E) b, x.cells.size = w.cells.size →
          w.Settles v True (.ok true, (x.setBacking v b).setDirty v) := by
        intro x b same
        apply settles_setDirty w trivial
        rw [setBacking, writeCell, Heap.size_write, same]
        exact present_of_mutable mutable
      simp only [types, if_true, other, if_false, mutable, true_and, Assignable] at written ⊢
      generalize held : w.backing v = b at written ⊢
      generalize w.backing u = c
      cases b with
      -- Where the families differ, or are not among those that share, the payload is written.
      | aggregate =>
          cases c with
          | aggregate p space =>
              dsimp only
              rw [bind_apply, rehome_aggregate held]
              by_cases live : w.arena.contains space = true
              · simp only [live, if_true]
                exact stored _ _ (Heap.size_write _ _ _)
              · simp only [live]
                exact settles_error w v _ (by simp)
          | _ => exact written
      | list =>
          cases c with
          | list => exact stored w _ rfl
          | _ => exact written
      | set =>
          cases c with
          | set => exact stored w _ rfl
          | _ => exact written
      | map =>
          cases c with
          | map => exact stored w _ rfl
          | _ => exact written
      | function =>
          cases c with
          | function => exact stored w _ rfl
          | _ => exact written
      | _ => exact written
    · simp only [types, if_true, other, if_false, mutable]
      exact settles_error w v _ (by simp)
  · simp only [types]
    exact settles_error w v _ (by simp)

theorem assign_self (w : World E) (v : Value) : assign v v w = (.ok true, w) := by
  rw [assign, bind_apply, get_apply]
  simp only [Ty.same_refl, if_true]
  rfl

/-- Writes and assignments are answered exactly where the value is mutable and takes what it is
given. One that is not answered, or answered `false`, changes nothing, provided that the host object
behind the value, if there is one, does not change when it refuses; only hosted values answer
`false`. After any other write, and after an assignment from another value, the value is dirty. A
value is assigned to itself without effect, be it mutable or not. -/
theorem writes_settle (considerate : ∀ b, w.binding? v = some b → b.Considerate) :
    (∀ p, (w.accept v p).1 ≠ .ok true → (w.accept v p).2 = w) ∧
      (∀ p, w.Settles v ((w.cell v).mutable = true ∧ (w.backing v).takes p = true)
        (write v p w)) ∧
      (∀ u, v ≠ u →
        w.Settles v
          ((w.ty v).same (w.ty u) = true ∧ (w.cell v).mutable = true ∧ w.Assignable v u)
          (assign v u w)) ∧
      assign v v w = (.ok true, w) := by
  refine ⟨?_, ?_, ?_, assign_self w v⟩
  · intro p rejected
    exact accept_unchanged considerate p rejected
  · intro p
    exact write_settles considerate p
  · intro u other
    exact assign_settles considerate other

def numberEntry : Binding Int64 where
  accessor :=
    { access := .readWrite
      get _ n := .int n
      set _ p n :=
        match p with
        | .int m => (.ok (), m)
        | _ => (.error (.typeMismatch "int" p.kindName), n) }
  host := ⟨0⟩

theorem considerate_numberEntry : numberEntry.Considerate := by
  intro p outside refusal after refused
  cases p <;> cases refused <;> rfl

def numberProperty : World Int64 := ((World.initial 4 3).newProperty .int numberEntry true).2

/-- A text is refused without effect, and a number is taken. -/
theorem writes_settle_numberProperty :
    (write ⟨2⟩ (.string "three") numberProperty).1 = .ok false ∧
      (write ⟨2⟩ (.string "three") numberProperty).2 = numberProperty ∧
      (write ⟨2⟩ (.int 5) numberProperty).1 = .ok true ∧
      ((write ⟨2⟩ (.int 5) numberProperty).2.cell ⟨2⟩).dirty = true := by
  have considerate : ∀ b, numberProperty.binding? ⟨2⟩ = some b → b.Considerate := by
    intro b found
    cases found
    exact considerate_numberEntry
  have settles := (writes_settle considerate).2.1
  have refused : (write ⟨2⟩ (.string "three") numberProperty).1 = .ok false := rfl
  have taken : (write ⟨2⟩ (.int 5) numberProperty).1 = .ok true := rfl
  refine ⟨refused, (settles (.string "three")).unchanged ?_, taken, (settles (.int 5)).dirty taken⟩
  rw [refused]
  simp

end World

end ScriptValues
