import ScriptValues.Proofs.Failure.Write
import ScriptValues.Proofs.World.Permitted

/-! Values that stand for an entry of a host object.

Between such a value and the host object there are the mutability of the value, the access flags, which
a field does without, and the kind of the host object. All of them are passed before the setter is
asked, and the last two before the getter is. -/

namespace ScriptValues

open Step

variable {E : Type}

def Binding.pass (b : Binding E) (family : Family) : Payload → E → Except Refusal Unit × E :=
  if family = .field then b.writeAlways else b.write

def Binding.show (b : Binding E) (family : Family) (outside : E) : Payload :=
  if family = .field then b.readAlways outside else b.read outside

namespace HostKind

variable {T : Type} {kind : HostKind E T} {h : HostId} {outside : E}

theorem get_foreign (away : kind.find h outside = none) (access : Access) (getter : T → Payload)
    (setter : T → Payload → Except Refusal T) :
    (kind.accessor access getter setter).get h outside = .null := by
  rw [accessor]
  simp only [away]

theorem set_foreign (away : kind.find h outside = none) (access : Access) (getter : T → Payload)
    (setter : T → Payload → Except Refusal T) (p : Payload) :
    (kind.accessor access getter setter).set h p outside =
      (.error (.typeMismatch kind.name "foreign host object"), outside) := by
  rw [accessor]
  simp only [away]

end HostKind

namespace World

variable {w : World E} {v x : Value} {b : Binding E}

/-! One value that stands for an entry -/

theorem backing_of_binding? (found : w.binding? v = some b) :
    w.backing v = .property b ∨
      (∃ parent translator, w.backing v = .aggregateProperty b parent translator) ∨
      w.backing v = .field b := by
  unfold binding? at found
  cases held : w.backing v with
  | property =>
      rw [held] at found
      cases found
      exact .inl rfl
  | aggregateProperty =>
      rw [held] at found
      cases found
      exact .inr (.inl ⟨_, _, rfl⟩)
  | field =>
      rw [held] at found
      cases found
      exact .inr (.inr rfl)
  | _ =>
      rw [held] at found
      cases found

theorem payload_bound (found : w.binding? v = some b) :
    w.payload v = b.show (w.family v) w.outside := by
  rw [payload, walkBound, payloadWithin, Binding.show, family]
  rcases backing_of_binding? found with held | ⟨_, _, held⟩ | held <;>
    simp only [held] <;>
    rfl

theorem accept_bound (found : w.binding? v = some b) (p : Payload) :
    w.accept v p =
      (.ok (w.writeHost (b.pass (w.family v)) p).1, (w.writeHost (b.pass (w.family v)) p).2) := by
  unfold accept
  rw [Binding.pass, family]
  rcases backing_of_binding? found with held | ⟨_, _, held⟩ | held <;>
    simp only [held] <;>
    rfl

theorem write_bound (found : w.binding? v = some b) (mutable : (w.cell v).mutable = true)
    (p : Payload) :
    write v p w =
      match b.pass (w.family v) p w.outside with
      | (.ok (), outside) => (.ok true, { w with outside }.setDirty v)
      | (.error _, outside) => (.ok false, { w with outside }) := by
  rw [write, bind_apply, get_apply]
  simp only [mutable, if_true, accept_bound found, writeHost]
  rcases b.pass (w.family v) p w.outside with ⟨_ | _, outside⟩
  · rfl
  · rfl

theorem write_immutable (immutable : (w.cell v).mutable = false) (p : Payload) :
    write v p w = (.error (.notMutable (w.ty v).name), w) := by
  rw [write, bind_apply, get_apply]
  simp only [immutable]
  rfl

theorem assign_bound (found : w.binding? v = some b) (other : v ≠ x)
    (types : (w.ty v).same (w.ty x) = true) : assign v x w = write v (w.payload x) w := by
  by_cases mutable : (w.cell v).mutable = true
  · rw [assign, bind_apply, get_apply]
    simp only [types, if_true, other, if_false, mutable]
    rcases backing_of_binding? found with held | ⟨_, _, held⟩ | held <;> simp only [held]
  · rw [Bool.not_eq_true] at mutable
    rw [write_immutable mutable, assign, bind_apply, get_apply]
    simp only [types, if_true, other, if_false, mutable]
    rfl

theorem assign_mistyped (types : (w.ty v).same (w.ty x) = false) : (assign v x w).2 = w := by
  rw [assign, bind_apply, get_apply]
  simp only [types]
  rfl

theorem assign_unchanged (found : w.binding? v = some b) (unwritten : ∀ p, (write v p w).2 = w)
    (x : Value) : (assign v x w).2 = w := by
  by_cases other : v = x
  · rw [other, assign_self]
  · cases types : (w.ty v).same (w.ty x) with
    | false => exact assign_mistyped types
    | true =>
        rw [assign_bound found other types]
        exact unwritten _

theorem write_refused (found : w.binding? v = some b) (mutable : (w.cell v).mutable = true)
    (refused : ∃ refusal, b.pass (w.family v) p w.outside = (.error refusal, w.outside)) :
    write v p w = (.ok false, w) := by
  obtain ⟨refusal, answer⟩ := refused
  rw [write_bound found mutable, answer]

/-- How a script reaches an entry through `v`, which stands for it through `b`: by the getter and by
the answer of the setter, unless a gate is closed, and then the outcome is the same whatever these two
would do. -/
structure Gated (w : World E) (v : Value) (b : Binding E) : Prop where
  shows : w.payload v = b.show (w.family v) w.outside
  answers : (w.cell v).mutable = true → ∀ p, write v p w =
    match b.pass (w.family v) p w.outside with
    | (.ok (), outside) => (.ok true, { w with outside }.setDirty v)
    | (.error _, outside) => (.ok false, { w with outside })
  hidden : w.family v ≠ .field → b.accessor.access.get = false → w.payload v = .null
  unwritable : w.family v ≠ .field → b.accessor.access.set = false → (w.cell v).mutable = true →
    (∀ p, write v p w = (.ok false, w)) ∧
      ∀ x, v ≠ x → (w.ty v).same (w.ty x) = true → assign v x w = (.ok false, w)
  immutable : (w.cell v).mutable = false →
    ∀ p, write v p w = (.error (.notMutable (w.ty v).name), w)
  foreign : ∀ (T : Type) (kind : HostKind E T) access getter setter,
    b.accessor = kind.accessor access getter setter → kind.find b.host w.outside = none →
      w.payload v = .null ∧
        (∀ p, (write v p w).1 ≠ .ok true ∧ (write v p w).2 = w) ∧ ∀ x, (assign v x w).2 = w

theorem gated_of_bound (found : w.binding? v = some b) : w.Gated v b where
  shows := payload_bound found
  answers mutable p := write_bound found mutable p
  hidden bridged flag := by
    rw [payload_bound found, Binding.show, if_neg bridged, Binding.read, flag]
    rfl
  unwritable bridged flag mutable := by
    have written : ∀ p, write v p w = (.ok false, w) := by
      intro p
      refine write_refused found mutable ⟨.notSettable, ?_⟩
      rw [Binding.pass, if_neg bridged, Binding.write, flag]
      rfl
    refine ⟨written, fun x other types => ?_⟩
    rw [assign_bound found other types, written]
  immutable immutable p := write_immutable immutable p
  foreign T kind access getter setter same away := by
    have unseen : b.readAlways w.outside = .null := by
      rw [Binding.readAlways, same]
      exact HostKind.get_foreign away access getter setter
    have refused : ∀ p, ∃ refusal,
        b.pass (w.family v) p w.outside = (.error refusal, w.outside) := by
      intro p
      have untouched : b.writeAlways p w.outside =
          (.error (.typeMismatch kind.name "foreign host object"), w.outside) := by
        rw [Binding.writeAlways, same]
        exact HostKind.set_foreign away access getter setter p
      rw [Binding.pass]
      split
      · exact ⟨_, untouched⟩
      · rw [Binding.write]
        split
        · exact ⟨_, untouched⟩
        · exact ⟨_, rfl⟩
    have unwritten : ∀ p, (write v p w).1 ≠ .ok true ∧ (write v p w).2 = w := by
      intro p
      cases mutable : (w.cell v).mutable with
      | true =>
          rw [write_refused found mutable (refused p)]
          exact ⟨by simp, rfl⟩
      | false =>
          rw [write_immutable mutable]
          exact ⟨by simp, rfl⟩
    refine ⟨?_, unwritten, assign_unchanged found fun p => (unwritten p).2⟩
    rw [payload_bound found, Binding.show, Binding.read, unseen, ite_self, ite_self]

/-! What does not reach the outside state -/

theorem accept_outside (unbound : w.binding? v = none) (p : Payload) :
    (w.accept v p).2.outside = w.outside := by
  by_cases collection : ((w.backing v).container?).isSome = true
  · exact (admits_accept overlooks_retains.tolerates.admits collection p).outside
  · unfold binding? at unbound
    unfold accept
    cases held : w.backing v with
    | property | aggregateProperty | field =>
        rw [held] at unbound
        cases unbound
    | list | set | map =>
        rw [held] at collection
        exact absurd rfl collection
    | enum | function | prototype =>
        dsimp only
        split <;> rfl
    | _ => rfl

theorem composes_sameOutside : Composes fun u w : World E => w.outside = u.outside where
  refl _ := rfl
  trans first second := second.trans first

theorem write_outside (unbound : w.binding? v = none) (p : Payload) :
    (write v p w).2.outside = w.outside :=
  composes_write composes_sameOutside (accept_outside unbound p) fun _ => rfl

theorem rehome_outside (w : World E) (v : Value) (space : SpaceId) :
    (rehome v space w).2.outside = w.outside :=
  composes_rehome composes_sameOutside fun _ _ _ => rfl

theorem assign_outside (unbound : w.binding? v = none) (x : Value) :
    (assign v x w).2.outside = w.outside :=
  composes_assign composes_sameOutside (rehome_outside w v) (fun _ _ _ => rfl) (fun _ _ => rfl)
    (write_outside unbound _)

theorem recordTranslated_outside (w : World E) (v : Value) (space : SpaceId) :
    (w.recordTranslated v space).outside = w.outside := by
  rw [recordTranslated]
  split
  · rfl
  · split <;> rfl

theorem releaseTranslated_outside (w : World E) (v : Value) :
    (w.releaseTranslated v).outside = w.outside := by
  rw [releaseTranslated]
  split <;> rfl

end World

end ScriptValues
