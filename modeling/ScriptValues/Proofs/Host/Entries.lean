import ScriptValues.Proofs.Failure.Write
import ScriptValues.Proofs.World.Retained
import ScriptValues.TableHost.Embedding

/-! The entries of host objects.

What is known of an entry is its content, a payload for each outside state. A binding opens an entry
if it reads this content and changes it, and no other entry, with the payloads that it accepts. That is
asked of the getter and the setter of one host object at a time; the host objects are told apart by the
way in which they are found and stored. -/

namespace ScriptValues

open Step

variable {E T K N : Type}

/-- The binding reads the entry `k`, writes to it what it accepts and leaves all other entries alone, so
that each entry reads as what was last accepted for it. What is refused changes nothing. -/
structure Binding.Opens (content : K → E → Payload) (b : Binding E) (k : K) : Prop where
  reads : ∀ outside, b.readAlways outside = content k outside
  accepted : ∀ p outside after, b.writeAlways p outside = (.ok (), after) →
    content k after = p ∧ ∀ j, j ≠ k → content j after = content j outside
  refused : b.Considerate

namespace HostKind

variable (kind : HostKind E T) (entries : N → T → Payload)

/-- The entries of all host objects of a kind; those of a foreign one are out of sight. -/
def content (k : HostId × N) (outside : E) : Payload :=
  match kind.find k.1 outside with
  | none => .null
  | some object => entries k.2 object

/-- A host object that is stored is found again, and no other one changes. -/
structure Lawful (valid : T → Prop) : Prop where
  found : ∀ h outside object, kind.find h outside = some object → valid object
  stored : ∀ h outside object changed, kind.find h outside = some object → valid changed →
    kind.find h (kind.store h changed outside) = some changed
  apart : ∀ h j changed outside, j ≠ h →
    kind.find j (kind.store h changed outside) = kind.find j outside

/-- A setter whose getter reads back what it accepts, while the other getters read what they did. -/
structure Sets (valid : T → Prop) (n : N) (setter : T → Payload → Except Refusal T) : Prop where
  valid : ∀ object p changed, valid object → setter object p = .ok changed → valid changed
  reads : ∀ object p changed, setter object p = .ok changed → entries n changed = p
  apart : ∀ object p changed, setter object p = .ok changed →
    ∀ m, m ≠ n → entries m changed = entries m object

variable {kind entries}

theorem set_ok {access : Access} {getter : T → Payload} {setter : T → Payload → Except Refusal T}
    {h : HostId} {p : Payload} {outside after : E}
    (done : (kind.accessor access getter setter).set h p outside = (.ok (), after)) :
    ∃ object changed, kind.find h outside = some object ∧ setter object p = .ok changed ∧
      after = kind.store h changed outside := by
  rw [accessor] at done
  cases found : kind.find h outside with
  | none =>
      simp only [found] at done
      cases done
  | some object =>
      simp only [found] at done
      cases taken : setter object p with
      | error =>
          simp only [taken] at done
          cases done
      | ok changed =>
          simp only [taken] at done
          cases done
          exact ⟨object, changed, rfl, taken, rfl⟩

theorem set_error {access : Access} {getter : T → Payload} {setter : T → Payload → Except Refusal T}
    {h : HostId} {p : Payload} {outside after : E} {refusal : Refusal}
    (done : (kind.accessor access getter setter).set h p outside = (.error refusal, after)) :
    after = outside := by
  rw [accessor] at done
  cases found : kind.find h outside with
  | none =>
      simp only [found] at done
      cases done
      rfl
  | some object =>
      simp only [found] at done
      cases taken : setter object p with
      | error =>
          simp only [taken] at done
          cases done
          rfl
      | ok =>
          simp only [taken] at done
          cases done

theorem opens_accessor {valid : T → Prop} {n : N} {setter : T → Payload → Except Refusal T}
    (lawful : kind.Lawful valid) (sets : Sets entries valid n setter) (access : Access)
    (h : HostId) :
    (⟨kind.accessor access (entries n) setter, h⟩ : Binding E).Opens (kind.content entries)
      (h, n) where
  reads _ := rfl
  accepted := by
    intro p outside after done
    obtain ⟨object, changed, found, taken, rfl⟩ := set_ok done
    have valid := sets.valid object p changed (lawful.found h outside object found) taken
    have again := lawful.stored h outside object changed found valid
    refine ⟨?_, fun j other => ?_⟩
    · simp only [content, again]
      exact sets.reads object p changed taken
    · by_cases same : j.1 = h
      · have name : j.2 ≠ n := fun equal => other (Prod.ext same equal)
        simp only [content, same, again, found]
        exact sets.apart object p changed taken j.2 name
      · simp only [content, lawful.apart h j.1 changed outside same]
  refused _ _ _ _ done := set_error done

end HostKind

namespace World

def SameEntries (content : K → E → Payload) (u w : World E) : Prop :=
  ∀ k, content k w.outside = content k u.outside

theorem sameEntries_of_outside (content : K → E → Payload) (same : w.outside = u.outside) :
    SameEntries content u w :=
  fun k => congrArg (content k) same

theorem overlooks_sameEntries (content : K → E → Payload) :
    Overlooks (SameEntries (E := E) content) where
  refl _ _ := rfl
  trans first second k := (second k).trans (first k)
  retains kept := sameEntries_of_outside content kept.outside

end World

/-! Table hosts -/

def tableEntry (key : String) (object : HostObject) : Payload :=
  (object.entries.get? key).getD .null

def tableContent (kindName : String) : HostId × String → Outside → Payload :=
  (tableHosts kindName).content tableEntry

theorem lawful_tableHosts (kindName : String) :
    (tableHosts kindName).Lawful fun object => object.foreign = false where
  found h outside object found := by
    obtain ⟨_, own⟩ := Option.filter_eq_some_iff.mp found
    simpa using own
  stored h outside object changed found own := by
    obtain ⟨there, _⟩ := Option.filter_eq_some_iff.mp found
    have present : h.index < outside.hosts.size := by
      refine Nat.lt_of_not_le fun beyond => ?_
      rw [Outside.host?, (Heap.get?_eq_none_iff _ _).mpr beyond] at there
      cases there
    have again : (outside.hosts.write h.index changed).get? h.index = some changed := by
      rw [Heap.get?_write, if_pos ⟨rfl, present⟩]
    change ((outside.hosts.write h.index changed).get? h.index).filter _ = some changed
    rw [again, Option.filter_some, own]
    rfl
  apart h j changed outside other := by
    have index : ¬ h.index = j.index := by
      intro same
      cases h
      cases j
      exact other (congrArg HostId.mk same.symm)
    change ((outside.hosts.write h.index changed).get? j.index).filter _ = _
    rw [Heap.get?_write, if_neg fun both => index both.1]
    rfl

theorem EntryAccess.sets_write (e : EntryAccess) :
    HostKind.Sets tableEntry (fun object => object.foreign = false) e.key e.write := by
  have stored : ∀ object p changed, e.write object p = .ok changed →
      changed = { object with entries := object.entries.insert e.key p } := by
    intro object p changed taken
    unfold EntryAccess.write at taken
    split at taken
    · cases taken
    · split at taken
      · cases taken
        rfl
      · split at taken
        · cases taken
          rfl
        · cases taken
  refine ⟨fun object p changed own taken => ?_, fun object p changed taken => ?_,
    fun object p changed taken m other => ?_⟩
  · rw [stored object p changed taken]
    exact own
  · rw [stored object p changed taken, tableEntry, Table.get?_insert_self]
    rfl
  · rw [stored object p changed taken, tableEntry, Table.get?_insert_other _ _ other]
    rfl

/-- Whatever the access flags, the expected kind and the key are, the accessor of a table opens its
entry. -/
theorem EntryAccess.opens (e : EntryAccess) (kindName : String) (h : HostId) :
    (⟨e.accessor kindName, h⟩ : Binding Outside).Opens (tableContent kindName) (h, e.key) :=
  HostKind.opens_accessor (lawful_tableHosts kindName) e.sets_write e.access h

theorem admits_translateWithin {R : World Outside → World Outside → Prop} (admits : Admits R)
    (counted : Within R TableHost.countCall) (bound : Nat) (translator : TranslatorId) (p : Payload)
    (parent : SpaceId) : Within R (TableHost.translateWithin bound translator p parent) := by
  induction bound generalizing translator p parent with
  | zero => exact within_throw admits _
  | succ bound ih =>
      refine within_bind admits counted fun _ => within_get_bind fun w => ?_
      cases w.outside.translators.get? translator.index with
      | none => exact admits.refl w
      | some rule =>
          cases rule with
          | absent | failing | fixed => exact admits.refl w
          | wrapping ty =>
              have made := admits_newAggregate admits ty parent p
              exact within_bind admits made
                (fun made => within_pure admits made.1) w
          | byClass =>
              dsimp only
              cases TableHost.classOf? w.outside p with
              | none => exact admits.refl w
              | some found =>
                  have inner : Embedding.Within
                      (⟨TableHost.translateWithin bound, fun _ _ _ => return .none⟩ :
                        Embedding Outside) R :=
                    ⟨ih, fun _ _ _ => within_pure admits _⟩
                  exact admits_encapsulate admits inner found.1 found.2.ty _ translator parent w

theorem translators_sameEntries (kindName : String) :
    TableHost.translators.Within (World.SameEntries (tableContent kindName)) := by
  have overlooks := World.overlooks_sameEntries (tableContent kindName)
  have counted : Within (World.SameEntries (tableContent kindName)) TableHost.countCall :=
    fun _ _ => rfl
  exact ⟨fun translator p parent => within_get_bind fun w =>
      admits_translateWithin overlooks.tolerates counted _ translator p parent w,
    fun _ _ _ => within_pure overlooks.toComposes _⟩

end ScriptValues
