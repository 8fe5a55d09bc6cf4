import ScriptValues.Proofs.Host.Bridge
import ScriptValues.Proofs.Host.Entries

/-! Values that stand for the same entry of a host object.

Whatever is done to the values of a world, the entries of the host objects change only with the writes
that are accepted by values bound to them, so that all values that stand for an entry show the payload
that was last accepted by one of them. -/

namespace ScriptValues

open Step

variable {E K : Type}

theorem Binding.Opens.accepted_pass {content : K → E → Payload} {b : Binding E} {k : K}
    (opens : b.Opens content k) {family : Family} {p : Payload} {outside after : E}
    (done : b.pass family p outside = (.ok (), after)) :
    content k after = p ∧ ∀ j, j ≠ k → content j after = content j outside := by
  rw [Binding.pass] at done
  split at done
  · exact opens.accepted p outside after done
  · rw [Binding.write] at done
    split at done
    · exact opens.accepted p outside after done
    · cases done

def Operation.receives? : Operation E → Option Value
  | write v _ | assign v _ => some v
  | _ => none

/-- Where an operation writes through a binding, the binding opens an entry; changes of the outside
state itself leave the entries alone. -/
structure Operation.Coherent (content : K → E → Payload) (w : World E) (operation : Operation E) :
    Prop where
  opens : ∀ v b, operation.receives? = some v → w.binding? v = some b → ∃ k, b.Opens content k
  inside : ∀ change, operation = .outside change →
    ∀ k, content k (change w.outside) = content k w.outside

namespace World

variable {content : K → E → Payload} {w : World E} {v x : Value} {b : Binding E} {j k : K} {p : Payload}

/-- The operation writes `p` to the entry `k`, and the write is accepted. -/
inductive Accepts (content : K → E → Payload) (w : World E) (k : K) (p : Payload) :
    Operation E → Prop
  | write {v : Value} {b : Binding E} (found : w.binding? v = some b) (opens : b.Opens content k)
      (done : (ScriptValues.write v p w).1 = .ok true) : Accepts content w k p (.write v p)
  | assign {v x : Value} {b : Binding E} (other : v ≠ x) (found : w.binding? v = some b)
      (opens : b.Opens content k) (shown : w.payload x = p)
      (done : (ScriptValues.assign v x w).1 = .ok true) :
      Accepts content w k p (.assign v x)

/-- No write to the entry is accepted during the operations. -/
def Unaccepted (embedding : Embedding E) (content : K → E → Payload) (k : K)
    (operations : List (Operation E)) (w : World E) : Prop :=
  Throughout embedding (fun u operation => ∀ p, ¬ u.Accepts content k p operation) operations w

theorem types_of_assigned {accepted : Bool} (done : (assign v x w).1 = .ok accepted) :
    (w.ty v).same (w.ty x) = true := by
  rw [assign, bind_apply, get_apply] at done
  cases types : (w.ty v).same (w.ty x) with
  | true => rfl
  | false =>
      simp only [types] at done
      cases done

theorem accepted_write (found : w.binding? v = some b) (opens : b.Opens content k)
    (done : (write v p w).1 = .ok true) :
    content k (write v p w).2.outside = p ∧
      ∀ j, j ≠ k → content j (write v p w).2.outside = content j w.outside := by
  cases mutable : (w.cell v).mutable with
  | false =>
      rw [write_immutable mutable] at done
      cases done
  | true =>
      have accepted : ∀ after, b.pass (w.family v) p w.outside = (.ok (), after) →
          content k after = p ∧ ∀ j, j ≠ k → content j after = content j w.outside :=
        fun _ => opens.accepted_pass
      rw [write_bound found mutable] at done ⊢
      generalize b.pass (w.family v) p w.outside = answer at done accepted ⊢
      obtain ⟨_ | _, after⟩ := answer
      · cases done
      · exact accepted after rfl

theorem unaccepted_write (opened : ∀ b, w.binding? v = some b → ∃ j, b.Opens content j)
    (unaccepted : ∀ b, w.binding? v = some b → b.Opens content k → (write v p w).1 ≠ .ok true) :
    content k (write v p w).2.outside = content k w.outside := by
  cases found : w.binding? v with
  | none => rw [write_outside found]
  | some b =>
      obtain ⟨j, opens⟩ := opened b found
      by_cases done : (write v p w).1 = .ok true
      · have apart : k ≠ j := by
          rintro rfl
          exact unaccepted b found opens done
        exact (accepted_write found opens done).2 k apart
      · have considerate : ∀ c, w.binding? v = some c → c.Considerate := by
          intro c same
          cases found.symm.trans same
          exact opens.refused
        rw [(write_settles considerate p).unchanged done]

theorem unaccepted_assign (opened : ∀ b, w.binding? v = some b → ∃ j, b.Opens content j)
    (unaccepted : ∀ b, v ≠ x → w.binding? v = some b → b.Opens content k →
      (assign v x w).1 ≠ .ok true) :
    content k (assign v x w).2.outside = content k w.outside := by
  cases found : w.binding? v with
  | none => rw [assign_outside found]
  | some b =>
      by_cases other : v = x
      · rw [other, assign_self]
      · cases types : (w.ty v).same (w.ty x) with
        | false => rw [assign_mistyped types]
        | true =>
            have same := assign_bound found other types
            rw [same]
            refine unaccepted_write opened fun c bound opens done => ?_
            exact unaccepted c other bound opens (same ▸ done)

section Runs

variable {embedding : Embedding E} {operation : Operation E}

/-- An accepted write makes the payload the content of its entry and leaves all others alone. -/
theorem entry_of_accepted (accepts : w.Accepts content k p operation) :
    let u := (operation.step embedding w).2
    content k u.outside = p ∧ ∀ j, j ≠ k → content j u.outside = content j w.outside := by
  cases accepts with
  | write found opens done =>
      simp only [Operation.step, Operation.dropped, map_snd]
      exact accepted_write found opens done
  | assign other found opens shown done =>
      simp only [Operation.step, Operation.dropped, map_snd]
      have same := assign_bound found other (types_of_assigned done)
      rw [same, shown] at done ⊢
      exact accepted_write found opens done

variable (kept : embedding.Within (SameEntries content))

include kept

theorem entry_of_unaccepted (coherent : operation.Coherent content w)
    (unaccepted : ∀ p, ¬ w.Accepts content k p operation) :
    content k (operation.step embedding w).2.outside = content k w.outside := by
  have overlooks := overlooks_sameEntries (E := E) content
  by_cases idle : operation.idle = true
  · exact tolerates_step overlooks.tolerates kept idle w k
  have space : ∀ v, SameEntries content w (memberSpace embedding v w).2 := fun v =>
    admits_memberSpaceWithin overlooks.tolerates kept
      (fun w v space => sameEntries_of_outside content (recordTranslated_outside w v space)) _ v w
  cases operation with
  | write v p =>
      rw [Operation.step, Operation.dropped, map_snd]
      refine unaccepted_write (coherent.opens v · rfl) fun b found opens done => ?_
      exact unaccepted p (.write found opens done)
  | assign v x =>
      rw [Operation.step, Operation.dropped, map_snd]
      refine unaccepted_assign (coherent.opens v · rfl) fun b other found opens done => ?_
      exact unaccepted _ (.assign other found opens rfl done)
  | rehome v space =>
      change content k (rehome v space w).2.outside = _
      rw [rehome_outside]
  | setDirty => rfl
  | memberSpace v =>
      rw [Operation.step, Operation.dropped, map_snd]
      exact space v k
  | member v name =>
      rw [Operation.step, Operation.dropped, map_snd, member_snd]
      exact space v k
  | release v =>
      change content k (w.releaseTranslated v).outside = _
      rw [releaseTranslated_outside]
  | outside change => exact coherent.inside change rfl k
  | _ => exact absurd rfl idle

/-- An entry stays as it is through a run without accepted writes to it. -/
theorem entry_after {operations : List (Operation E)}
    (coherent : Throughout embedding (Operation.Coherent content) operations w)
    (unaccepted : Unaccepted embedding content k operations w) :
    content k (w.after embedding operations).outside = content k w.outside := by
  induction operations generalizing w with
  | nil => rfl
  | cons operation rest ih =>
      have first := entry_of_unaccepted kept coherent.1 unaccepted.1
      exact (ih coherent.2 unaccepted.2).trans first

/-- Whatever is written last to an entry is what every value bound to it shows that may be read. -/
theorem payload_after_accepted {later : List (Operation E)}
    (accepts : w.Accepts content k p operation)
    (coherent : Throughout embedding (Operation.Coherent content) later (operation.step embedding w).2)
    (unaccepted : Unaccepted embedding content k later (operation.step embedding w).2) :
    let u := (operation.step embedding w).2.after embedding later
    content k u.outside = p ∧
      ∀ v b, u.binding? v = some b → b.Opens content k →
        (u.family v = .field ∨ b.accessor.access.get = true) → u.payload v = p := by
  intro u
  have holds : content k u.outside = p :=
    (entry_after kept coherent unaccepted).trans (entry_of_accepted accepts).1
  refine ⟨holds, fun v b found opens readable => ?_⟩
  rw [payload_bound found, Binding.show, Binding.read, opens.reads, holds]
  rcases readable with field | flag
  · rw [if_pos field]
  · rw [if_pos flag, ite_self]

/-- Operations of any kind go on in a world, where each write goes to a value that stands for no
entry or whose getter and setter are in order. An entry that changes was written to by an accepted
write; such a write changes no other entry, and until the next one all values bound to the entry that
may be read show what was written. Each value shows what its getter reads and answers what its setter
does, unless the access flags, the mutability of the value or the kind of the host object stand in
the way before either is asked. -/
theorem hosts_cohere {operations : List (Operation E)}
    (coherent : Throughout embedding (Operation.Coherent content) operations w) :
    (∀ k, Unaccepted embedding content k operations w →
      content k (w.after embedding operations).outside = content k w.outside) ∧
    (∀ before operation later k p, operations = before ++ operation :: later →
      (w.after embedding before).Accepts content k p operation →
      let written := (operation.step embedding (w.after embedding before)).2
      (content k written.outside = p ∧
        ∀ j, j ≠ k → content j written.outside = content j (w.after embedding before).outside) ∧
      (Unaccepted embedding content k later written →
        let u := w.after embedding operations
        content k u.outside = p ∧
          ∀ v b, u.binding? v = some b → b.Opens content k →
            (u.family v = .field ∨ b.accessor.access.get = true) → u.payload v = p)) ∧
    ∀ (u : World E) v b, u.binding? v = some b → u.Gated v b := by
  refine ⟨fun k unaccepted => entry_after kept coherent unaccepted, ?_,
    fun u v b => gated_of_bound⟩
  rintro before operation later k p rfl accepts
  refine ⟨entry_of_accepted accepts, fun unaccepted => ?_⟩
  have split : w.after embedding (before ++ operation :: later) =
      (operation.step embedding (w.after embedding before)).2.after embedding later :=
    after_append embedding before (operation :: later) w
  rw [split]
  exact payload_after_accepted kept accepts (throughout_append.mp coherent).2.2 unaccepted

end Runs

end World

def doorLevel : EntryAccess := ⟨"level", some "int", false, .readWrite⟩

def hiddenLevel : EntryAccess := ⟨"level", some "int", false, ⟨false, false⟩⟩

/-- Two doors, the second one foreign: a property and a field for the level of the first one, and a
property for the level of the second one. -/
def twoDoors : World Outside :=
  let levels := Table.empty.insert "level" (.int 1)
  let o := ((Outside.initial "Host" Table.empty).addHost ⟨"Door", false, levels⟩).2
  let o := (o.addHost ⟨"Door", true, levels⟩).2
  let w := (World.initial 4 o).newProperty .int ⟨doorLevel.accessor "Host", ⟨0⟩⟩ true
  let w := w.2.newField .int ⟨hiddenLevel.accessor "Host", ⟨0⟩⟩
  (w.2.newProperty .int ⟨doorLevel.accessor "Host", ⟨1⟩⟩ true).2

def writtenDoors : World Outside :=
  twoDoors.after TableHost.translators [.shallowView ⟨2⟩, .write ⟨2⟩ (.int 5)]

def afterWritten : List (Operation Outside) := [.write ⟨4⟩ (.int 7), .deepCopy ⟨3⟩]

namespace World

/-- The field and the view of the property show what was written through the property. -/
theorem hosts_cohere_twoDoors :
    let u := writtenDoors.after TableHost.translators afterWritten
    u.payload ⟨3⟩ = .int 5 ∧ u.payload ⟨5⟩ = .int 5 ∧ u.payload ⟨4⟩ = .null := by
  intro u
  have property : u.binding? ⟨5⟩ = some ⟨doorLevel.accessor "Host", ⟨0⟩⟩ := rfl
  have field : u.binding? ⟨3⟩ = some ⟨hiddenLevel.accessor "Host", ⟨0⟩⟩ := rfl
  have foreign : u.binding? ⟨4⟩ = some ⟨doorLevel.accessor "Host", ⟨1⟩⟩ := rfl
  have coherent : Throughout TableHost.translators (Operation.Coherent (tableContent "Host"))
      ([.shallowView ⟨2⟩] ++ .write ⟨2⟩ (.int 5) :: afterWritten) twoDoors := by
    refine ⟨⟨nofun, nofun⟩, ⟨fun v b target found => ?_, nofun⟩,
      ⟨fun v b target found => ?_, nofun⟩, ⟨nofun, nofun⟩, trivial⟩
    · cases target
      cases found
      exact ⟨_, doorLevel.opens "Host" ⟨0⟩⟩
    · cases target
      cases found
      exact ⟨_, doorLevel.opens "Host" ⟨1⟩⟩
  have unaccepted : Unaccepted TableHost.translators (tableContent "Host") (⟨0⟩, "level")
      afterWritten writtenDoors := by
    have answer : (write ⟨4⟩ (.int 7) writtenDoors).1 = .ok false := rfl
    refine ⟨fun p accepts => ?_, fun p accepts => ?_, trivial⟩
    · cases accepts with
      | write found opens done =>
          rw [answer] at done
          cases done
    · cases accepts
  obtain ⟨-, accepted, gated⟩ :=
    hosts_cohere (translators_sameEntries "Host") coherent
  have accepts : (twoDoors.after TableHost.translators [.shallowView ⟨2⟩]).Accepts
      (tableContent "Host") (⟨0⟩, "level") (.int 5) (.write ⟨2⟩ (.int 5)) :=
    .write rfl (doorLevel.opens "Host" ⟨0⟩) rfl
  have shown := ((accepted _ _ _ _ _ rfl accepts).2 unaccepted).2
  refine ⟨shown _ _ field (hiddenLevel.opens "Host" ⟨0⟩) (.inl rfl),
    shown _ _ property (doorLevel.opens "Host" ⟨0⟩) (.inr rfl), ?_⟩
  exact ((gated u _ _ foreign).foreign _ _ _ _ _ rfl rfl).1

end World

end ScriptValues
