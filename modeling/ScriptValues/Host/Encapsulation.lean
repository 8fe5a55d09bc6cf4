import ScriptValues.Value.MemberSpace
import ScriptValues.Value.Creation

/-! Host objects as aggregates.

The aggregate type says which members there are and of what type, the schema which accessor stands
behind each. A member without an accessor is left out. -/

namespace ScriptValues

variable {E : Type}

/-- The value for one member in `space`. A field of aggregate type is translated at once and left
out while it is null; a property of aggregate type is translated when its space is asked for. -/
def exposedMember (embedding : Embedding E) (schema : Schema E) (translator : TranslatorId)
    (host : HostId) (space : SpaceId) (m : Member) : Step E (Option Value) :=
  match m.kind with
  | .field =>
      match schema.field? m.name with
      | none => return none
      | some accessor => do
          let b : Binding E := ⟨accessor, host⟩
          if m.ty.isAggregate then
            let p := b.readAlways (← get).outside
            if p.isNull then return none
            else some <$> embedding.translate translator p space
          else some <$> Step.change fun w => w.newField m.ty b
  | .property =>
      match schema.property? m.name with
      | none => return none
      | some accessor => some <$> Step.change fun w =>
          if m.ty.isAggregate then
            w.newAggregateProperty m.ty ⟨accessor, host⟩ space translator true
          else w.newProperty m.ty ⟨accessor, host⟩ true

/-- Binds the exposed members in `space`; the first exposed member of a name keeps it. -/
def exposeMembers (embedding : Embedding E) (schema : Schema E) (translator : TranslatorId)
    (host : HostId) (space : SpaceId) : List Member → Step E Unit
  | [] => return ()
  | m :: rest => do
      match ← exposedMember embedding schema translator host space m with
      | none => pure ()
      | some v => let _ ← Step.bindName space m.name v
      exposeMembers embedding schema translator host space rest

def encapsulate (embedding : Embedding E) (host : HostId) (ty : Ty) (schema : Schema E)
    (translator : TranslatorId) (parent : SpaceId) : Step E Value :=
  match ty.aggregate? with
  | none => throw (.notAggregate ty.name)
  | some definition => do
      let (v, space) ← newAggregate ty parent (.host host)
      exposeMembers embedding schema translator host space definition.members
      return v

end ScriptValues
