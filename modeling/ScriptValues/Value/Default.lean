import ScriptValues.Value.Creation

/-! Values for declarations without an initial value. -/

namespace ScriptValues

variable {E : Type}

/-- The null payload also stands for an absent bool. -/
def defaultPayload (w : World E) : Ty → Payload × World E
  | .scalar .int => (.int 0, w)
  | .scalar .float => (.float ⟨0⟩, w)
  | .scalar .string => (.string "", w)
  | .scalar .graph =>
      let (g, w) := w.newGraph [] []
      (.graph g, w)
  | _ => (.null, w)

mutual

/-- The default value of a type, whose members live in spaces below `parent`. When a member fails,
all that was built for the aggregate is released. Members of an adapted aggregate are left to its
translator. -/
def defaultFor : Ty → SpaceId → Step E Value
  | .noType, _ => return .none
  | .scalar s, _ => Step.change fun w =>
      let (p, w) := defaultPayload w (.scalar s)
      w.newBasic (.scalar s) p
  | .aggregate name members adapted, parent => do
      let (v, space) ← newAggregate (.aggregate name members adapted) parent .null
      if adapted then return v
      else
        try
          bindDefaults members space
          return v
        catch fault =>
          let _ ← Step.changeArena fun a => a.freeSubtree space
          throw fault
  | .list element, _ => Step.change fun w => w.newList (.list element)
  | .set element, _ => Step.change fun w => w.newSet (.set element)
  | .map key element, _ => Step.change fun w => w.newMap (.map key element)
  | .function parameters result, _ =>
      Step.change fun w => w.newFunction (.function parameters result) none
  | .enum definition, _ => Step.change fun w => w.newEnum (.enum definition) none
  | .prototype kind, _ => Step.change fun w => w.newPrototype (.prototype kind) none

/-- Binds the default of each member in `space`, unless its name is bound there already. -/
def bindDefaults : List Member → SpaceId → Step E Unit
  | [], _ => return ()
  | ⟨name, ty, _⟩ :: rest, space => do
      let v ← defaultFor ty space
      let _ ← Step.bindName space name v
      bindDefaults rest space

end

end ScriptValues
