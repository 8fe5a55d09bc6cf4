import ScriptValues.Value.Reading

/-! Defaults that a template keeps for the members of its type. -/

namespace ScriptValues

namespace World

variable {E : Type}

def knowsMember (p : Prototype) (name : String) : Bool :=
  (p.internal.bind (·.member? name)).isSome

/-- Registers a default for a member of the described type, in place of an earlier one. -/
def addDefault (w : World E) (p : Prototype) (name : String) (v : Value) : Bool × World E :=
  if knowsMember p name then (true, w.writeTemplate p.id ((w.template p.id).insert name v))
  else (false, w)

def defaultValue (w : World E) (p : Prototype) (name : String) : Value :=
  ((w.template p.id).get? name).getD .none

def defaultValues (w : World E) (p : Prototype) : Table Value := w.template p.id

def prototypeDebugText (w : World E) (p : Prototype) : String :=
  debugRecord "Prototype"
    [("name", quoted p.name), ("defaults", toString (w.defaultValues p).size)]

end World

end ScriptValues
