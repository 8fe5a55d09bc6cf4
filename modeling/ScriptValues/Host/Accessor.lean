import ScriptValues.Fault.Basic
import ScriptValues.Payload.Basic

/-! Accessors: how values reach into host objects.

The embedding program keeps its host objects in a state of a type of its own, here called `E`. An
accessor reads one entry of a host object from that state and may write it. -/

namespace ScriptValues

structure Access where
  get : Bool
  set : Bool
  deriving DecidableEq

namespace Access

def readWrite : Access := ⟨true, true⟩

def readOnly : Access := ⟨true, false⟩

def bits (access : Access) : Nat := access.get.toNat + 2 * access.set.toNat

def debugText : Access → String
  | ⟨true, true⟩ => "Access(GET | SET)"
  | ⟨true, false⟩ => "Access(GET)"
  | ⟨false, true⟩ => "Access(SET)"
  | ⟨false, false⟩ => "Access(0x0)"

end Access

structure Accessor (E : Type) where
  access : Access
  get : HostId → E → Payload
  set : HostId → Payload → E → Except Refusal Unit × E

/-- An accessor tied to one host object. -/
structure Binding (E : Type) where
  accessor : Accessor E
  host : HostId

structure Schema (E : Type) where
  field? : String → Option (Accessor E)
  property? : String → Option (Accessor E)

namespace Binding

variable {E : Type}

def readAlways (b : Binding E) (outside : E) : Payload := b.accessor.get b.host outside

/-- A binding that may not be read yields the null payload. -/
def read (b : Binding E) (outside : E) : Payload :=
  if b.accessor.access.get then b.readAlways outside else .null

def writeAlways (b : Binding E) (p : Payload) (outside : E) : Except Refusal Unit × E :=
  b.accessor.set b.host p outside

/-- A binding that may not be written refuses before the host is asked. -/
def write (b : Binding E) (p : Payload) (outside : E) : Except Refusal Unit × E :=
  if b.accessor.access.set then b.writeAlways p outside else (.error .notSettable, outside)

end Binding

/-- How host objects of one kind are found in and put back into the outside state. -/
structure HostKind (E T : Type) where
  name : String
  find : HostId → E → Option T
  store : HostId → T → E → E

namespace HostKind

variable {E T : Type}

/-- Other host objects read as null and refuse writes before `setter` is asked. -/
def accessor (kind : HostKind E T) (access : Access) (getter : T → Payload)
    (setter : T → Payload → Except Refusal T) : Accessor E where
  access := access
  get id outside :=
    match kind.find id outside with
    | none => .null
    | some object => getter object
  set id p outside :=
    match kind.find id outside with
    | none => (.error (.typeMismatch kind.name "foreign host object"), outside)
    | some object =>
        match setter object p with
        | .error refusal => (.error refusal, outside)
        | .ok changed => (.ok (), kind.store id changed outside)

end HostKind

end ScriptValues
