import ScriptValues.Data.Table
import ScriptValues.Ty.Text

/-! Types by name. A name is registered once and keeps its type. -/

namespace ScriptValues

structure DuplicateType where
  name : String
  deriving DecidableEq

namespace DuplicateType

def message (duplicate : DuplicateType) : String :=
  "type `" ++ duplicate.name ++ "` is already registered"

end DuplicateType

structure Registry where
  types : Table Ty

namespace Registry

/-- The types that exist before any is registered; the absent type has no name to resolve. -/
def builtins : List Ty :=
  [.int, .float, .bool, .string, .graph, .prototype .entity, .prototype .item]

def initial : Registry := ⟨Table.ofList (builtins.map fun ty => (ty.name, ty))⟩

def resolve? (r : Registry) (name : String) : Option Ty := r.types.get? name

def size (r : Registry) : Nat := r.types.size

def isEmpty (r : Registry) : Bool := r.types.isEmpty

def register (r : Registry) (ty : Ty) : Except DuplicateType Registry :=
  if r.types.contains ty.name then .error ⟨ty.name⟩
  else .ok ⟨r.types.insert ty.name ty⟩

end Registry

end ScriptValues
