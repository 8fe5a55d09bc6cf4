import ScriptValues.Ty.Basic
import ScriptValues.Text.Quoted

/-! Types as text: as scripts write them, and as debug output shows them. -/

namespace ScriptValues

namespace Ty

mutual

/-- A type as a script writes it, such as `[int -> string]` or `fn(int[]) -> bool`. -/
def text : Ty → String
  | noType => "none"
  | scalar s => s.name
  | aggregate name _ _ => name
  | list element => element.text ++ "[]"
  | set element => element.text ++ "<>"
  | map key element => "[" ++ key.text ++ " -> " ++ element.text ++ "]"
  | function parameters result => enclosed "fn(" (texts parameters) ")" ++ " -> " ++ result.text
  | enum definition => definition.name
  | prototype .entity => "prototype"
  | prototype .item => "item_prototype"

def texts : List Ty → List String
  | [] => []
  | ty :: rest => ty.text :: texts rest

end

def name (ty : Ty) : String := ty.text

def debugText (ty : Ty) : String := "Ty(" ++ ty.text ++ ")"

end Ty

namespace Scalar

def debugText : Scalar → String
  | bool => "Bool"
  | int => "Int"
  | float => "Float"
  | string => "Str"
  | graph => "Graph"

end Scalar

namespace MemberKind

def debugText : MemberKind → String
  | field => "Field"
  | property => "Property"

end MemberKind

namespace PrototypeKind

def debugText : PrototypeKind → String
  | entity => "Entity"
  | item => "Item"

end PrototypeKind

def debugRecord (name : String) (fields : List (String × String)) : String :=
  enclosed (name ++ " \x7b ") (fields.map fun field => field.1 ++ ": " ++ field.2) " \x7d"

namespace MemberOf

def debugText (m : Member) : String :=
  debugRecord "MemberSymbol"
    [("name", quoted m.name), ("ty", m.ty.debugText), ("kind", m.kind.debugText)]

end MemberOf

namespace AggregateType

def debugText (definition : AggregateType) : String :=
  debugRecord "AggregateType"
    [("name", quoted definition.name), ("members", toString definition.members.length)]

end AggregateType

namespace EnumType

def debugText (definition : EnumType) : String :=
  enclosed "EnumType(" [quoted definition.name] ")"

end EnumType

namespace TyKind

def name : TyKind → String
  | noType => "NoType"
  | basic => "Basic"
  | aggregate => "Aggregate"
  | adaptedAggregate => "AggregateAdapted"
  | list => "List"
  | set => "Set"
  | map => "Map"
  | function => "Function"
  | enum => "Enum"
  | prototype => "Prototype"

end TyKind

namespace Ty

def structureText : Ty → String
  | noType => "NoType"
  | scalar s => enclosed "Scalar(" [s.debugText] ")"
  | aggregate name members adapted =>
      enclosed "Aggregate(" [AggregateType.debugText ⟨name, members, adapted⟩] ")"
  | list element => enclosed "List(" [element.debugText] ")"
  | set element => enclosed "Set(" [element.debugText] ")"
  | map key element => enclosed "Map(" [key.debugText, element.debugText] ")"
  | function parameters result =>
      debugRecord "Function"
        [("params", enclosed "[" (parameters.map debugText) "]"), ("ret", result.debugText)]
  | enum definition => enclosed "Enum(" [definition.debugText] ")"
  | prototype kind => enclosed "Prototype(" [kind.debugText] ")"

end Ty

end ScriptValues
