import ScriptValues.Data.Feed
import ScriptValues.Ty.Basic

/-! Types as they are fed to a hasher. -/

namespace ScriptValues

def Scalar.form : Scalar → Nat
  | bool => 0
  | int => 1
  | float => 2
  | string => 3
  | graph => 4

def PrototypeKind.form : PrototypeKind → Nat
  | entity => 0
  | item => 1

def EnumType.feed (definition : EnumType) : Feed := [.text definition.name]

namespace Ty

def form : Ty → Nat
  | noType => 0
  | scalar _ => 1
  | aggregate _ _ _ => 2
  | list _ => 3
  | set _ => 4
  | map _ _ => 5
  | function _ _ => 6
  | enum _ => 7
  | prototype _ => 8

mutual

/-- Of aggregates and enums only the name is fed. -/
def feed (ty : Ty) : Feed :=
  .tag ty.form ::
    match ty with
    | noType => []
    | scalar s => [.tag s.form]
    | aggregate name _ _ => [.text name]
    | list element | set element => element.feed
    | map key element => key.feed ++ element.feed
    | function parameters result => .count parameters.length :: feeds parameters ++ result.feed
    | enum definition => definition.feed
    | prototype kind => [.tag kind.form]

def feeds : List Ty → Feed
  | [] => []
  | ty :: rest => ty.feed ++ feeds rest

end

end Ty

def Variant.feed (v : Variant) : Feed := v.owner.feed ++ [.count v.ordinal]

end ScriptValues
