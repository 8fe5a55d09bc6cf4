import ScriptValues.Ty.Basic

/-! The methods that list, set and map types offer to scripts. -/

namespace ScriptValues

inductive Method where
  | listAdd
  | listSize
  | listGet
  | listClear
  | setAdd
  | setSize
  | setContains
  | setClear
  | mapAdd
  | mapGet
  | mapSize
  | mapKeys
  | mapElements
  | mapClear
  deriving DecidableEq

namespace Method

def name : Method → String
  | listAdd | setAdd | mapAdd => "add"
  | listSize | setSize | mapSize => "size"
  | listGet | mapGet => "get"
  | listClear | setClear | mapClear => "clear"
  | setContains => "contains"
  | mapKeys => "get_keys"
  | mapElements => "get_elements"

def arity : Method → Nat
  | mapAdd => 2
  | listAdd | listGet | setAdd | setContains | mapGet => 1
  | _ => 0

end Method

namespace Ty

def methods : Ty → List Method
  | list _ => [.listAdd, .listSize, .listGet, .listClear]
  | set _ => [.setAdd, .setSize, .setContains, .setClear]
  | map _ _ => [.mapAdd, .mapGet, .mapSize, .mapKeys, .mapElements, .mapClear]
  | _ => []

def method? (ty : Ty) (name : String) : Option Method := ty.methods.find? (·.name == name)

def methodSignature (key element : Ty) : Method → Ty
  | .listAdd => function [element] noType
  | .listSize | .setSize | .mapSize => function [] int
  | .listGet => function [int] element
  | .listClear | .setClear | .mapClear => function [] noType
  | .setAdd | .setContains => function [element] bool
  | .mapAdd => function [key, element] bool
  | .mapGet => function [key] element
  | .mapKeys => function [] (list key)
  | .mapElements => function [] (list element)

end Ty

end ScriptValues
