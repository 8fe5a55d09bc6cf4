/-! Types of script values.

Aggregates and enums are nominal: a name stands for one definition, so later modules compare them
by name alone. -/

namespace ScriptValues

inductive Scalar where
  | bool
  | int
  | float
  | string
  | graph
  deriving DecidableEq

namespace Scalar

def name : Scalar → String
  | bool => "bool"
  | int => "int"
  | float => "float"
  | string => "string"
  | graph => "graph"

def isNumeric : Scalar → Bool
  | int | float => true
  | _ => false

end Scalar

inductive PrototypeKind where
  | entity
  | item
  deriving DecidableEq

/-- A field is stored, a property goes through an accessor. -/
inductive MemberKind where
  | field
  | property
  deriving DecidableEq

/-- A member of an aggregate type over the types `T`. -/
structure MemberOf (T : Type) where
  name : String
  ty : T
  kind : MemberKind

structure EnumType where
  name : String
  variants : List String

inductive Ty where
  | noType
  | scalar (scalar : Scalar)
  | aggregate (name : String) (members : List (MemberOf Ty)) (adapted : Bool)
  | list (element : Ty)
  | set (element : Ty)
  | map (key element : Ty)
  | function (parameters : List Ty) (result : Ty)
  | enum (definition : EnumType)
  | prototype (kind : PrototypeKind)

abbrev Member := MemberOf Ty

/-- The definition behind an aggregate type. An adapted aggregate belongs to the embedding program:
scripts only see values that a translator made. -/
structure AggregateType where
  name : String
  members : List Member
  adapted : Bool

structure Variant where
  owner : EnumType
  position : Fin owner.variants.length

inductive TyKind where
  | noType
  | basic
  | aggregate
  | adaptedAggregate
  | list
  | set
  | map
  | function
  | enum
  | prototype
  deriving DecidableEq

namespace AggregateType

def member? (definition : AggregateType) (name : String) : Option Member :=
  definition.members.find? (·.name == name)

end AggregateType

namespace EnumType

def allVariants (definition : EnumType) : List Variant :=
  (List.finRange definition.variants.length).map fun position => ⟨definition, position⟩

def variant? (definition : EnumType) (name : String) : Option Variant :=
  (List.finRange definition.variants.length).find? (definition.variants[·] == name)
    |>.map fun position => ⟨definition, position⟩

end EnumType

namespace Variant

def name (v : Variant) : String := v.owner.variants[v.position]

def ordinal (v : Variant) : Nat := v.position

def text (v : Variant) : String := v.owner.name ++ "." ++ v.name

/-- Variants are told apart by the name of their enum and their position. -/
def same (v w : Variant) : Bool := v.owner.name == w.owner.name && v.ordinal == w.ordinal

end Variant

namespace Ty

instance : Inhabited Ty := ⟨noType⟩

def int : Ty := scalar .int
def float : Ty := scalar .float
def bool : Ty := scalar .bool
def string : Ty := scalar .string
def graph : Ty := scalar .graph

def aggregate? : Ty → Option AggregateType
  | aggregate name members adapted => some ⟨name, members, adapted⟩
  | _ => none

def enum? : Ty → Option EnumType
  | enum definition => some definition
  | _ => none

def scalar? : Ty → Option Scalar
  | scalar s => some s
  | _ => none

def isAggregate (ty : Ty) : Bool := ty.aggregate?.isSome

def isFunction : Ty → Bool
  | function _ _ => true
  | _ => false

def isNoType : Ty → Bool
  | noType => true
  | _ => false

/-- What a list or set holds, and what the keys of a map lead to. -/
def element? : Ty → Option Ty
  | list element | set element | map _ element => some element
  | _ => none

def key? : Ty → Option Ty
  | map key _ => some key
  | _ => none

def result? : Ty → Option Ty
  | function _ result => some result
  | _ => none

def member? (ty : Ty) (name : String) : Option Member :=
  ty.aggregate?.bind (·.member? name)

def kind : Ty → TyKind
  | noType => .noType
  | scalar _ => .basic
  | aggregate _ _ adapted => if adapted then .adaptedAggregate else .aggregate
  | list _ => .list
  | set _ => .set
  | map _ _ => .map
  | function _ _ => .function
  | enum _ => .enum
  | prototype _ => .prototype

mutual

/-- Equality of types: by structure, and by name for aggregates and enums. -/
def same : Ty → Ty → Bool
  | noType, noType => true
  | scalar s, scalar t => s == t
  | aggregate a _ _, aggregate b _ _ => a == b
  | list a, list b => a.same b
  | set a, set b => a.same b
  | map k a, map l b => k.same l && a.same b
  | function ps a, function qs b => sameAll ps qs && a.same b
  | enum d, enum e => d.name == e.name
  | prototype k, prototype l => k == l
  | _, _ => false

def sameAll : List Ty → List Ty → Bool
  | [], [] => true
  | a :: as, b :: bs => a.same b && sameAll as bs
  | _, _ => false

end

def distinct (types : List Ty) : List Ty :=
  types.foldl (fun kept ty => if kept.any (·.same ty) then kept else kept ++ [ty]) []

end Ty

namespace MemberOf

def same (m n : Member) : Bool := m.name == n.name && m.ty.same n.ty && m.kind == n.kind

end MemberOf

end ScriptValues
