import ScriptValues.Data.Attached
import ScriptValues.Number.Double
import ScriptValues.Call.Method

/-! Payloads: what values carry, as plain data.

A payload never contains a value. Graphs, callables, prototypes and host objects have an identity;
what else is stored with the identity never changes. -/

namespace ScriptValues

structure HostId where
  index : Nat
  deriving DecidableEq

structure TemplateId where
  index : Nat
  deriving DecidableEq

structure Graph where
  identity : Nat
  nodes : List String
  edges : List (Nat × Nat)

inductive Routine where
  | method (method : Method)
  | external (name : String)

structure Callable where
  identity : Nat
  routine : Routine

/-- A template of member defaults. The defaults change, and are stored under `id`. -/
structure Prototype where
  id : TemplateId
  ty : Ty
  internal : Option Ty

inductive Payload where
  | null
  | bool (b : Bool)
  | int (n : Int64)
  | float (x : Double)
  | string (s : String)
  | graph (g : Graph)
  | variant (v : Variant)
  | callable (c : Callable)
  | prototype (p : Prototype)
  | host (h : HostId)
  | list (items : List Payload)
  | set (items : List Payload)
  | map (entries : List (Payload × Payload))

namespace Callable

def name (c : Callable) : String :=
  match c.routine with
  | .method m => m.name
  | .external name => name

end Callable

namespace Payload

instance : Inhabited Payload := ⟨null⟩

def isNull : Payload → Bool
  | null => true
  | _ => false

def int? : Payload → Option Int64
  | int n => some n
  | _ => none

def float? : Payload → Option Double
  | float x => some x
  | _ => none

def bool? : Payload → Option Bool
  | bool b => some b
  | _ => none

def string? : Payload → Option String
  | string s => some s
  | _ => none

def host? : Payload → Option HostId
  | host h => some h
  | _ => none

def variant? : Payload → Option Variant
  | variant v => some v
  | _ => none

def kindName : Payload → String
  | null => "null"
  | bool _ => "bool"
  | int _ => "int"
  | float _ => "float"
  | string _ => "string"
  | graph _ => "graph"
  | variant _ => "enum variant"
  | callable _ => "callable"
  | prototype _ => "prototype"
  | host _ => "host object"
  | list _ => "list"
  | set _ => "set"
  | map _ => "map"

theorem sizeOf_lt_of_entry {entries : List (Payload × Payload)} {entry : Payload × Payload}
    (present : entry ∈ entries) :
    sizeOf entry.1 < sizeOf entries ∧ sizeOf entry.2 < sizeOf entries := by
  have smaller := List.sizeOf_lt_of_mem present
  obtain ⟨key, element⟩ := entry
  simp only [Prod.mk.sizeOf_spec] at smaller
  constructor <;> simp only <;> omega

/-- Equality of payloads. Sets and maps of one size are equal when each item of the first is found
in the second; the item of the second is then the left operand. -/
def same : Payload → Payload → Bool
  | null, null => true
  | bool a, bool b => a == b
  | int a, int b => a == b
  | float a, float b => Double.same a b
  | string a, string b => a == b
  | graph a, graph b => a.identity == b.identity
  | variant a, variant b => Variant.same a b
  | callable a, callable b => a.identity == b.identity
  | prototype a, prototype b => a.id == b.id
  | host a, host b => a == b
  | list as, list bs =>
      as.length == bs.length && (as.zip bs).attach.all fun pair => pair.1.1.same pair.1.2
  | set as, set bs =>
      as.length == bs.length && as.attach.all fun a => bs.attach.any fun b => b.1.same a.1
  | map as, map bs =>
      as.length == bs.length && as.attach.all fun a => bs.attach.any fun b =>
        b.1.1.same a.1.1 && b.1.2.same a.1.2
  | _, _ => false
termination_by a b => sizeOf a + sizeOf b
decreasing_by
  · obtain ⟨pair, present⟩ := pair
    have left := List.sizeOf_lt_of_mem (List.of_mem_zip present).1
    have right := List.sizeOf_lt_of_mem (List.of_mem_zip present).2
    simp only [list.sizeOf_spec]
    omega
  · have left := List.sizeOf_lt_of_mem a.2
    have right := List.sizeOf_lt_of_mem b.2
    simp only [set.sizeOf_spec]
    omega
  all_goals
    have left := sizeOf_lt_of_entry a.2
    have right := sizeOf_lt_of_entry b.2
    simp only [map.sizeOf_spec]
    omega

theorem same_list (as bs : List Payload) :
    (list as).same (list bs) =
      (as.length == bs.length && (as.zip bs).all fun pair => pair.1.same pair.2) := by
  rw [same, all_attach_val (as.zip bs) (fun pair => pair.1.same pair.2)]

theorem same_set (as bs : List Payload) :
    (set as).same (set bs) =
      (as.length == bs.length && as.all fun a => bs.any fun b => b.same a) := by
  rw [same, all_attach_val as (fun a => bs.attach.any fun b => b.1.same a)]
  congr 2
  funext a
  exact any_attach_val bs (fun b => b.same a)

theorem same_map (as bs : List (Payload × Payload)) :
    (map as).same (map bs) =
      (as.length == bs.length &&
        as.all fun a => bs.any fun b => b.1.same a.1 && b.2.same a.2) := by
  rw [same, all_attach_val as (fun a => bs.attach.any fun b => b.1.1.same a.1 && b.1.2.same a.2)]
  congr 2
  funext a
  exact any_attach_val bs (fun b => b.1.same a.1 && b.2.same a.2)

end Payload

end ScriptValues
