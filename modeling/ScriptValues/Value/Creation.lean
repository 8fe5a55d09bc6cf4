import ScriptValues.World.Step

/-! New values. -/

namespace ScriptValues

namespace World

variable {E : Type}

def newBasic (w : World E) (ty : Ty) (p : Payload) (mutable : Bool := true) : Value × World E :=
  w.addCell { ty, mutable, backing := .basic p }

def newInt (w : World E) (n : Int64) : Value × World E := w.newBasic .int (.int n)

def newFloat (w : World E) (x : Double) : Value × World E := w.newBasic .float (.float x)

def newBool (w : World E) (b : Bool) : Value × World E := w.newBasic .bool (.bool b)

def newString (w : World E) (s : String) : Value × World E := w.newBasic .string (.string s)

def newBasics (w : World E) (ty : Ty) : List Payload → List Value × World E
  | [] => ([], w)
  | p :: rest =>
      let (v, w) := w.newBasic ty p
      let (vs, w) := w.newBasics ty rest
      (v :: vs, w)

/-- An empty list. A type that is no collection leaves the element type open. -/
def newList (w : World E) (ty : Ty) : Value × World E :=
  let (l, w) := w.addList ⟨ty.element?.getD .noType, []⟩
  w.addCell { ty, mutable := true, backing := .list l }

def newSet (w : World E) (ty : Ty) : Value × World E :=
  let (s, w) := w.addSet ⟨ty.element?.getD .noType, [], []⟩
  w.addCell { ty, mutable := true, backing := .set s }

def newMap (w : World E) (ty : Ty) : Value × World E :=
  let (m, w) := w.addMap ⟨ty.key?.getD .noType, ty.element?.getD .noType, [], []⟩
  w.addCell { ty, mutable := true, backing := .map m }

def newEnum (w : World E) (ty : Ty) (v : Option Variant) : Value × World E :=
  w.addCell { ty, mutable := true, backing := .enum v }

def newVariant? (w : World E) (ty : Ty) (name : String) : Option (Value × World E) :=
  (ty.enum?.bind (·.variant? name)).map fun v => w.newEnum ty (some v)

def newFunction (w : World E) (ty : Ty) (c : Option Callable) : Value × World E :=
  w.addCell { ty, mutable := true, backing := .function c }

def newCallable (w : World E) (routine : Routine) : Callable × World E :=
  let (identity, w) := w.freshIdentity
  (⟨identity, routine⟩, w)

def newGraph (w : World E) (nodes : List String) (edges : List (Nat × Nat)) :
    Graph × World E :=
  let (identity, w) := w.freshIdentity
  (⟨identity, nodes, edges⟩, w)

def newPrototype (w : World E) (ty : Ty) (internal : Option Ty) : Value × World E :=
  let (id, w) := w.addTemplate
  w.addCell { ty, mutable := true, backing := .prototype ⟨id, ty, internal⟩ }

def newProperty (w : World E) (ty : Ty) (b : Binding E) (mutable : Bool) : Value × World E :=
  w.addCell { ty, mutable, backing := .property b }

def newAggregateProperty (w : World E) (ty : Ty) (b : Binding E) (parent : SpaceId)
    (translator : TranslatorId) (mutable : Bool) : Value × World E :=
  w.addCell { ty, mutable, backing := .aggregateProperty b parent translator }

def newField (w : World E) (ty : Ty) (b : Binding E) : Value × World E :=
  w.addCell { ty, mutable := true, backing := .field b }

/-- A value that shares the backing of `v`; it starts as not translated. -/
def shallowView (w : World E) (v : Value) : Value × World E :=
  w.addCell { w.cell v with translated := none }

end World

/-- An aggregate with a new space below `parent`, in which it is bound to its own name. -/
def newAggregate {E : Type} (ty : Ty) (parent : SpaceId) (p : Payload) :
    Step E (Value × SpaceId) := do
  let space ← Step.newSpace (some parent)
  let v ← Step.change fun w =>
    w.addCell { ty, mutable := true, backing := .aggregate p space }
  let _ ← Step.bindName space selfName v
  return (v, space)

end ScriptValues
