import ScriptValues.Collection.Basic
import ScriptValues.World.Embedding

/-! Calls of function values, and the methods of the collections. -/

namespace ScriptValues

variable {E : Type}

/-- A function that is built in: it needs a receiver and a fixed number of arguments. -/
structure Native (E : Type) where
  name : String
  arity : Nat
  body : Value → List Value → Step E Value

namespace CallContext

/-- Arguments that are evaluated already. There is the absent value beyond the last. -/
def ofValues (values : List Value) : CallContext E :=
  ⟨values.length, fun i => return values.getD i .none⟩

def evaluateAll (context : CallContext E) : Step E (List Value) :=
  (List.range context.argumentCount).mapM context.argument

end CallContext

/-- The count of the arguments is checked before the receiver, and both before any argument is
evaluated. -/
def Native.call (native : Native E) (context : CallContext E) (receiver : Option Value) :
    Step E Value := do
  unless context.argumentCount = native.arity do
    throw (.arityMismatch native.name native.arity context.argumentCount)
  match receiver with
  | none => throw (.missingReceiver native.name)
  | some receiver =>
      let arguments ← context.evaluateAll
      native.body receiver arguments

/-- Lengths are clamped to what an integer holds. -/
def clampedLength (n : Nat) : Int64 := Int64.ofNat (min n (Nat.pow 2 63 - 1))

namespace World

def sizeValue (w : World E) (n : Nat) : Value × World E := w.newInt (clampedLength n)

def itemAt (w : World E) (l : ListId) (position : Value) : Value :=
  match (w.payload position).int? with
  | none => .none
  | some n => if n.toInt < 0 then .none else w.listGet l n.toInt.toNat

end World

def receiverMismatch (expected : String) (found : Ty) : Fault :=
  .incompatibleType expected found.name

def onList (receiver : Value) (body : ListId → Step E Value) : Step E Value := do
  let w ← get
  match w.list? receiver with
  | none => throw (receiverMismatch "list" (w.ty receiver))
  | some l => body l

def onSet (receiver : Value) (body : SetId → Step E Value) : Step E Value := do
  let w ← get
  match w.set? receiver with
  | none => throw (receiverMismatch "set" (w.ty receiver))
  | some s => body s

def onMap (receiver : Value) (body : MapId → Step E Value) : Step E Value := do
  let w ← get
  match w.map? receiver with
  | none => throw (receiverMismatch "map" (w.ty receiver))
  | some m => body m

def Method.run (method : Method) (receiver : Value) (arguments : List Value) : Step E Value :=
  let first := arguments.getD 0 .none
  let second := arguments.getD 1 .none
  match method with
  | .listAdd => onList receiver fun l => .change fun w => (.none, w.listAdd l first)
  | .listSize => onList receiver fun l => .change fun w => w.sizeValue (w.list l).items.length
  | .listGet => onList receiver fun l => .look fun w => w.itemAt l first
  | .listClear => onList receiver fun l => .change fun w => (.none, w.listClear l)
  | .setAdd => onSet receiver fun s => do
      let added ← ScriptValues.setAdd s first
      Step.change fun w => w.newBool added
  | .setSize => onSet receiver fun s => .change fun w => w.sizeValue (w.set s).items.length
  | .setContains => onSet receiver fun s => .change fun w => w.newBool (w.setContains s first)
  | .setClear => onSet receiver fun s => .change fun w => (.none, w.setClear s)
  | .mapAdd => onMap receiver fun m => do
      let added ← ScriptValues.mapAdd m first second
      Step.change fun w => w.newBool added
  | .mapGet => onMap receiver fun m => .look fun w => w.mapGet m first
  | .mapSize => onMap receiver fun m => .change fun w => w.sizeValue (w.map m).entries.length
  | .mapKeys => onMap receiver fun m => .change fun w =>
      w.newListOf (.list (w.map m).key) ((w.map m).entries.map Prod.fst)
  | .mapElements => onMap receiver fun m => .change fun w =>
      w.newListOf (.list (w.map m).element) ((w.map m).entries.map Prod.snd)
  | .mapClear => onMap receiver fun m => .change fun w => (.none, w.mapClear m)

def Method.native (method : Method) : Native E := ⟨method.name, method.arity, method.run⟩

def World.method? (w : World E) (v : Value) (name : String) : Option (Value × World E) :=
  let ty := w.ty v
  (ty.method? name).map fun method =>
    let signature := Ty.methodSignature (ty.key?.getD .noType) (ty.element?.getD .noType) method
    let (callable, w) := w.newCallable (.method method)
    w.newFunction signature (some callable)

/-- Calls what is behind a function value. A value that calls nothing yields the absent value,
without evaluating an argument. -/
def call (embedding : Embedding E) (f : Value) (context : CallContext E)
    (receiver : Option Value) : Step E Value := do
  match (← get).callable? f with
  | none => return .none
  | some callable =>
      match callable.routine with
      | .method method => method.native.call context receiver
      | .external _ => embedding.routine callable.identity context receiver

end ScriptValues
