import ScriptValues.Value.Creation
import ScriptValues.Value.Equality
import ScriptValues.World.Step

/-! Lists, sets and maps of values.

A set or map recognises duplicates by payload: an item or key is kept under the payload that it had
when it was added, and the first addition under a payload wins.

Look-ups compare payloads and do not hash them. A hashed index answers the same for payloads that are
hashed alike when they are equal; payloads with repeated items are not, and which of those a hashed
index takes to be there depends on the hashes. -/

namespace ScriptValues

namespace SetBox

/-- Whether the item is a duplicate is decided by comparison, the hash is left out. -/
def add (b : SetBox) (v : Value) (p : Payload) : Bool × SetBox :=
  if World.indexed b.index p then (false, b)
  else (true, { b with items := b.items ++ [v], index := b.index ++ [p] })

def cleared (b : SetBox) : SetBox := { b with items := [], index := [] }

end SetBox

namespace MapBox

/-- The key is found by comparison, its hash is left out. -/
def position? (b : MapBox) (key : Payload) : Option Nat :=
  (b.index.find? fun row => key.same row.1).map Prod.snd

def add (b : MapBox) (key element : Value) (p : Payload) : Bool × MapBox :=
  if (b.position? p).isSome then (false, b)
  else (true,
    { b with
        entries := b.entries ++ [(key, element)]
        index := b.index ++ [(p, b.entries.length)] })

def cleared (b : MapBox) : MapBox := { b with entries := [], index := [] }

end MapBox

namespace World

variable {E : Type}

def listAdd (w : World E) (l : ListId) (v : Value) : World E :=
  w.writeList l { w.list l with items := (w.list l).items ++ [v] }

def listGet (w : World E) (l : ListId) (i : Nat) : Value := (w.list l).items.getD i .none

def listClear (w : World E) (l : ListId) : World E :=
  w.writeList l { w.list l with items := [] }

def setInsert (w : World E) (s : SetId) (v : Value) : Bool × World E :=
  let (added, b) := (w.set s).add v (w.payload v)
  (added, w.writeSet s b)

def setContains (w : World E) (s : SetId) (v : Value) : Bool :=
  indexed (w.set s).index (w.payload v)

def setClear (w : World E) (s : SetId) : World E := w.writeSet s (w.set s).cleared

def mapInsert (w : World E) (m : MapId) (key element : Value) : Bool × World E :=
  let (added, b) := (w.map m).add key element (w.payload key)
  (added, w.writeMap m b)

def mapGet (w : World E) (m : MapId) (key : Value) : Value :=
  (elementAt? (w.map m) (w.payload key)).getD .none

def mapContainsKey (w : World E) (m : MapId) (key : Value) : Bool :=
  ((w.map m).position? (w.payload key)).isSome

def mapClear (w : World E) (m : MapId) : World E := w.writeMap m (w.map m).cleared

def listRefill (w : World E) (l : ListId) (items : List Payload) : World E :=
  let (vs, w) := w.newBasics (w.list l).element items
  w.writeList l { w.list l with items := vs }

def setRefill (w : World E) (s : SetId) (items : List Payload) : World E :=
  items.foldl (fun w p =>
    let (v, w) := w.newBasic (w.set s).element p
    (w.setInsert s v).2) (w.setClear s)

def mapRefill (w : World E) (m : MapId) (entries : List (Payload × Payload)) : World E :=
  entries.foldl (fun w entry =>
    let (key, w) := w.newBasic (w.map m).key entry.1
    let (element, w) := w.newBasic (w.map m).element entry.2
    (w.mapInsert m key element).2) (w.mapClear m)

def newListOf (w : World E) (ty : Ty) (items : List Value) : Value × World E :=
  let (l, w) := w.addList ⟨ty.element?.getD .noType, items⟩
  w.addCell { ty, mutable := true, backing := .list l }

end World

variable {E : Type}

/-- Adds an item to a set, unless one with its payload is there. The payload is read while the set is
written to, so adding what holds the set panics. -/
def setAdd (s : SetId) (v : Value) : Step E Bool := do
  if (← get).reads (.set s) v then throw .alreadyBorrowed
  Step.change fun w => w.setInsert s v

/-- Adds an entry to a map, unless one with the payload of the key is there. The element is not
read. -/
def mapAdd (m : MapId) (key element : Value) : Step E Bool := do
  if (← get).reads (.map m) key then throw .alreadyBorrowed
  Step.change fun w => w.mapInsert m key element

end ScriptValues
