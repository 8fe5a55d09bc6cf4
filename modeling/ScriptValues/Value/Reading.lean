import ScriptValues.World.Basic
import ScriptValues.Payload.Text

/-! What values show: their payload, their text, and whether they are empty.

Lists, sets and maps are read through their items. A walk through the items is bounded by the number
of cells, which no chain of values within values can exceed unless a value contains itself; such
a value has no payload, and its walk is cut off. -/

namespace ScriptValues

namespace World

variable {E : Type}

def payloadWithin (w : World E) : Nat → Value → Payload
  | 0, _ => .null
  | bound + 1, v =>
      match w.backing v with
      | .absent => .null
      | .basic p | .aggregate p _ => p
      | .property b | .aggregateProperty b _ _ => b.read w.outside
      | .field b => b.readAlways w.outside
      | .list l => .list ((w.list l).items.map (w.payloadWithin bound))
      | .set s => .set ((w.set s).items.map (w.payloadWithin bound))
      | .map m =>
          .map ((w.map m).entries.map fun entry =>
            (w.payloadWithin bound entry.1, w.payloadWithin bound entry.2))
      | .enum none => .null
      | .enum (some v) => .variant v
      | .function none => .null
      | .function (some c) => .callable c
      | .prototype p => .prototype p

/-- One more than the longest chain of distinct values. -/
def walkBound (w : World E) : Nat := w.cells.size + 1

def payload (w : World E) (v : Value) : Payload := w.payloadWithin w.walkBound v

def contents (w : World E) (v : Value) : List Value :=
  match w.backing v with
  | .list l => (w.list l).items
  | .set s => (w.set s).items
  | .map m => (w.map m).entries.flatMap fun entry => [entry.1, entry.2]
  | _ => []

def readsWithin (w : World E) (c : Container) : Nat → Value → Bool
  | 0, _ => false
  | bound + 1, v =>
      (w.backing v).container? == some c || (w.contents v).any (w.readsWithin c bound)

/-- Whether the container is read on the way to the payload of a value. -/
def reads (w : World E) (c : Container) (v : Value) : Bool := w.readsWithin c w.walkBound v

def textWithin (w : World E) : Nat → Value → String
  | 0, _ => "none"
  | bound + 1, v =>
      match w.backing v with
      | .list l => listText ((w.list l).items.map (w.textWithin bound))
      | .set s => setText ((w.set s).items.map (w.textWithin bound))
      | .map m =>
          listText ((w.map m).entries.map fun entry =>
            entryText (w.textWithin bound entry.1) (w.textWithin bound entry.2))
      | .absent => "none"
      | .aggregate _ _ | .aggregateProperty _ _ _ => (w.ty v).text
      | _ => (w.payload v).text

/-- A value as a script prints it; aggregates are shown by their type. -/
def text (w : World E) (v : Value) : String := w.textWithin w.walkBound v

def debugText (w : World E) (v : Value) : String :=
  debugRecord "Value"
    [("kind", (w.family v).name), ("ty", (w.ty v).debugText),
      ("mutable", toString (w.cell v).mutable), ("dirty", toString (w.cell v).dirty)]

/-- An aggregate is empty when it has no payload and, apart from itself, binds functions only. -/
def isEmpty (w : World E) (v : Value) : Bool :=
  match w.backing v with
  | .absent => true
  | .aggregate p space =>
      p.isNull && (w.arena.bindings space).rows.all fun row =>
        row.1 == selfName || w.family row.2 == .function
  | .list l => (w.list l).items.isEmpty
  | .set s => (w.set s).items.isEmpty
  | .map m => (w.map m).entries.isEmpty
  | .enum v => v.isNone
  | .function c => c.isNone
  | .prototype _ => false
  | _ => (w.payload v).isNull

def variant? (w : World E) (v : Value) : Option Variant :=
  match w.backing v with
  | .enum v => v
  | _ => none

def callable? (w : World E) (v : Value) : Option Callable :=
  match w.backing v with
  | .function c => c
  | _ => none

def prototype? (w : World E) (v : Value) : Option Prototype :=
  match w.backing v with
  | .prototype p => some p
  | _ => none

def binding? (w : World E) (v : Value) : Option (Binding E) :=
  match w.backing v with
  | .property b | .aggregateProperty b _ _ | .field b => some b
  | _ => none

def list? (w : World E) (v : Value) : Option ListId :=
  match w.backing v with
  | .list l => some l
  | _ => none

def set? (w : World E) (v : Value) : Option SetId :=
  match w.backing v with
  | .set s => some s
  | _ => none

def map? (w : World E) (v : Value) : Option MapId :=
  match w.backing v with
  | .map m => some m
  | _ => none

end World

end ScriptValues
