import ScriptValues.Collection.Basic

/-! Look-ups by hash: a payload is compared with the payloads of its own hash only. -/

namespace ScriptValues

variable {κ : Type} [DecidableEq κ]

def hashRows {α : Type} (hash : Payload → κ) (key : α → Payload) (rows : List α) (p : Payload) :
    List α :=
  rows.filter fun row => hash (key row) == hash p

namespace SetBox

def hashedContains (hash : Payload → κ) (b : SetBox) (p : Payload) : Bool :=
  World.indexed (hashRows hash id b.index p) p

def hashedAdd (hash : Payload → κ) (b : SetBox) (v : Value) (p : Payload) : Bool × SetBox :=
  if b.hashedContains hash p then (false, b)
  else (true, { b with items := b.items ++ [v], index := b.index ++ [p] })

def fill (add : SetBox → Value → Payload → Bool × SetBox) (b : SetBox)
    (rows : List (Value × Payload)) : SetBox :=
  rows.foldl (fun b row => (add b row.1 row.2).2) b

end SetBox

namespace MapBox

def hashedPosition? (hash : Payload → κ) (b : MapBox) (key : Payload) : Option Nat :=
  ((hashRows hash Prod.fst b.index key).find? fun row => key.same row.1).map Prod.snd

def hashedAdd (hash : Payload → κ) (b : MapBox) (key element : Value) (p : Payload) :
    Bool × MapBox :=
  if (b.hashedPosition? hash p).isSome then (false, b)
  else (true,
    { b with
        entries := b.entries ++ [(key, element)]
        index := b.index ++ [(p, b.entries.length)] })

def fill (add : MapBox → Value → Value → Payload → Bool × MapBox) (b : MapBox)
    (rows : List ((Value × Value) × Payload)) : MapBox :=
  rows.foldl (fun b row => (add b row.1.1 row.1.2 row.2).2) b

end MapBox

end ScriptValues
