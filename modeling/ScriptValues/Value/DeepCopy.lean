import ScriptValues.Collection.Basic

/-! Independent copies.

A copy shares no value, container or space with what it was made from; host objects, callables and
templates are not copied. A set or map is filled anew from the copies of its items. -/

namespace ScriptValues

variable {E : Type}

def copyItems (copy : Value → Step E Value) : List Value → SetBox → Step E SetBox
  | [], box => return box
  | item :: rest, box => do
      let item ← copy item
      let w ← get
      copyItems copy rest (box.add item (w.payload item)).2

def copyEntries (copy : Value → Step E Value) : List (Value × Value) → MapBox → Step E MapBox
  | [], box => return box
  | (key, element) :: rest, box => do
      let key ← copy key
      let element ← copy element
      let w ← get
      copyEntries copy rest (box.add key element (w.payload key)).2

/-- Binds a copy of each member but the aggregate itself. -/
def copyMembers (copy : Value → Step E Value) (space : SpaceId) :
    List (String × Value) → Step E Unit
  | [] => return ()
  | (name, v) :: rest => do
      if name = selfName then copyMembers copy space rest
      else
        let v ← copy v
        let _ ← Step.bindName space name v
        copyMembers copy space rest

/-- The copy of an aggregate gets a space chained to where the aggregate was defined. -/
def deepCopyWithin : Nat → Value → Step E Value
  | 0, v => return v
  | bound + 1, v => do
      let w ← get
      let duplicate (b : Backing E) : Step E Value :=
        Step.change fun w => w.addCell { w.cell v with backing := b, translated := none }
      match w.backing v with
      | .absent => return v
      | .aggregate p space =>
          let parent := (w.arena.space? space).bind (·.parent)
          let newSpace ← Step.newSpace parent
          let copy ← duplicate (.aggregate p newSpace)
          let _ ← Step.bindName newSpace selfName copy
          copyMembers (deepCopyWithin bound) newSpace (w.arena.bindings space).rows
          return copy
      | .list l =>
          let items ← (w.list l).items.mapM (deepCopyWithin bound)
          let l ← Step.change fun w' => w'.addList { w.list l with items }
          duplicate (.list l)
      | .set s =>
          let box ← copyItems (deepCopyWithin bound) (w.set s).items (w.set s).cleared
          let s ← Step.change fun w => w.addSet box
          duplicate (.set s)
      | .map m =>
          let box ← copyEntries (deepCopyWithin bound) (w.map m).entries (w.map m).cleared
          let m ← Step.change fun w => w.addMap box
          duplicate (.map m)
      | b => duplicate b

def deepCopy (v : Value) : Step E Value := do
  deepCopyWithin (← get).walkBound v

end ScriptValues
