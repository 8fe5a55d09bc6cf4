import ScriptValues.Data.Heap
import ScriptValues.Data.Table
import ScriptValues.Fault.Basic
import ScriptValues.Value.Handle

/-! Memory spaces: binding tables that are chained to a parent.

Spaces live in an arena and are addressed by ids that are never reused. A lookup falls through to
the parent and ends at a space that was freed; a write only ever reaches the space it names. -/

namespace ScriptValues

structure Space where
  bindings : Table Value
  parent : Option SpaceId
  depth : Nat

structure Arena where
  slots : Heap (Option Space)
  selfSpace : Option SpaceId
  maxDepth : Nat

namespace Arena

def initial (maxDepth : Nat) : Arena :=
  ⟨Heap.empty.push (some ⟨Table.empty, none, 0⟩), none, maxDepth⟩

def space? (a : Arena) (id : SpaceId) : Option Space := a.slots.read id.index

def contains (a : Arena) (id : SpaceId) : Bool := (a.space? id).isSome

/-- Every id handed out so far, in the order of allocation. -/
def allocated (a : Arena) : List SpaceId := (List.range a.slots.size).map SpaceId.mk

def live (a : Arena) : List SpaceId := a.allocated.filter a.contains

def size (a : Arena) : Nat := a.live.length

def writeSlot (a : Arena) (id : SpaceId) (slot : Option Space) : Arena :=
  { a with slots := a.slots.write id.index slot }

def allocate (a : Arena) (parent : Option SpaceId) (depth : Nat) : SpaceId × Arena :=
  (⟨a.slots.size⟩, { a with slots := a.slots.push (some ⟨Table.empty, parent, depth⟩) })

def newSpace (a : Arena) : Option SpaceId → Except Fault (SpaceId × Arena)
  | none => .ok (a.allocate none 0)
  | some parent =>
      match a.space? parent with
      | none => .error .unknownSpace
      | some above =>
          if above.depth + 1 ≤ a.maxDepth then .ok (a.allocate (some parent) (above.depth + 1))
          else .error (.scopeDepthExceeded (above.depth + 1) a.maxDepth)

/-- The space and its ancestors, nearest first, up to a root or a freed space. A parent is older
than its child, so the walk ends. -/
def chain (a : Arena) (id : SpaceId) : List SpaceId :=
  match a.space? id with
  | none => []
  | some s =>
      match s.parent with
      | none => [id]
      | some parent => if parent.index < id.index then id :: a.chain parent else [id]
termination_by id.index

def lookupLocal (a : Arena) (id : SpaceId) (name : String) : Option Value :=
  (a.space? id).bind (·.bindings.get? name)

def lookup (a : Arena) (id : SpaceId) (name : String) : Option Value :=
  (a.chain id).findSome? (a.lookupLocal · name)

def bindings (a : Arena) (id : SpaceId) : Table Value :=
  match a.space? id with
  | none => Table.empty
  | some s => s.bindings

def writable? (a : Arena) (id : SpaceId) : Option Space :=
  if id = SpaceId.empty then none else a.space? id

/-- Binds a name that the space does not bind yet. -/
def bind (a : Arena) (id : SpaceId) (name : String) (v : Value) : Bool × Arena :=
  match a.writable? id with
  | none => (false, a)
  | some s =>
      if s.bindings.contains name then (false, a)
      else (true, a.writeSlot id (some { s with bindings := s.bindings.insert name v }))

/-- Binds a name, over an earlier binding if there is one. -/
def rebind (a : Arena) (id : SpaceId) (name : String) (v : Value) : Bool × Arena :=
  match a.writable? id with
  | none => (false, a)
  | some s => (true, a.writeSlot id (some { s with bindings := s.bindings.insert name v }))

def unbind (a : Arena) (id : SpaceId) (name : String) : Option Value × Arena :=
  match a.space? id with
  | none => (none, a)
  | some s =>
      (s.bindings.get? name,
        a.writeSlot id (some { s with bindings := s.bindings.erase name }))

/-- Releases one space and leaves its children behind. -/
def free (a : Arena) (id : SpaceId) : Option Space × Arena :=
  match a.writable? id with
  | none => (none, a)
  | some s => (some s, a.writeSlot id none)

/-- Whether the subtree below a space may be released: it is live and not one of the shared ones. -/
def freeable (a : Arena) (id : SpaceId) : Bool :=
  decide (id ≠ SpaceId.empty) && decide (a.selfSpace ≠ some id) && a.contains id

def subtree (a : Arena) (id : SpaceId) : List SpaceId :=
  a.live.filter fun candidate => decide (id ∈ a.chain candidate)

/-- Releases a space with all live spaces chained to it, and counts them. -/
def freeSubtree (a : Arena) (id : SpaceId) : Nat × Arena :=
  if a.freeable id then
    ((a.subtree id).length, (a.subtree id).foldl (fun b doomed => b.writeSlot doomed none) a)
  else (0, a)

/-- The space that values without one of their own share, made when it is not there. -/
def sharedSpace (a : Arena) : SpaceId × Arena :=
  match a.selfSpace.filter a.contains with
  | some id => (id, a)
  | none =>
      let (id, b) := a.allocate none 0
      (id, { b with selfSpace := some id })

/-- Lends the shared space to a value: nothing but the value itself is bound in it then. -/
def lendSharedSpace (a : Arena) (v : Value) : SpaceId × Arena :=
  let (id, b) := a.sharedSpace
  match b.space? id with
  | none => (id, b)
  | some s => (id, b.writeSlot id (some { s with bindings := Table.empty.insert selfName v }))

end Arena

end ScriptValues
