import ScriptValues.Scope.Arena
import ScriptValues.Host.Accessor

/-! The world of a running script: all values, their containers, the spaces and the outside state.

A value is a handle to a cell. Views and copies make new cells; cells are never removed, and a
handle that was never handed out reads as the absent value. -/

namespace ScriptValues

/-- What stands behind a value. Lists, sets and maps may be shared between cells. -/
inductive Backing (E : Type) where
  | absent
  | basic (payload : Payload)
  | aggregate (payload : Payload) (space : SpaceId)
  | property (binding : Binding E)
  | aggregateProperty (binding : Binding E) (parent : SpaceId) (translator : TranslatorId)
  | field (binding : Binding E)
  | list (list : ListId)
  | set (set : SetId)
  | map (map : MapId)
  | enum (variant : Option Variant)
  | function (callable : Option Callable)
  | prototype (prototype : Prototype)

inductive Family where
  | absent
  | basic
  | aggregate
  | property
  | aggregateProperty
  | field
  | list
  | set
  | map
  | enum
  | function
  | prototype
  deriving DecidableEq

namespace Family

def name : Family → String
  | absent => "None"
  | basic => "Basic"
  | aggregate => "Aggregate"
  | property => "Property"
  | aggregateProperty => "AggregateProperty"
  | field => "EncapsulatedField"
  | list => "List"
  | set => "Set"
  | map => "Map"
  | enum => "Enum"
  | function => "Function"
  | prototype => "Prototype"

end Family

def Backing.family {E : Type} : Backing E → Family
  | absent => .absent
  | basic _ => .basic
  | aggregate _ _ => .aggregate
  | property _ => .property
  | aggregateProperty _ _ _ => .aggregateProperty
  | field _ => .field
  | list _ => .list
  | set _ => .set
  | map _ => .map
  | enum _ => .enum
  | function _ => .function
  | prototype _ => .prototype

inductive Container where
  | list (list : ListId)
  | set (set : SetId)
  | map (map : MapId)
  deriving DecidableEq

def Backing.container? {E : Type} : Backing E → Option Container
  | list l => some (.list l)
  | set s => some (.set s)
  | map m => some (.map m)
  | _ => none

/-- `dirty` records that a payload was written; `translated` is the space that an aggregate property
was last translated into. -/
structure Cell (E : Type) where
  ty : Ty
  mutable : Bool
  backing : Backing E
  dirty : Bool := false
  translated : Option SpaceId := none

instance {E : Type} : Inhabited (Cell E) := ⟨⟨.noType, false, .absent, false, none⟩⟩

structure ListBox where
  element : Ty
  items : List Value
  deriving Inhabited

/-- `index` holds the payloads under which the items were added. -/
structure SetBox where
  element : Ty
  items : List Value
  index : List Payload
  deriving Inhabited

/-- `index` leads from the payload under which a key was added to the position of its entry. -/
structure MapBox where
  key : Ty
  element : Ty
  entries : List (Value × Value)
  index : List (Payload × Nat)
  deriving Inhabited

structure World (E : Type) where
  cells : Heap (Cell E)
  lists : Heap ListBox
  sets : Heap SetBox
  maps : Heap MapBox
  templates : Heap (Table Value)
  arena : Arena
  nextIdentity : Nat
  outside : E

namespace World

variable {E : Type}

def initial (maxDepth : Nat) (outside : E) : World E where
  cells := (Heap.empty.push ⟨.noType, false, .absent, false, none⟩).push
    ⟨.noType, false, .function none, false, none⟩
  lists := Heap.empty
  sets := Heap.empty
  maps := Heap.empty
  templates := Heap.empty
  arena := Arena.initial maxDepth
  nextIdentity := 0
  outside := outside

def cell (w : World E) (v : Value) : Cell E := w.cells.read v.index

def list (w : World E) (l : ListId) : ListBox := w.lists.read l.index

def set (w : World E) (s : SetId) : SetBox := w.sets.read s.index

def map (w : World E) (m : MapId) : MapBox := w.maps.read m.index

def template (w : World E) (t : TemplateId) : Table Value := w.templates.read t.index

def ty (w : World E) (v : Value) : Ty := (w.cell v).ty

def backing (w : World E) (v : Value) : Backing E := (w.cell v).backing

def family (w : World E) (v : Value) : Family := (w.backing v).family

def isAbsent (w : World E) (v : Value) : Bool := w.family v == .absent

theorem cell_of_new {w : World E} {v : Value} (new : w.cells.size ≤ v.index) : w.cell v = default :=
  Heap.read_beyond w.cells new

theorem backing_of_new {w : World E} {v : Value} (new : w.cells.size ≤ v.index) :
    w.backing v = .absent :=
  congrArg Cell.backing (cell_of_new new)

theorem translated_of_new {w : World E} {v : Value} (new : w.cells.size ≤ v.index) :
    (w.cell v).translated = none :=
  congrArg Cell.translated (cell_of_new new)

theorem present_of_backing {w : World E} {v : Value} (held : w.backing v ≠ .absent) :
    v.index < w.cells.size :=
  Nat.lt_of_not_le fun new => held (backing_of_new new)

def addCell (w : World E) (c : Cell E) : Value × World E :=
  (⟨w.cells.size⟩, { w with cells := w.cells.push c })

def writeCell (w : World E) (v : Value) (c : Cell E) : World E :=
  { w with cells := w.cells.write v.index c }

def setBacking (w : World E) (v : Value) (b : Backing E) : World E :=
  w.writeCell v { w.cell v with backing := b }

def setDirty (w : World E) (v : Value) : World E :=
  w.writeCell v { w.cell v with dirty := true }

def setTranslated (w : World E) (v : Value) (space : Option SpaceId) : World E :=
  w.writeCell v { w.cell v with translated := space }

def addList (w : World E) (b : ListBox) : ListId × World E :=
  (⟨w.lists.size⟩, { w with lists := w.lists.push b })

def writeList (w : World E) (l : ListId) (b : ListBox) : World E :=
  { w with lists := w.lists.write l.index b }

def addSet (w : World E) (b : SetBox) : SetId × World E :=
  (⟨w.sets.size⟩, { w with sets := w.sets.push b })

def writeSet (w : World E) (s : SetId) (b : SetBox) : World E :=
  { w with sets := w.sets.write s.index b }

def addMap (w : World E) (b : MapBox) : MapId × World E :=
  (⟨w.maps.size⟩, { w with maps := w.maps.push b })

def writeMap (w : World E) (m : MapId) (b : MapBox) : World E :=
  { w with maps := w.maps.write m.index b }

def addTemplate (w : World E) : TemplateId × World E :=
  (⟨w.templates.size⟩, { w with templates := w.templates.push Table.empty })

def writeTemplate (w : World E) (t : TemplateId) (defaults : Table Value) : World E :=
  { w with templates := w.templates.write t.index defaults }

def withArena (w : World E) (a : Arena) : World E := { w with arena := a }

def freshIdentity (w : World E) : Nat × World E :=
  (w.nextIdentity, { w with nextIdentity := w.nextIdentity + 1 })

end World

end ScriptValues
