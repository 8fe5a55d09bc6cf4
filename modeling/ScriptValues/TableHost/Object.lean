import ScriptValues.Host.Encapsulation

/-! An embedding program whose host objects are tables of payloads. -/

namespace ScriptValues

/-- A host object that is `foreign` keeps its entries out of reach of every accessor. -/
structure HostObject where
  className : String
  foreign : Bool
  entries : Table Payload
  deriving Inhabited

/-- Where an accessor finds its entry and what it lets through: `expects` names the only kind of
payload that may be written. -/
structure EntryAccess where
  key : String
  expects : Option String
  readOnly : Bool
  access : Access

structure HostClass where
  ty : Ty
  fields : Table EntryAccess
  properties : Table EntryAccess

inductive TranslatorRule where
  | byClass
  | absent
  | failing
  | fixed (v : Value)
  | wrapping (ty : Ty)

inductive RoutineBody where
  | sum
  | count
  | receiver
  | failing
  | throughScope
  | argument (i : Nat)
  | constant (v : Value)
  | double
  | second
  | self

/-- The state of the embedding program. `kindName` is what its host objects are called in refusals,
`translatorCalls` counts the calls of translators, and `asked` lists the arguments that a recording
call context was asked for. -/
structure Outside where
  kindName : String
  hosts : Heap HostObject
  classes : Table HostClass
  translators : Heap TranslatorRule
  routines : List (Nat × RoutineBody)
  translatorCalls : Nat
  asked : List Nat

namespace Outside

def initial (kindName : String) (classes : Table HostClass) : Outside :=
  ⟨kindName, Heap.empty, classes, Heap.empty, [], 0, []⟩

def host? (o : Outside) (h : HostId) : Option HostObject := o.hosts.get? h.index

def addHost (o : Outside) (object : HostObject) : HostId × Outside :=
  (⟨o.hosts.size⟩, { o with hosts := o.hosts.push object })

/-- Writes an entry directly, past any accessor. -/
def setEntry (o : Outside) (h : HostId) (key : String) (p : Payload) : Outside :=
  match o.host? h with
  | none => o
  | some object =>
      let changed := { object with entries := object.entries.insert key p }
      { o with hosts := o.hosts.write h.index changed }

def addTranslator (o : Outside) (t : TranslatorRule) : TranslatorId × Outside :=
  (⟨o.translators.size⟩, { o with translators := o.translators.push t })

end Outside

def tableHosts (kindName : String) : HostKind Outside HostObject where
  name := kindName
  find h o := (o.host? h).filter fun object => !object.foreign
  store h object o := { o with hosts := o.hosts.write h.index object }

namespace EntryAccess

def read (e : EntryAccess) (object : HostObject) : Payload :=
  (object.entries.get? e.key).getD .null

def write (e : EntryAccess) (object : HostObject) (p : Payload) : Except Refusal HostObject :=
  let stored := { object with entries := object.entries.insert e.key p }
  if e.readOnly then .error .notSettable
  else
    match e.expects with
    | none => .ok stored
    | some kind =>
        if kind = p.kindName then .ok stored else .error (.typeMismatch kind p.kindName)

def accessor (e : EntryAccess) (kindName : String) : Accessor Outside :=
  (tableHosts kindName).accessor e.access e.read e.write

end EntryAccess

def HostClass.schema (c : HostClass) (kindName : String) : Schema Outside where
  field? name := (c.fields.get? name).map (·.accessor kindName)
  property? name := (c.properties.get? name).map (·.accessor kindName)

end ScriptValues
