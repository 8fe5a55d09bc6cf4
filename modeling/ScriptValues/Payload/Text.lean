import ScriptValues.Payload.Basic
import ScriptValues.Number.Text
import ScriptValues.Ty.Text

/-! Payloads as text: as scripts print them, and as debug output shows them. -/

namespace ScriptValues

namespace Prototype

def name (p : Prototype) : String := (p.internal.getD p.ty).name

end Prototype

namespace Graph

def text (g : Graph) : String := toString g.nodes.length ++ " nodes"

end Graph

def listText (items : List String) : String := enclosed "[" items "]"

def setText (items : List String) : String := enclosed "<" items ">"

def entryText (key element : String) : String := key ++ " -> " ++ element

namespace Payload

mutual

def text : Payload → String
  | null => "none"
  | bool b => if b then "true" else "false"
  | int n => toString n.toInt
  | float x => x.text scriptNumber
  | string s => s
  | graph g => enclosed "graph(" [g.text] ")"
  | variant v => v.text
  | callable c => c.name
  | prototype p => p.name
  | host _ => "<host object>"
  | list items => listText (texts items)
  | set items => setText (texts items)
  | map entries => listText (entryTexts entries)

def texts : List Payload → List String
  | [] => []
  | p :: rest => p.text :: texts rest

def entryTexts : List (Payload × Payload) → List String
  | [] => []
  | (key, element) :: rest => entryText key.text element.text :: entryTexts rest

end

mutual

def debugText : Payload → String
  | null => "Null"
  | bool b => enclosed "Bool(" [if b then "true" else "false"] ")"
  | int n => enclosed "Int(" [toString n.toInt] ")"
  | float x => enclosed "Float(" [x.text debugNumber] ")"
  | string s => enclosed "Str(" [quoted s] ")"
  | graph g => enclosed "Graph(" [g.text] ")"
  | variant v => enclosed "Variant(" [v.text] ")"
  | callable c => enclosed "Callable(" [c.name] ")"
  | prototype p => enclosed "Prototype(" [p.name] ")"
  | host _ => "HostObject"
  | list items => enclosed "List([" (debugTexts items) "])"
  | set items => enclosed "Set([" (debugTexts items) "])"
  | map entries => enclosed "Map([" (debugEntries entries) "])"

def debugTexts : List Payload → List String
  | [] => []
  | p :: rest => p.debugText :: debugTexts rest

def debugEntries : List (Payload × Payload) → List String
  | [] => []
  | (key, element) :: rest =>
      enclosed "(" [key.debugText, element.debugText] ")" :: debugEntries rest

end

mutual

def mentionsHost : Payload → Bool
  | host _ => true
  | list items => anyMentionsHost items
  | set items => anyMentionsHost items
  | map entries => entryMentionsHost entries
  | _ => false

def anyMentionsHost : List Payload → Bool
  | [] => false
  | p :: rest => p.mentionsHost || anyMentionsHost rest

def entryMentionsHost : List (Payload × Payload) → Bool
  | [] => false
  | (key, element) :: rest =>
      key.mentionsHost || element.mentionsHost || entryMentionsHost rest

end

/-- Debug text shows no identities, so a payload that mentions a host object has none. -/
def debugText? (p : Payload) : Option String :=
  if p.mentionsHost then none else some p.debugText

end Payload

end ScriptValues
