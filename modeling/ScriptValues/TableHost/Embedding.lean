import ScriptValues.TableHost.Object
import ScriptValues.Call.Native

/-! Translators and routines of the embedding program with table hosts. -/

namespace ScriptValues

namespace TableHost

def countCall : Step Outside Unit :=
  Step.change fun w =>
    ((), { w with outside := { w.outside with translatorCalls := w.outside.translatorCalls + 1 } })

def classOf? (o : Outside) : Payload → Option (HostId × HostClass)
  | .host h => do
      let object ← o.host? h
      if object.foreign then none
      else return (h, ← o.classes.get? object.className)
  | _ => none

/-- Translates with translators of their own kind for the fields that are met on the way. Each such
field lives one scope deeper, so `bound` need not exceed the greatest depth. -/
def translateWithin : Nat → TranslatorId → Payload → SpaceId → Step Outside Value
  | 0, _, _, _ => throw .unknownSpace
  | bound + 1, translator, p, parent => do
      countCall
      let o := (← get).outside
      match o.translators.get? translator.index with
      | none | some .absent => return .none
      | some .failing => throw .unknownSpace
      | some (.fixed v) => return v
      | some (.wrapping ty) => return (← newAggregate ty parent p).1
      | some .byClass =>
          match classOf? o p with
          | none => return .none
          | some (h, c) =>
              let inner : Embedding Outside := ⟨translateWithin bound, fun _ _ _ => return .none⟩
              encapsulate inner h c.ty (c.schema o.kindName) translator parent

def translate (translator : TranslatorId) (p : Payload) (parent : SpaceId) :
    Step Outside Value := do
  translateWithin ((← get).arena.maxDepth + 2) translator p parent

def intOf (w : World Outside) (v : Value) : Int64 := ((w.payload v).int?).getD 0

def sumOf (w : World Outside) (values : List Value) : Int64 :=
  values.foldl (fun total v => total + intOf w v) 0

def native? (member : Value → String → Step Outside Value) : RoutineBody → Option (Native Outside)
  | .double => some ⟨"double", 0, fun receiver _ =>
      Step.change fun w => w.newInt (2 * intOf w receiver)⟩
  | .second => some ⟨"second", 2, fun _ arguments => return arguments.getD 1 .none⟩
  | .self => some ⟨"self", 0, fun receiver _ => member receiver selfName⟩
  | _ => none

def throughScope (v : Value) : Step Outside Value := do
  let space ← Step.changeArena fun a => a.allocate none 0
  let _ ← Step.bindName space "x" v
  Step.look fun w => (w.arena.lookup space "x").getD .none

def runBody (context : CallContext Outside) (receiver : Option Value) :
    RoutineBody → Step Outside Value
  | .sum => do
      let values ← context.evaluateAll
      Step.change fun w => w.newInt (sumOf w values)
  | .count => Step.change fun w => w.newInt (clampedLength context.argumentCount)
  | .receiver => return receiver.getD .none
  | .failing => throw .unknownSpace
  | .throughScope => do throughScope (← context.argument 0)
  | .argument i => context.argument i
  | .constant v => return v
  | .double | .second | .self => return .none

def translators : Embedding Outside := ⟨translate, fun _ _ _ => return .none⟩

def routine (identity : Nat) (context : CallContext Outside) (receiver : Option Value) :
    Step Outside Value := do
  match (← get).outside.routines.lookup identity with
  | none => return .none
  | some body =>
      match native? (member translators) body with
      | some native => native.call context receiver
      | none => runBody context receiver body

def embedding : Embedding Outside := ⟨translate, routine⟩

/-- A call context that records which arguments are asked for; an argument that is missing from
`values` fails. -/
def recordingContext (values : List (Option Value)) : CallContext Outside where
  argumentCount := values.length
  argument i := do
    modify fun w => { w with outside := { w.outside with asked := w.outside.asked ++ [i] } }
    match values[i]? with
    | none => return .none
    | some none => throw .unknownSpace
    | some (some v) => return v

def routineName : RoutineBody → String
  | .sum => "sum"
  | .count => "count"
  | .receiver => "receiver"
  | .failing => "fail"
  | .throughScope => "local"
  | .argument _ => "arg"
  | .constant _ => "const"
  | .double => "double"
  | .second => "second"
  | .self => "self"

def newRoutine (w : World Outside) (body : RoutineBody) : Callable × World Outside :=
  let (callable, w) := w.newCallable (.external (routineName body))
  (callable, { w with
    outside := { w.outside with routines := (callable.identity, body) :: w.outside.routines } })

end TableHost

end ScriptValues
