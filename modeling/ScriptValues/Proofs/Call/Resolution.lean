import ScriptValues.Proofs.Call.Lookup
import ScriptValues.Proofs.World.Lasting

/-! When a method that a value offers can run.

A value offers the methods of its type. They run on it if it is also backed by a container, which the
values of the other families are not, whatever their types: properties, fields, and the plain values
that a payload write puts into a collection of collections. -/

namespace ScriptValues

open Step

variable {E : Type} {embedding : Embedding E}

namespace World

variable {w u x : World E} {v f : Value} {method : Method} {c : Container}

def count (w : World E) : Container → Nat
  | .list l => (w.list l).items.length
  | .set s => (w.set s).items.length
  | .map m => (w.map m).entries.length

end World

end ScriptValues
