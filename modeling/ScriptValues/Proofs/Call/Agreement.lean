import ScriptValues.Proofs.Call.Lookup
import ScriptValues.Proofs.World.Lasting

/-! Calls of methods agree with the views of the collections.

A function value that was looked up as a method does to each receiver of its family what the view of
the receiver's container does, and nothing else. It does not matter on which value it was looked up. -/

namespace ScriptValues

variable {E : Type} {embedding : Embedding E}

namespace World

variable {w x : World E} {v f receiver answer : Value} {method : Method} {c : Container}

end World

end ScriptValues
