import ScriptValues.Proofs.Call.View

/-! The methods that a value offers.

They are looked up by the type of the value alone, each time as a new function value whose type is made
from the key and element types. -/

namespace ScriptValues

variable {E : Type}

namespace Ty

end Ty

namespace World

variable {w u : World E} {v f : Value} {name : String}

end World

end ScriptValues
