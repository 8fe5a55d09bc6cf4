/-! Handles: names for the things of a world that have identity and state. -/

namespace ScriptValues

structure Value where
  index : Nat
  deriving DecidableEq

structure SpaceId where
  index : Nat
  deriving DecidableEq

structure ListId where
  index : Nat
  deriving DecidableEq

structure SetId where
  index : Nat
  deriving DecidableEq

structure MapId where
  index : Nat
  deriving DecidableEq

structure TranslatorId where
  index : Nat
  deriving DecidableEq

/-- The value that stands for no value. -/
def Value.none : Value := ⟨0⟩

def Value.noneFunction : Value := ⟨1⟩

/-- The space that is always there and never holds a binding. -/
def SpaceId.empty : SpaceId := ⟨0⟩

/-- An aggregate is bound under this name in its own space. -/
def selfName : String := "this"

end ScriptValues
