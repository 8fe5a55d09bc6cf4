import ScriptValues.World.Step

/-! What the embedding program supplies to a script: arguments, translators and routines. -/

namespace ScriptValues

/-- The arguments of a call, each evaluated when it is asked for. -/
structure CallContext (E : Type) where
  argumentCount : Nat
  argument : Nat → Step E Value

/-- What the embedding program brings along: its translators, which turn the payload of a host entry
into a value whose space is chained to a given parent, and its routines, by the identity of
the callable. A routine is called with a receiver if the script named one. -/
structure Embedding (E : Type) where
  translate : TranslatorId → Payload → SpaceId → Step E Value
  routine : Nat → CallContext E → Option Value → Step E Value

end ScriptValues
