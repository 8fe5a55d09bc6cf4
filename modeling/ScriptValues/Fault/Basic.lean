import ScriptValues.Ty.Text

/-! What can go wrong, and what is said about it. -/

namespace ScriptValues

/-- Causes for which an operation on values or scopes fails. The last one is never reported: where a
container is read while it is written to, the program panics. -/
inductive Fault where
  | notMutable (ty : String)
  | incompatibleType (expected found : String)
  | payloadMismatch (ty payload : String)
  | notAggregate (ty : String)
  | scopeDepthExceeded (depth maxDepth : Nat)
  | unknownSpace
  | arityMismatch (name : String) (expected found : Nat)
  | missingReceiver (name : String)
  | alreadyBorrowed
  deriving DecidableEq

inductive Refusal where
  | notSettable
  | typeMismatch (expected found : String)
  deriving DecidableEq

namespace Fault

def message : Fault → String
  | notMutable ty => "cannot write to immutable value of type `" ++ ty ++ "`"
  | incompatibleType expected found =>
      "incompatible types: expected `" ++ expected ++ "`, found `" ++ found ++ "`"
  | payloadMismatch ty payload =>
      "a " ++ payload ++ " payload cannot be stored in a value of type `" ++ ty ++ "`"
  | notAggregate ty => "value of type `" ++ ty ++ "` does not own a member space"
  | scopeDepthExceeded depth maxDepth =>
      "scope depth " ++ toString depth ++ " exceeds maximum of " ++ toString maxDepth
  | unknownSpace => "memory space does not exist (it was freed or never allocated)"
  | arityMismatch name expected found =>
      "`" ++ name ++ "` expects " ++ toString expected ++ " argument(s), got " ++ toString found
  | missingReceiver name => "method `" ++ name ++ "` called without a receiver"
  | alreadyBorrowed => "already mutably borrowed"

/-- A panic has no code. -/
def code? : Fault → Option String
  | notMutable _ => some "dsl::value::not_mutable"
  | incompatibleType _ _ => some "dsl::value::incompatible_type"
  | payloadMismatch _ _ => some "dsl::value::payload_mismatch"
  | notAggregate _ => some "dsl::value::not_aggregate"
  | scopeDepthExceeded _ _ => some "dsl::memory::scope_depth"
  | unknownSpace => some "dsl::memory::unknown_space"
  | arityMismatch _ _ _ => some "dsl::call::arity"
  | missingReceiver _ => some "dsl::call::missing_receiver"
  | alreadyBorrowed => none

def help? : Fault → Option String
  | scopeDepthExceeded _ _ => some "this usually means unbounded recursion in a DSL function"
  | _ => none

def name : Fault → String
  | notMutable _ => "NotMutable"
  | incompatibleType _ _ => "IncompatibleType"
  | payloadMismatch _ _ => "PayloadMismatch"
  | notAggregate _ => "NotAggregate"
  | scopeDepthExceeded _ _ => "ScopeDepthExceeded"
  | unknownSpace => "UnknownSpace"
  | arityMismatch _ _ _ => "ArityMismatch"
  | missingReceiver _ => "MissingReceiver"
  | alreadyBorrowed => "BorrowError"

def debugText (fault : Fault) : String :=
  match fault with
  | notMutable ty | notAggregate ty => debugRecord fault.name [("ty", quoted ty)]
  | incompatibleType expected found =>
      debugRecord fault.name [("expected", quoted expected), ("found", quoted found)]
  | payloadMismatch ty payload =>
      debugRecord fault.name [("ty", quoted ty), ("payload", quoted payload)]
  | scopeDepthExceeded depth maxDepth =>
      debugRecord fault.name [("depth", toString depth), ("max_depth", toString maxDepth)]
  | unknownSpace | alreadyBorrowed => fault.name
  | arityMismatch name expected found =>
      debugRecord fault.name
        [("name", quoted name), ("expected", toString expected), ("found", toString found)]
  | missingReceiver name => debugRecord fault.name [("name", quoted name)]

end Fault

namespace Refusal

def message : Refusal → String
  | notSettable => "property is not settable"
  | typeMismatch expected found =>
      "property write expected " ++ expected ++ ", found " ++ found

def code : Refusal → String
  | notSettable => "dsl::property::not_settable"
  | typeMismatch _ _ => "dsl::property::type_mismatch"

def name : Refusal → String
  | notSettable => "NotSettable"
  | typeMismatch _ _ => "TypeMismatch"

def debugText (refusal : Refusal) : String :=
  match refusal with
  | notSettable => refusal.name
  | typeMismatch expected found =>
      debugRecord refusal.name [("expected", quoted expected), ("found", quoted found)]

end Refusal

end ScriptValues
