import Planroom.Failure

/-!
# Errors of a method call

A method call fails because the request is not one, because there is no such method or tool, because
its parameters are not what the method takes, or because the work itself failed.
-/

namespace Planroom

/-- **Why a method call failed.** The first three are about the call; they carry the text that the
caller is told. The last one is about the work, and what is told of it depends on the failure. -/
inductive CallError where
  | invalidRequest (text : String)
  | methodNotFound (text : String)
  | invalidParams (text : String)
  | failed (failure : Failure)
  deriving DecidableEq, Repr

namespace CallError

/-- The wording of the error, as it is logged. -/
def message : CallError → String
  | .invalidRequest text => "invalid request: " ++ text
  | .methodNotFound text => "method not found: " ++ text
  | .invalidParams text => "invalid params: " ++ text
  | .failed failure => failure.message

/-- Did something go wrong on this side, rather than on the caller's? Such errors are logged as
errors, and the others as warnings. -/
def isInternal : CallError → Bool
  | .failed (.internal _) => true
  | .failed (.unavailable _) => true
  | _ => false

end CallError

end Planroom
