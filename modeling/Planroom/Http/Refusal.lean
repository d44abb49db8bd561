import Planroom.Http.Message
import Planroom.Http.Problem

/-!
# Why a request is not served

A request is refused when what it is made of cannot be read; a request that can be read but not
fulfilled is a problem. A refusal is told in a sentence, a problem in data.
-/

namespace Planroom.Http

/-- **Why a request cannot be read.** -/
inductive Refusal where
  | unreadableCredentials
  | unreadablePath
  | tooLarge
  | unknownMedia
  | malformedBody
  | misshapenBody
  deriving DecidableEq, Repr

namespace Refusal

/-- The status of the answer. -/
def status : Refusal → Nat
  | .unreadableCredentials | .unreadablePath | .malformedBody => 400
  | .tooLarge => 413
  | .unknownMedia => 415
  | .misshapenBody => 422

/-- The sentence in the answer. It is not worded by the routes, which never get to see such a
request. -/
def message : Refusal → String
  | .unreadableCredentials => "the authorization header holds no bearer token"
  | .unreadablePath => "a part of the path cannot be read"
  | .tooLarge => "the body is too large"
  | .unknownMedia => "the content type must be that of a JSON document"
  | .malformedBody => "the body is not a JSON document"
  | .misshapenBody => "the body does not describe what is asked for"

end Refusal

/-- **Why a request is not served.** A refusal comes from whoever reads the request, a problem from
whoever works on it. -/
inductive Fault where
  | refused (cause : Refusal)
  | problem (cause : Problem)
  deriving DecidableEq, Repr

namespace Fault

/-- The fault that a failure of the store is: a problem, since the request has been read by then. -/
def ofFailure (failure : Failure) : Fault :=
  .problem (.ofFailure failure)

/-- **The response to a request that is not served.** From its content it can be seen which of the
two it was. -/
def response : Fault → Response
  | .refused cause => ⟨cause.status, .sentence cause.message⟩
  | .problem cause => ⟨cause.status, .json cause.body⟩

/-- What is logged when the response is made. A refusal is logged like every response, and not
beyond that. -/
def events : Fault → List Audit.Event
  | .refused _ => []
  | .problem cause => cause.events

end Fault

end Planroom.Http
