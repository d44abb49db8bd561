import Planroom.Audit.Event
import Planroom.Failure

/-!
# Problems

What a caller of a route is told when it does not succeed: a status, a code and a sentence. The texts
of internal errors and of a storage that cannot be reached go to the log and nowhere else.
-/

namespace Planroom.Http

/-- **Why a route did not succeed.** The last two are not the caller's doing, and nothing but their
family is told. -/
inductive Problem where
  | badRequest (code message : String)
  | unauthorized (code message : String)
  | forbidden (code message : String)
  | notFound (code message : String)
  | conflict (code message : String)
  | unsupportedMediaType
  | unavailable (text : String)
  | internal (code text : String)
  deriving DecidableEq, Repr

namespace Problem

/-- The problem that a failure is. A deadline that has passed is an internal error here, since the
routes have none. -/
def ofFailure : Failure → Problem
  | .invalid reason => .badRequest "validation_failed" reason.message
  | .incompleteSelection =>
    .badRequest "invalid_inline_data" Failure.incompleteSelection.message
  | .positionMismatch => .badRequest "invalid_text_position" Failure.positionMismatch.message
  | .emptySelection => .badRequest "empty_linked_text" Failure.emptySelection.message
  | .parentElsewhere => .badRequest "parent_entity_mismatch" Failure.parentElsewhere.message
  | .notFound subject identifier =>
    .notFound "not_found" (Failure.notFound subject identifier).message
  | .conflict clash => .conflict "conflict" clash.message
  | .unauthorized text => .unauthorized "unauthorized" text
  | .forbidden denial => .forbidden "forbidden" denial.message
  | .unavailable text => .unavailable text
  | .timeout => .internal "internal_error" Failure.timeout.message
  | .canceled => .internal "internal_error" Failure.canceled.message
  | .internal text => .internal "internal_error" (Failure.internal text).message

/-- The wording of a problem on this side of the connection. It is not sent; a caller is told
`publicMessage`. -/
def message : Problem → String
  | .badRequest _ text => "bad request: " ++ text
  | .unauthorized _ text => "unauthorized: " ++ text
  | .forbidden _ text => "forbidden: " ++ text
  | .notFound _ text => "not found: " ++ text
  | .conflict _ text => "conflict: " ++ text
  | .unsupportedMediaType => "unsupported media type"
  | .unavailable _ => "service unavailable"
  | .internal _ _ => "internal error"

/-- The status of the answer, one for each of the cases. -/
def status : Problem → Nat
  | .badRequest _ _ => 400
  | .unauthorized _ _ => 401
  | .forbidden _ _ => 403
  | .notFound _ _ => 404
  | .conflict _ _ => 409
  | .unsupportedMediaType => 415
  | .unavailable _ => 503
  | .internal _ _ => 500

/-- The code in the answer, for programs. Some of the cases have several. -/
def code : Problem → String
  | .badRequest code _ | .unauthorized code _ | .forbidden code _ | .notFound code _
  | .conflict code _ | .internal code _ => code
  | .unsupportedMediaType => "unsupported_media_type"
  | .unavailable _ => "service_unavailable"

/-- The sentence in the answer, for people. The texts of the last two are not among it. -/
def publicMessage : Problem → String
  | .badRequest _ text | .unauthorized _ text | .forbidden _ text | .notFound _ text
  | .conflict _ text => text
  | .unsupportedMediaType => "content type must be application/json"
  | .unavailable _ => "service temporarily unavailable"
  | .internal _ _ => "internal server error"

/-- **The body of the answer.** There are never any details, but clients find the member they look
for. -/
def body (problem : Problem) : Json :=
  .object [
    ("code", .string problem.code),
    ("message", .string problem.publicMessage),
    ("details", .object [])]

/-- What is logged when the answer is made: just what the answer keeps to itself. -/
def events : Problem → List Audit.Event
  | .unavailable text => [.storageError text]
  | .internal _ text => [.internalError text]
  | _ => []

end Problem

end Planroom.Http
