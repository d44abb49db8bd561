import Planroom.Http.Message
import Planroom.Uuid

/-!
# Correlation ids

The id under which a request is logged and which its response repeats: the one that the caller gives,
if it is short and has only visible ASCII characters, or else a fresh one.
-/

namespace Planroom.Http

/-- The greatest length of an id that a caller gives, lest anybody fill the log with it. -/
def maxCorrelationLength : Nat := 128

/-- May a caller give this id? A blank is not visible, so no id has one in it. -/
def isCorrelationId (s : String) : Bool :=
  !s.isEmpty && s.length ≤ maxCorrelationLength && s.toList.all fun c => '!' ≤ c && c ≤ '~'

/-- **The correlation id of a request.** One that a caller may not give is passed over, and is no
reason to refuse the request. -/
def correlationId (fresh : Uuid) (request : Request) : String :=
  ((request.header? "x-correlation-id").filter isCorrelationId).getD fresh.text

end Planroom.Http
