import Planroom.CallError
import Planroom.Json.Basic
import Planroom.Text.Cut
import Planroom.Text.Lowercase

/-!
# Replies

* **Identifiers** — a request is identified by a text, a number without a fractional part, or null.
* **Spelling** — the member that carries the protocol version has two names; a reply uses the one
  that the request used.
* **Errors** — every reason why a call failed has a code and a sentence that may be shown to the
  caller. What went wrong inside is never among it: an internal error gets one of two fixed
  sentences, the choice between them depending on whether it is about a lost connection.
-/

namespace Planroom.Rpc

/-- The version of the protocol. -/
def protocolVersion : String := "2.0"

/-- **What identifies a request.** A caller chooses it and gets it back with the reply, as it was.
-/
inductive RequestId where
  | number (value : Json.Number)
  | text (value : String)
  | null
  deriving DecidableEq, Repr

namespace RequestId

/-- Is the number one without a fractional part? It may be written with one, as long as there is
nothing in it. -/
def isIntegral : Json.Number → Bool
  | .int _ => true
  | .real x => x.toInt?.isSome

/-- Read an identifier. Null is one, and it is not the same as having none. -/
def ofJson? : Json → Option RequestId
  | .string s => some (.text s)
  | .number n => if isIntegral n then some (.number n) else none
  | .null => some .null
  | _ => none

/-- An identifier in data. A number is the one that was read, not the text it was written as. -/
def toJson : RequestId → Json
  | .number n => .number n
  | .text s => .string s
  | .null => .null

end RequestId

/-- **The name of the member that carries the version.** Callers use either, and each is answered in
the one it used. -/
inductive Spelling where
  | version
  | jsonrpc
  deriving DecidableEq, Repr

/-- The member's name. -/
def Spelling.name : Spelling → String
  | .version => "version"
  | .jsonrpc => "jsonrpc"

/-! ## Errors -/

/-- **The numbers of the protocol's errors.** -/
inductive Code where
  | parseError
  | invalidRequest
  | methodNotFound
  | invalidParams
  | internalError
  deriving DecidableEq, Repr

/-- The number of a kind of error, as the protocol has it. -/
def Code.value : Code → Int
  | .parseError => -32700
  | .invalidRequest => -32600
  | .methodNotFound => -32601
  | .invalidParams => -32602
  | .internalError => -32603

/-- **An error as it is sent.** What a program should look at is the code; the message is for
people. -/
structure Error where
  code : Code
  message : String
  data : Option Json
  deriving Repr

namespace Error

/-- An error without further data. -/
def plain (code : Code) (message : String) : Error :=
  ⟨code, message, none⟩

/-- An error in data. The data stands between the other two, and is not there at all if there is
none. -/
def toJson (error : Error) : Json :=
  .object ([("code", Json.ofInt error.code.value)] ++
    (match error.data with
      | some data => [("data", data)]
      | none => []) ++
    [("message", .string error.message)])

/-- The words that mark the text of an error as one about a connection. Some of them contain others,
which changes nothing. -/
def connectivityWords : List String :=
  ["database", "connection", "sql", "driver", "network", "timeout", "connection refused",
    "connection reset", "broken pipe", "no such host"]

/-- **Is the text about a lost connection?** Case does not matter, and a word may stand inside
another one. -/
def isConnectivityFailure (text : String) : Bool :=
  connectivityWords.any fun word => Text.containsText word (Text.asciiLower text)

/-- What a caller is told when the storage cannot be reached: that it may help to try again. -/
def temporarilyUnavailable : Error :=
  plain .internalError "Service temporarily unavailable"

/-- What a caller is told when something went wrong inside. What it was is for the log. -/
def internalServerError : Error :=
  plain .internalError "Internal server error"

/-- **What a caller is told about a failure.** A value that is refused, something missing and a
clash are told as they are; of everything else only the family shows. -/
def ofFailure : Failure → Error
  | .invalid reason => plain .invalidParams reason.message
  | .conflict clash => plain .invalidParams clash.message
  | .unauthorized _ | .forbidden _ => plain .internalError "Unauthorized access"
  | .timeout => plain .internalError "Operation timeout"
  | .canceled => plain .internalError "Operation canceled"
  | .unavailable _ => temporarilyUnavailable
  | .internal text =>
    if isConnectivityFailure text then temporarilyUnavailable else internalServerError
  | failure => plain .invalidParams failure.message

/-- **What a caller is told about a call that failed.** The text of the first three is made for the
caller, and is not prefixed as in the log. -/
def ofCallError : CallError → Error
  | .invalidRequest text => plain .invalidRequest text
  | .methodNotFound text => plain .methodNotFound text
  | .invalidParams text => plain .invalidParams text
  | .failed failure => ofFailure failure

end Error

/-! ## Replies -/

/-- **What came of a request.** -/
inductive Outcome where
  | result (value : Json)
  | error (error : Error)
  deriving Repr

/-- **A reply to one request.** It has a result or an error, and never both. -/
structure Response where
  spelling : Spelling
  id : RequestId
  outcome : Outcome
  deriving Repr

namespace Response

/-- The reply to a request that succeeded. -/
def success (spelling : Spelling) (id : RequestId) (value : Json) : Response :=
  ⟨spelling, id, .result value⟩

/-- The reply to a request that failed. -/
def failure (spelling : Spelling) (id : RequestId) (error : Error) : Response :=
  ⟨spelling, id, .error error⟩

/-- The reply to a text that has no value. Nothing of the text is known, so there is no identifier
to give back. -/
def parseError : Response :=
  failure .version .null (.plain .parseError "Parse error")

/-- The reply to a value that is not a request. The detail says which rule it breaks, the first one
if there are several. -/
def invalidRequest (spelling : Spelling) (id : RequestId) (detail : String) : Response :=
  failure spelling id
    ⟨.invalidRequest, "Invalid Request", some (.object [("detail", .string detail)])⟩

/-- The reply to a request whose handler died. Its identifier died with it. -/
def died : Response :=
  failure .version .null .internalServerError

/-- Does the reply carry an error? Everything that is not an error is a result, null included. -/
def isError (response : Response) : Bool :=
  match response.outcome with
  | .error _ => true
  | .result _ => false

/-- A reply in data. The version stands under the name that the request used for it. -/
def toJson (response : Response) : Json :=
  .object [
    (response.spelling.name, .string protocolVersion),
    ("id", response.id.toJson),
    match response.outcome with
    | .result value => ("result", value)
    | .error error => ("error", error.toJson)]

end Response

end Planroom.Rpc
