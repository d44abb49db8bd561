import Planroom.Audit.Record
import Planroom.Context
import Planroom.Rpc.Message

/-!
# Log events

What the program logs about the work it does: the life of a request, the audit of a call, what
happened to inline anchors, and failures that a caller is not told about.

Nothing in an event comes from under a sensitive name: the events that carry parameters are made by
functions that redact them.
-/

namespace Planroom.Audit

/-- **How important an event is.** -/
inductive Level where
  | debug
  | info
  | warn
  | error
  deriving DecidableEq, Repr

/-- How the level is written. -/
def Level.name : Level → String
  | .debug => "DEBUG"
  | .info => "INFO"
  | .warn => "WARN"
  | .error => "ERROR"

/-- Under whose name a request is logged. The name is an identifier, or says that the caller is not
known. -/
structure Caller where
  correlationId : String
  user : String
  deriving DecidableEq, Repr

/-- The caller of a request. -/
def Caller.ofContext (context : Context) : Caller :=
  ⟨context.correlationId, context.userLabel⟩

/-- **Something worth logging.** Each carries what it logs already in the form in which that may be
seen. -/
inductive Event where
  | received (caller : Caller) (method : String) (id : Option Rpc.RequestId) (params : Json)
  | completed (caller : Caller) (method : String) (elapsed : Span)
  | failed (caller : Caller) (method : String) (elapsed : Span) (error : String)
  | rejected (caller : Caller) (method : String) (elapsed : Span) (error : String)
  | audited (caller : Caller) (record : Record) (succeeded : Bool)
  | slow (caller : Caller) (method : String) (elapsed threshold : Span)
  | answered (correlationId method path : String) (status : Nat) (elapsed : Span)
  | unauthenticated (correlationId method path : String)
  | unauthorized (correlationId method path : String)
  | anchorMoved (comment : Uuid) (old new : Nat)
  | anchorHidden (comment : Uuid)
  | anchorRestored (comment : Uuid)
  | internalError (error : String)
  | storageError (error : String)
  deriving Repr

namespace Event

/-- The level of an event. What a caller did wrong is a warning; errors are for what somebody has to
look after. -/
def level : Event → Level
  | .received .. | .anchorMoved .. | .anchorHidden .. | .anchorRestored .. => .debug
  | .completed .. | .audited .. | .answered .. => .info
  | .rejected .. | .slow .. | .unauthenticated .. | .unauthorized .. => .warn
  | .failed .. | .internalError .. | .storageError .. => .error

/-- The sentence of an event. It is fixed: all that varies is in the fields. -/
def message : Event → String
  | .received .. => "mcp request received"
  | .completed .. => "mcp request completed"
  | .failed .. => "mcp request failed"
  | .rejected .. => "mcp request rejected"
  | .audited .. => "mcp action audited"
  | .slow .. => "slow operation"
  | .answered .. => "request summary"
  | .unauthenticated .. => "authentication failure"
  | .unauthorized .. => "authorization failure"
  | .anchorMoved .. => "inline anchor moved"
  | .anchorHidden .. => "inline anchor hidden"
  | .anchorRestored .. => "inline anchor restored"
  | .internalError .. => "request failed with internal error"
  | .storageError .. => "request failed with storage error"

/-- How the outcome of a call is written. Why a call failed is in the fields of another event. -/
def outcomeName (succeeded : Bool) : String :=
  if succeeded then "success" else "failure"

/-- A length of time as it is logged: its milliseconds, as a text. -/
def spanJson (span : Span) : Json :=
  .string (Text.decimal span)

/-- The fields that tell whose request an event is about. All events of one request agree in them.
-/
def callerFields (caller : Caller) : Json.Members :=
  [("correlation_id", .string caller.correlationId), ("user_id", .string caller.user)]

/-- The fields that tell which exchange an event is about. They are known before it is known who is
asking. -/
def exchangeFields (correlationId method path : String) : Json.Members :=
  [("correlation_id", .string correlationId), ("method", .string method), ("path", .string path)]

/-- The fields of an event. Where something is not known, the field is there all the same and says
so. -/
def fields : Event → Json.Members
  | .received caller method id params =>
    callerFields caller ++ [
      ("rpc_method", .string method),
      ("rpc_id", match id with
        | some id => id.toJson
        | none => .null),
      ("params", params)]
  | .completed caller method elapsed =>
    callerFields caller ++ [("rpc_method", .string method), ("duration_ms", spanJson elapsed),
      ("outcome", .string (outcomeName true))]
  | .failed caller method elapsed error | .rejected caller method elapsed error =>
    callerFields caller ++ [("rpc_method", .string method), ("duration_ms", spanJson elapsed),
      ("outcome", .string (outcomeName false)), ("error", .string error)]
  | .audited caller record succeeded =>
    callerFields caller ++ [
      ("tool_name", .string record.toolName),
      ("arguments", record.arguments),
      ("resource_kind", .string (match record.resourceKind with
        | some kind => kind.scheme
        | none => "none")),
      ("resource_id", .string (record.resourceId.getD "none")),
      ("outcome", .string (outcomeName succeeded))]
  | .slow caller method elapsed threshold =>
    callerFields caller ++ [("rpc_method", .string method), ("duration_ms", spanJson elapsed),
      ("threshold_ms", spanJson threshold)]
  | .answered correlationId method path status elapsed =>
    exchangeFields correlationId method path ++
      [("status", .ofNat status), ("duration_ms", spanJson elapsed)]
  | .unauthenticated correlationId method path | .unauthorized correlationId method path =>
    exchangeFields correlationId method path
  | .anchorMoved comment old new =>
    [("comment_id", .string comment.text), ("from", .ofNat old), ("to", .ofNat new)]
  | .anchorHidden comment | .anchorRestored comment => [("comment_id", .string comment.text)]
  | .internalError error | .storageError error => [("error", .string error)]

/-- **A request has come in.** Its parameters are redacted here. -/
def ofRequest (context : Context) (method : String) (id : Option Rpc.RequestId)
    (params : Option Json) : Event :=
  .received (.ofContext context) method id (redactParams params)

/-- **A request has been worked off.** What was returned is not logged, only that it was. -/
def ofOutcome (context : Context) (method : String) (elapsed : Span) :
    Except CallError Unit → Event
  | .ok () => .completed (.ofContext context) method elapsed
  | .error error =>
    if error.isInternal then .failed (.ofContext context) method elapsed error.message
    else .rejected (.ofContext context) method elapsed error.message

/-- **A call of a tool has been worked off.** Its arguments are redacted by the record. -/
def ofCall (context : Context) (params : Option Json) (succeeded : Bool) : Event :=
  .audited (.ofContext context) (.ofParams params) succeeded

end Event

end Planroom.Audit
