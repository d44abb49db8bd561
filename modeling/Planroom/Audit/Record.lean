import Planroom.Artifact.Kind
import Planroom.Audit.Redaction

/-!
# Audit records

Every call of a tool leaves a record: the tool, its redacted arguments, and what the name of the tool
and its arguments tell about the artifact it is about.
-/

namespace Planroom.Audit

/-- **The record of a call.** It is made from the parameters alone, and is the same whether the call
succeeds or not. -/
structure Record where
  toolName : String
  arguments : Json
  resourceKind : Option Kind
  resourceId : Option String
  deriving Repr

namespace Record

/-- The kinds in the order in which they are looked for in a tool's name: a name that two of them
stand in belongs to the first. -/
def kindOrder : List Kind :=
  [.steeringDocument, .acceptanceCriteria, .userStory, .epic, .requirement]

/-- **The kind of artifact that a tool is about**, as far as its name tells. A relationship is about
requirements, and where nothing is found the tool is about none. -/
def kindOfTool (name : String) : Option Kind :=
  match kindOrder.find? fun kind => Text.containsText kind.scheme name with
  | some kind => some kind
  | none => if Text.containsText "relationship" name then some .requirement else none

/-- The text among the arguments that identifies an artifact of the kind: the argument named for it,
else the source of a relationship. The text is not looked up, so it may name nothing. -/
def idOfArguments (kind : Kind) (arguments : Json.Members) : Option String :=
  ((Json.lookup (kind.scheme ++ "_id") arguments).or
    (Json.lookup "source_requirement_id" arguments)).bind Json.text?

/-- The arguments of a call, if they are an object. Without any, null is logged in their place. -/
def argumentsOf (params : Option Json) : Option Json.Members :=
  match params.bind (Json.get? "arguments") with
  | some (.object members) => some members
  | _ => none

/-- **The record of a call with these parameters.** Every call has one, even a call of a tool that
does not exist. -/
def ofParams (params : Option Json) : Record :=
  let toolName := ((params.bind (Json.get? "name")).bind Json.text?).getD ""
  let arguments := argumentsOf params
  let kind := kindOfTool toolName
  { toolName := toolName
    arguments := match arguments with
      | some members => redact (.object members)
      | none => .null
    resourceKind := kind
    resourceId := do idOfArguments (← kind) (← arguments) }

end Record

end Planroom.Audit
