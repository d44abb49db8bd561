import Planroom.Artifact.Vocabulary
import Planroom.Json.Basic
import Planroom.Text.Cut

/-!
# Redaction

Nothing that is held under a sensitive name is ever logged: its whole value is replaced by a mark.
Everything else keeps its place.
-/

namespace Planroom.Audit

/-- Names that are sensitive as they stand. A longer name is not sensitive because it begins like
one of them. -/
def sensitiveNames : List String := ["authorization", "bearer", "api_key", "apikey"]

/-- Words that make every name they stand in sensitive, wherever in it they stand. -/
def sensitiveWords : List String := ["token", "secret", "password", "credential"]

/-- **Is what is held under this name sensitive?** The value is never asked, only the name that it
is held under. -/
def isSensitiveKey (name : String) : Bool :=
  let key := nameKey name
  sensitiveNames.contains key || sensitiveWords.any fun word => Text.containsText word key

/-- What stands in place of a sensitive value. It is the same for all of them, so it does not tell
how long the value was. -/
def mark : Json := .string "[REDACTED]"

mutual

/-- **A value without what is sensitive in it.** Names stay, and so does the order of members and
items. -/
def redact : Json → Json
  | .object members => .object (redactMembers members)
  | .array items => .array (redactItems items)
  | value => value

/-- The members of an object without what is sensitive in them. Under a sensitive name nothing is
looked at any more. -/
def redactMembers : List (String × Json) → List (String × Json)
  | [] => []
  | (name, value) :: rest =>
    (name, if isSensitiveKey name then mark else redact value) :: redactMembers rest

/-- The items of an array without what is sensitive in them. -/
def redactItems : List Json → List Json
  | [] => []
  | item :: rest => redact item :: redactItems rest

end

/-- The parameters of a call as they are logged. Parameters that are not there are logged as null.
-/
def redactParams : Option Json → Json
  | some params => redact params
  | none => .null

end Planroom.Audit
