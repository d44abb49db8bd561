import Planroom.CallError
import Planroom.Json.Basic
import Planroom.Text.Blank
import Planroom.Text.Decimal

/-!
# Connecting

A client that connects offers a version of the protocol and says who it is. It is answered with the
version that will be spoken and with what the server has to offer.
-/

namespace Planroom.Server

/-- **A version of the protocol** that the server speaks. Which of them is spoken changes nothing
but the answer to a client that connects. -/
inductive Version where
  | baseline
  | latest
  deriving DecidableEq, Repr

namespace Version

/-- The date by which the version is known. -/
def date : Version → String
  | .baseline => "2025-03-26"
  | .latest => "2025-06-18"

/-- The version with the given date, if the server speaks it. Nothing is said of dates in between.
-/
def ofDate? (s : String) : Option Version :=
  [Version.baseline, .latest].find? (·.date == s)

/-- Is the text a date: four, two and two digits with hyphens between them? Whether there is such a
day is not asked. -/
def isDate (s : String) : Bool :=
  match s.toList with
  | [a, b, c, d, h, e, f, i, g, j] =>
    [a, b, c, d, e, f, g, j].all Text.isDigit && h == '-' && i == '-'
  | _ => false

/-- **The version that a client offers**, which is the one that will be spoken. One that the server
does not speak is refused: it offers none of its own instead. -/
def negotiate (params : Option Json) : Except CallError Version :=
  let offered := ((params.bind (Json.get? "protocolVersion")).bind Json.text?).map Text.trim
  match offered.filter fun s => !s.isEmpty with
  | none => .error (.invalidParams "initialize params.protocolVersion is required")
  | some s =>
    if !isDate s then .error (.invalidParams "protocolVersion must use the YYYY-MM-DD format")
    else match ofDate? s with
      | some version => .ok version
      | none => .error (.invalidRequest ("Unsupported protocol version: " ++ s))

end Version

/-- Does a value have a text that is not blank under this name? What is no object has none. -/
def hasText (name : String) (value : Json) : Bool :=
  match value.get? name with
  | some (.string s) => !Text.isBlankText s
  | _ => false

/-- **Who the client is**: its name and its version must be given. They are not kept. -/
def checkClientInfo (params : Option Json) : Except CallError Unit :=
  match params.bind (Json.get? "clientInfo") with
  | none => .error (.invalidParams "initialize params.clientInfo is required")
  | some info =>
    if !hasText "name" info then
      .error (.invalidParams "clientInfo.name must be a non-empty string")
    else if !hasText "version" info then
      .error (.invalidParams "clientInfo.version must be a non-empty string")
    else .ok ()

/-- A capability whose list does not change while the server runs. -/
def fixedList : Json := .object [("listChanged", .bool false)]

/-- **What the server has to offer.** Tools and prompts are named only if there are any; resources
always are, since the collections are there from the beginning. -/
def capabilities (hasTools hasPrompts : Bool) : Json :=
  .object (
    (if hasPrompts then [("prompts", fixedList)] else []) ++
    [("resources", fixedList)] ++
    (if hasTools then [("tools", fixedList)] else []))

/-- The version of the server, which has nothing to do with that of the protocol. -/
def release : String := "0.3.0"

/-- The name of the server. -/
def serverInfo : Json :=
  .object [
    ("name", .string "spexus mcp"),
    ("title", .string "Spexus MCP"),
    ("version", .string release)]

/-- The answer to a client that connects. The instructions are there even if they are empty. -/
def greeting (version : Version) (hasPrompts : Bool) (instructions : String) : Json :=
  .object [
    ("capabilities", capabilities true hasPrompts),
    ("instructions", .string instructions),
    ("protocolVersion", .string version.date),
    ("serverInfo", serverInfo)]

end Planroom.Server
