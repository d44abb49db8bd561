import Planroom.Json.Document
import Planroom.Rpc.Message
import Planroom.Text.Blank

/-!
# Requests

A request is an object with a version, a method, and possibly an identifier and parameters; other
members are ignored. One without an identifier is a notification.

A message is read twice, by `Request.ofTree`.

* **As a value** — it must stand for an object. The object tells in which spelling a reply is given, and
  which identifier the rejection of the message carries.
* **As written** — the parts of the request are the members that stand in the message itself, each of
  them at most once. A message that is an embedded document has no members of its own.

A message that is not a request is answered by the response that comes with the rejection.
-/

namespace Planroom.Rpc

/-- **A request or a notification.** Only the values are kept, and of the text the spelling of the
version. -/
structure Request where
  id : Option RequestId
  method : String
  params : Option Json
  spelling : Spelling
  deriving Repr

/-- The four members of an envelope. All other names are free for callers to use. -/
inductive EnvelopeMember where
  | version
  | id
  | method
  | params
  deriving DecidableEq, Repr

namespace EnvelopeMember

/-- Which of the four a name stands for. The version has two names, so one of each in a message is
one too many. -/
def ofName? (name : String) : Option EnvelopeMember :=
  match name with
  | "jsonrpc" | "version" => some .version
  | "id" => some .id
  | "method" => some .method
  | "params" => some .params
  | _ => none

end EnvelopeMember

namespace Request

/-- Is the request a notification? One with the identifier null is not, and is answered. -/
def isNotification (request : Request) : Bool :=
  request.id.isNone

/-- The members of an object. What is no object has none. -/
def membersOf : Json → Json.Members
  | .object members => members
  | _ => []

/-- **Is one of the envelope's members there twice?** In the value of a message this can no longer
be seen, so the members are those of the text. -/
def repeatsMember (written : Json.Members) : Bool :=
  !(decide (written.filterMap fun member => EnvelopeMember.ofName? member.1).Nodup)

/-- Does a member say nothing, as the word null does for all of them but the identifier? An embedded
document that is null is no such word. -/
def isSilent (name : String) (written : Json) : Bool :=
  written.isNull && EnvelopeMember.ofName? name != some .id

/-- **What the members as written say of a request**: the values of the envelope's members. -/
def statedMembers (written : Json.Members) : Json.Members :=
  written.filterMap fun member =>
    if (EnvelopeMember.ofName? member.1).isNone || isSilent member.1 member.2 then none
    else member.2.expand.map (member.1, ·)

/-- The spelling that a reply to this object uses. With both names there, or neither, it is
`version`. -/
def spellingOf (members : Json.Members) : Spelling :=
  if (Json.lookup "jsonrpc" members).isSome ∧ (Json.lookup "version" members).isNone then .jsonrpc
  else .version

/-- The version member, under whichever of its names. A request has at most one of the two. -/
def versionOf (members : Json.Members) : Option Json :=
  -- At most one of the two is there, so the order does not matter.
  (Json.lookup "jsonrpc" members).or (Json.lookup "version" members)

/-- A method's name: a text that is not blank. It is kept as it stands, blanks at the ends included.
-/
def methodOf (members : Json.Members) : Option String :=
  match Json.lookup "method" members with
  | some (.string s) => if Text.isBlankText s then none else some s
  | _ => none

/-- Parameters: an object or an array, or nothing. The outer `none` refuses. -/
def paramsOf (members : Json.Members) : Option (Option Json) :=
  match Json.lookup "params" members with
  | none => some none
  | some (.object ms) => some (some (.object ms))
  | some (.array items) => some (some (.array items))
  | some _ => none

/-- The identifier, where there is one. The outer `none` refuses; the inner one makes a
notification. -/
def idOf (members : Json.Members) : Option (Option RequestId) :=
  match Json.lookup "id" members with
  | none => some none
  | some value => (RequestId.ofJson? value).map some

/-- The identifier that a rejection of this object carries: its own if that is one, else null. -/
def echoOf (members : Json.Members) : RequestId :=
  ((Json.lookup "id" members).bind RequestId.ofJson?).getD .null

/-- The request with the stated members, or the rejection of the message that stands for an object
with these members. The members are looked at one after another, and the first that is not as it
must be decides. -/
def ofStated (members stated : Json.Members) : Except Response Request :=
  let reject (id : RequestId) (detail : String) : Except Response Request :=
    .error (.invalidRequest (spellingOf members) id detail)
  if (versionOf stated).bind Json.text? ≠ some protocolVersion then
    reject (echoOf members) "jsonrpc version must be \"2.0\""
  -- Where the identifier itself is at fault, there is none to give back.
  else match idOf stated with
    | none => reject .null "id must be a string, an integer or null"
    | some id =>
      match methodOf stated with
      | none => reject (echoOf members) "method must be a non-empty string"
      | some method =>
        match paramsOf stated with
        | none => reject (echoOf members) "params must be an object or an array"
        | some params => .ok ⟨id, method, params, spellingOf members⟩

/-- Read a message from its value as written. Members that are repeated are noticed before any of
them is looked at. -/
def ofWritten (written : Json) : Except Response Request :=
  match written.expand with
  | none => .error .parseError
  | some (.object members) =>
    if repeatsMember (membersOf written) then
      .error (.invalidRequest (spellingOf members) (echoOf members) "malformed request envelope")
    else ofStated members (statedMembers (membersOf written))
  | some _ => .error (.invalidRequest .version .null "request must be a JSON object")

/-- **Read one message.** It fails with a reply, so that whoever reads a message always has
something to send. -/
def ofTree (tree : Json.Tree) : Except Response Request :=
  match tree.written with
  | none => .error .parseError
  | some written => ofWritten written

end Request

end Planroom.Rpc
