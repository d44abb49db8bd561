import Planroom.Artifact.Anchor
import Planroom.Http.Refusal
import Planroom.Json.Decode

/-!
# Comment forms

What the body of a request says of a comment that is to be made: an object with a content, and maybe
a parent and a selection. The body is read from its front to its back, and the first fault that is
met decides how it is refused.

* **Malformed** — a fault of syntax, a text with a lone surrogate, a number that is out of range, or
  too much nesting.
* **Misshapen** — a value that is not of the type it should be. A content or a parent of the wrong
  type, and a second one of either, are met where they stand; the members of the selection, and a
  content that is missing, at the end of the object.
-/

namespace Planroom.Http

/-- **What a caller says of a comment.** What it is about is in the path of the request, and not
here. -/
structure CommentForm where
  content : String
  parent : Option Uuid
  selection : Selection
  deriving DecidableEq, Repr

namespace CommentForm

open Json (Token Tree)

/-- The refusal of a token that begins a value of the wrong type. It is read far enough to see that
it is a value: a number out of range is none. -/
def mismatch : Token → Refusal
  | .closeArray | .closeObject | .comma | .colon => .malformedBody
  | .number numeral => if numeral.decode.isSome then .misshapenBody else .malformedBody
  | .string pieces =>
    if (Json.decodeString pieces).isSome then .misshapenBody else .malformedBody
  | .openArray | .openObject | .null | .bool _ => .misshapenBody

/-- The refusal of tokens at whose front something else should stand. Where there are no more, the
text ends too early. -/
def mismatchAt : List Token → Refusal
  | [] => .malformedBody
  | token :: _ => mismatch token

/-- The members that have been read so far. The selection is put together at the end, so its members
are kept as they are. -/
structure Draft where
  content : Option String
  parent : Option (Option Uuid)
  others : Json.Members

/-- No members. -/
def Draft.empty : Draft := ⟨none, none, []⟩

/-- The member of this name, of which there may be one. Null counts as none, but it counts as one of
two. -/
def single (name : String) (members : Json.Members) : Except Refusal (Option Json) :=
  match members.filter (·.1 == name) with
  | [] => .ok none
  | [member] => .ok (Json.given (some member.2))
  | _ => .error .misshapenBody

/-- An optional text among the members. Null is the same as leaving it out. -/
def textMember (name : String) (members : Json.Members) : Except Refusal (Option String) := do
  match ← single name members with
  | none => return none
  | some (.string s) => return some s
  | some _ => throw .misshapenBody

/-- An optional integer among the members. Unlike an argument of a tool it must be written as one.
-/
def integerMember (name : String) (members : Json.Members) : Except Refusal (Option Int) := do
  match ← single name members with
  | none => return none
  | some value =>
    match value.int64? with
    | some n => return some n
    | none => throw .misshapenBody

/-- The selection among the members. -/
def selectionOf (members : Json.Members) : Except Refusal Selection := do
  return ⟨← textMember "linked_text" members, ← integerMember "text_position_start" members,
    ← integerMember "text_position_end" members⟩

/-- The form, when the object is at its end. That the content is missing is noticed before anything
that is wrong with the selection. -/
def Draft.finish (draft : Draft) : Except Refusal CommentForm :=
  match draft.content with
  | none => .error .misshapenBody
  | some content => do
    return ⟨content, draft.parent.getD none, ← selectionOf draft.others.reverse⟩

/-- Take the content, which is a text. Null is none: a comment must have a content. -/
def takeContent : List Token → Except Refusal (String × List Token)
  | .string pieces :: rest =>
    match Json.decodeString pieces with
    | some s => .ok (s, rest)
    | none => .error .malformedBody
  | tokens => .error (mismatchAt tokens)

/-- Take the parent, which is the text of an identifier, or null. The text may be in any of the four
forms. -/
def takeParent : List Token → Except Refusal (Option Uuid × List Token)
  | .null :: rest => .ok (none, rest)
  | .string pieces :: rest =>
    match Json.decodeString pieces with
    | none => .error .malformedBody
    | some s =>
      match Uuid.parse? s with
      | some id => .ok (some id, rest)
      | none => .error .misshapenBody
  | tokens => .error (mismatchAt tokens)

/-- Take any value. It stands inside one container already, so there is room for one less. -/
def takeOther (tokens : List Token) : Except Refusal (Json × List Token) :=
  match Tree.takeValue tokens with
  | none => .error .malformedBody
  | some (tree, rest) =>
    match tree.writtenWithin (Json.maxDepth - 1) with
    | some value => .ok (value, rest)
    | none => .error .malformedBody

/-- Take the colon after a name. That it is missing is a fault of syntax, whatever the name is. -/
def takeColon : List Token → Except Refusal (List Token)
  | .colon :: rest => .ok rest
  | _ => .error .malformedBody

/-- **Take what follows the name of a member**, its colon and its value. A name that is there for
the second time is refused before its value is read. -/
def takeMember (draft : Draft) (name : String) (tokens : List Token) :
    Except Refusal (Draft × List Token) := do
  if name = "content" then
    -- A second content is refused before anything of it is read.
    if draft.content.isSome then throw .misshapenBody
    let (content, rest) ← takeContent (← takeColon tokens)
    return ({ draft with content := some content }, rest)
  else if name = "parent_id" then
    if draft.parent.isSome then throw .misshapenBody
    let (parent, rest) ← takeParent (← takeColon tokens)
    return ({ draft with parent := some parent }, rest)
  else
    let (value, rest) ← takeOther (← takeColon tokens)
    return ({ draft with others := (name, value) :: draft.others }, rest)

/-- Read the members from a name on, up to the end of the object. Every member takes a token, so that
`fuel` may be the number of tokens. -/
def readMembers : Nat → Draft → List Token → Except Refusal (CommentForm × List Token)
  | fuel + 1, draft, .string name :: rest => do
    match Json.decodeString name with
    | none => throw .malformedBody
    | some name =>
      let (draft, rest) ← takeMember draft name rest
      match rest with
      | .comma :: rest => readMembers fuel draft rest
      | .closeObject :: rest => return (← draft.finish, rest)
      | _ => throw .malformedBody
  | _, _, _ => .error .malformedBody

/-- Read the object. There is no other type of value that a form could be. -/
def readObject : List Token → Except Refusal (CommentForm × List Token)
  | .openObject :: .closeObject :: rest => do return (← Draft.empty.finish, rest)
  | .openObject :: rest => readMembers rest.length .empty rest
  | tokens => .error (mismatchAt tokens)

/-- **The form in a body.** What follows the object is read last, so a form that is complete may
still be malformed. -/
def read (body : ByteArray) : Except Refusal CommentForm :=
  match String.fromUTF8? body with
  | none => .error .malformedBody
  | some text => do
    let tokens := Json.tokens text.toList
    let (form, rest) ← readObject tokens.list
    if rest.isEmpty && tokens.clean then return form else throw .malformedBody

end CommentForm

end Planroom.Http
