import Planroom.Json.Token

/-!
# JSON syntax trees

What the syntax alone says of a document: its nesting, with every string and number as written and
every member of an object in its place, repeated ones included.

The reader keeps the containers that are still open on a stack and takes one token at a time, so
that no depth of nesting is too much for it.
-/

namespace Planroom.Json

/-- **The syntax of a JSON value.** It keeps what a value loses: the order of members, members that
are repeated, and how strings and numbers are written. -/
inductive Tree where
  | null
  | bool (value : Bool)
  | number (numeral : Numeral)
  | string (pieces : List Piece)
  | array (items : List Tree)
  | object (members : List (List Piece × Tree))
  deriving Repr, Inhabited

namespace Tree

/-- A container that is still open: what it holds so far, the latest first. An open object has the
name of the member that is being read. -/
inductive Frame where
  | array (items : List Tree)
  | object (members : List (List Piece × Tree)) (name : List Piece)

/-- What may come next. After a comma there must be a value or a name, which is why an empty
container and one after its comma are different states. -/
inductive Expect where
  /-- A value must come. -/
  | value
  /-- A value, or the end of an array that has just been opened. -/
  | firstItem
  /-- A member's name, or the end of an object that has just been opened. -/
  | firstName
  /-- A member's name, after these members. -/
  | name (members : List (List Piece × Tree))
  /-- The colon after a member's name. -/
  | colon (members : List (List Piece × Tree)) (name : List Piece)
  /-- A comma, or the end of the array with these items. -/
  | afterItem (items : List Tree)
  /-- A comma, or the end of the object with these members. -/
  | afterMember (members : List (List Piece × Tree))

/-- What is to be done with a value that is complete: it ends the reading, or it goes into the
innermost open container. -/
def place (value : Tree) : List Frame → Option (Expect × List Frame)
  | [] => none
  | .array items :: stack => some (.afterItem (value :: items), stack)
  | .object members name :: stack => some (.afterMember ((name, value) :: members), stack)

/-- The value of a token that is one on its own. -/
def ofToken? : Token → Option Tree
  | .null => some .null
  | .bool value => some (.bool value)
  | .number numeral => some (.number numeral)
  | .string pieces => some (.string pieces)
  | _ => none

/-- One step of the reader. -/
inductive Step where
  /-- A value is complete. -/
  | complete (value : Tree) (stack : List Frame)
  /-- More is to come. -/
  | more (expect : Expect) (stack : List Frame)
  /-- The token cannot stand here. -/
  | fault

/-- Take a token where a value is expected. -/
def stepValue (stack : List Frame) (token : Token) : Step :=
  match token with
  | .openArray => .more .firstItem stack
  | .openObject => .more .firstName stack
  | _ => match ofToken? token with
    | some value => .complete value stack
    | none => .fault

/-- Take one token. Every state allows a few tokens, and all others are a fault where they stand. -/
def step (stack : List Frame) : Expect → Token → Step
  | .value, token => stepValue stack token
  | .firstItem, .closeArray => .complete (.array []) stack
  | .firstItem, token => stepValue (.array [] :: stack) token
  | .firstName, .closeObject => .complete (.object []) stack
  | .firstName, .string name => .more (.colon [] name) stack
  | .name members, .string name => .more (.colon members name) stack
  | .colon members name, .colon => .more .value (.object members name :: stack)
  | .afterItem items, .comma => .more .value (.array items :: stack)
  | .afterItem items, .closeArray => .complete (.array items.reverse) stack
  | .afterMember members, .comma => .more (.name members) stack
  | .afterMember members, .closeObject => .complete (.object members.reverse) stack
  | _, _ => .fault

/-- Read on until the outermost value is complete. Every token is taken once, so this is a recursion
on the run of tokens and not on the depth of nesting. -/
def readFrom (stack : List Frame) (expect : Expect) : List Token → Option (Tree × List Token)
  | [] => none
  | token :: rest =>
    match step stack expect token with
    | .fault => none
    | .more expect stack => readFrom stack expect rest
    | .complete value stack =>
      match place value stack with
      | none => some (value, rest)
      | some (expect, stack) => readFrom stack expect rest

/-- **The value at the front of a run of tokens**, and the tokens after it, which may be faulty. -/
def takeValue (tokens : List Token) : Option (Tree × List Token) :=
  readFrom [] .value tokens

/-- **The syntax of a whole document**: one value and nothing after it but spaces. -/
def parse (text : List Char) : Option Tree :=
  let tokens := Json.tokens text
  match takeValue tokens.list with
  | some (value, []) => if tokens.clean then some value else none
  | _ => none

end Tree

end Planroom.Json
