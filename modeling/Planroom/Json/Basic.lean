import Planroom.Number.Binary64

/-!
# JSON values

* **Numbers** — an integer of the 64-bit ranges is kept as an integer, everything else as a binary64
  number.
* **Objects** — a list of members, printed in the order of the list. `Json.ofMembers` builds the
  object that a reader makes of the members it meets: in ascending order of their names, the last
  one of each name.
-/

namespace Planroom

/-- A JSON number: an integer between `-2 ^ 63` and `2 ^ 64 - 1`, or a binary64 number. What is
written as an integer and is out of both ranges is the binary64 number nearest to it. -/
inductive Json.Number where
  | int (value : Int)
  | real (value : Binary64)
  deriving DecidableEq, Repr, Inhabited

/-- **A JSON value.** -/
inductive Json where
  | null
  | bool (value : Bool)
  | number (value : Json.Number)
  | string (value : String)
  | array (items : List Json)
  | object (members : List (String × Json))
  deriving Repr, Inhabited

namespace Json

/-- The members of an object, in order. -/
abbrev Members := List (String × Json)

/-- Put a member in its place among members in ascending order of name, in place of one with the
same name. So a name that is repeated has the value that comes last. -/
def insertMember (name : String) (value : Json) : Members → Members
  | [] => [(name, value)]
  | (other, old) :: rest =>
    if name < other then (name, value) :: (other, old) :: rest
    else if name = other then (name, value) :: rest
    else (other, old) :: insertMember name value rest

/-- Members in ascending order of name, the last one of each name. -/
def sortMembers (members : Members) : Members :=
  members.foldl (fun sorted member => insertMember member.1 member.2 sorted) []

/-- **The object that a reader makes of a run of members.** Their order in the text is lost, and so
is all but the last one of each name; who needs either must look at the text. -/
def ofMembers (members : Members) : Json :=
  .object (sortMembers members)

/-- The integer as a JSON number. -/
def ofInt (n : Int) : Json :=
  .number (.int n)

/-- The natural number as a JSON number. -/
def ofNat (n : Nat) : Json :=
  .number (.int n)

/-- The text, or null. -/
def ofString? : Option String → Json
  | some s => .string s
  | none => .null

/-- The value under a name, the first one if there are several. In an object that a reader has made
there is at most one. -/
def lookup (name : String) (members : Members) : Option Json :=
  (members.find? fun member => member.1 == name).map (·.2)

/-- The value that an object has under a name. What is not an object has none, and that is no error
here. -/
def get? (name : String) : Json → Option Json
  | .object members => lookup name members
  | _ => none

/-- The text, of a string. -/
def text? : Json → Option String
  | .string s => some s
  | _ => none

/-- The integer, of a number that is written as one and fits the signed 64-bit range. `2.0` is an
integer for the tools, but not for the fields of a form. -/
def int64? : Json → Option Int
  | .number (.int n) => if n < Nat.pow 2 63 then some n else none
  | _ => none

/-- Is it the null value? -/
def isNull : Json → Bool
  | .null => true
  | _ => false

/-- A value that counts as given: neither absent nor null. Most readers do not tell the two apart,
and those that do look at the members themselves. -/
def given : Option Json → Option Json
  | some .null => none
  | value => value

end Json

end Planroom
