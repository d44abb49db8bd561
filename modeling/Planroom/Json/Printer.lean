import Planroom.Json.Basic
import Planroom.Number.Shortest

/-!
# JSON text

* **Compact** — no space at all.
* **Pretty** — every item and member on a line of its own, two blanks of indent per level, one blank
  after a colon; an empty container keeps its brackets together.

Both write a string with the shortest escapes for the quote, the backslash and the five control
characters that have one, `\u` escapes for the other control characters and every other character as
it is.
-/

namespace Planroom.Json

/-- A hexadecimal digit in lower case, for a number below 16. -/
def hexDigit (n : Nat) : Char :=
  if n < 10 then Char.ofNat (0x30 + n) else Char.ofNat (0x61 + (n - 10))

/-- A character as it stands in a string literal. A slash and what lies beyond ASCII stand for
themselves. -/
def escapeChar (c : Char) : List Char :=
  if c = '"' then ['\\', '"']
  else if c = '\\' then ['\\', '\\']
  else if c = '\x08' then ['\\', 'b']
  else if c = '\x0c' then ['\\', 'f']
  else if c = '\n' then ['\\', 'n']
  else if c = '\r' then ['\\', 'r']
  else if c = '\t' then ['\\', 't']
  else if c.toNat < 0x20 then
    ['\\', 'u', '0', '0', hexDigit (c.toNat / 16), hexDigit (c.toNat % 16)]
  else [c]

/-- A string literal that stands for the string. -/
def quote (s : String) : List Char :=
  '"' :: s.toList.flatMap escapeChar ++ ['"']

/-- The text of a number: an integer in decimal, and of a binary64 number the shortest text that
reads as the same number. -/
def Number.text : Number → String
  | .int n => Text.signedDecimal n
  | .real x => Shortest.text x

mutual

/-- The compact text of a value. -/
def compactChars : Json → List Char
  | .null => ['n', 'u', 'l', 'l']
  | .bool true => ['t', 'r', 'u', 'e']
  | .bool false => ['f', 'a', 'l', 's', 'e']
  | .number n => n.text.toList
  | .string s => quote s
  | .array [] => ['[', ']']
  | .array (item :: items) => '[' :: compactChars item ++ compactItems items
  | .object [] => ['\x7b', '\x7d']
  | .object ((name, value) :: members) =>
    '\x7b' :: quote name ++ ':' :: compactChars value ++ compactMembers members

/-- The further items of an array and its closing bracket. -/
def compactItems : List Json → List Char
  | [] => [']']
  | item :: items => ',' :: compactChars item ++ compactItems items

/-- The further members of an object and its closing bracket. -/
def compactMembers : List (String × Json) → List Char
  | [] => ['\x7d']
  | (name, value) :: members =>
    ',' :: quote name ++ ':' :: compactChars value ++ compactMembers members

end

/-- A new line at the given level, with two blanks for each of them. -/
def newLine (level : Nat) : List Char :=
  '\n' :: List.replicate (2 * level) ' '

mutual

/-- The pretty text of a value at the given level. -/
def prettyChars (level : Nat) : Json → List Char
  | .array (item :: items) =>
    '[' :: newLine (level + 1) ++ prettyChars (level + 1) item ++ prettyItems level items
  | .object ((name, value) :: members) =>
    '\x7b' :: newLine (level + 1) ++ quote name ++ ':' :: ' ' :: prettyChars (level + 1) value ++
      prettyMembers level members
  | .null => ['n', 'u', 'l', 'l']
  | .bool true => ['t', 'r', 'u', 'e']
  | .bool false => ['f', 'a', 'l', 's', 'e']
  | .number n => n.text.toList
  | .string s => quote s
  | .array [] => ['[', ']']
  | .object [] => ['\x7b', '\x7d']

/-- The further items of an array at the given level and its closing bracket. -/
def prettyItems (level : Nat) : List Json → List Char
  | [] => newLine level ++ [']']
  | item :: items =>
    ',' :: newLine (level + 1) ++ prettyChars (level + 1) item ++ prettyItems level items

/-- The further members of an object at the given level and its closing bracket. -/
def prettyMembers (level : Nat) : List (String × Json) → List Char
  | [] => newLine level ++ ['\x7d']
  | (name, value) :: members =>
    ',' :: newLine (level + 1) ++ quote name ++ ':' :: ' ' :: prettyChars (level + 1) value ++
      prettyMembers level members

end

/-- **Compact text.** It is what goes over the wire, and what has no line break in it. -/
def compact (value : Json) : String :=
  String.ofList (compactChars value)

/-- **Pretty text.** It is for people, and for the texts that a tool hands back to be read. -/
def pretty (value : Json) : String :=
  String.ofList (prettyChars 0 value)

end Planroom.Json
