import Planroom.Json.Basic
import Planroom.Json.Tree

/-!
# From syntax to values

A syntax tree stands for a value unless one of three limits is passed. What it gives here is the value
as written: the members of an object are those of the text, in the order of the text and with the
repeated ones.

* **Depth** — at most 127 containers inside one another.
* **Surrogates** — every escaped UTF-16 surrogate belongs to a pair.
* **Range** — every number lies among the finite binary64 numbers.
-/

namespace Planroom.Json

/-- The characters of a string literal. Two units are one character if they are a pair of
surrogates, the high one first; half a pair makes the whole literal stand for nothing. -/
def decodePieces : List Piece → Option (List Char)
  | [] => some []
  | .char c :: rest => (decodePieces rest).map (c :: ·)
  | .unit high :: .unit low :: rest =>
    if 0xD800 ≤ high ∧ high < 0xDC00 then
      if 0xDC00 ≤ low ∧ low < 0xE000 then
        (decodePieces rest).map
          (Char.ofNat (0x10000 + (high - 0xD800) * 0x400 + (low - 0xDC00)) :: ·)
      else none
    -- Two units in a row that are no surrogates are two characters: the second one is looked at
    -- again.
    else if 0xDC00 ≤ high ∧ high < 0xE000 then none
    else (decodePieces (.unit low :: rest)).map (Char.ofNat high :: ·)
  | .unit code :: rest =>
    if 0xD800 ≤ code ∧ code < 0xE000 then none
    else (decodePieces rest).map (Char.ofNat code :: ·)

/-- The text of a string literal, if it stands for one. Whether it does is not asked before the
whole document has been read, so half a pair is not a fault of the syntax. -/
def decodeString (pieces : List Piece) : Option String :=
  (decodePieces pieces).map String.ofList

/-- Significands are collected up to this bound, the greatest unsigned 64-bit integer. It is also
the greatest integer that is kept as an integer. -/
def maxSignificand : Nat := Nat.pow 2 64 - 1

/-- Extend a significand by digits as long as it stays in bounds; the number of digits taken is the
second component. The first digit that does not fit ends it, even if a later one would. -/
def collect (significand taken : Nat) : List Char → Nat × Nat
  | [] => (significand, taken)
  | c :: cs =>
    let next := significand * 10 + (Text.digitValue? c).getD 0
    if maxSignificand < next then (significand, taken) else collect next (taken + 1) cs

/-- The number that a run of digits stands for. There are only digits in a numeral, so the default
is never used. -/
def digitsValue (ds : List Char) : Nat :=
  (Text.value? ds).getD 0

/-- The integer of a numeral without fraction and exponent, if it is in the 64-bit ranges. Minus
zero is not an integer, since an integer could not keep its sign. -/
def Numeral.integer? (n : Numeral) : Option Int :=
  match n.fraction, n.exponent with
  | none, none =>
    -- The bounds differ: of the negative integers there are half as many.
    let magnitude := digitsValue n.whole
    if n.negative then
      if 0 < magnitude ∧ magnitude ≤ Nat.pow 2 63 then some (-(magnitude : Int)) else none
    else if magnitude ≤ maxSignificand then some magnitude else none
  | _, _ => none

/-- **The binary64 number of a numeral.** The digits that do not fit into the significand count as
zeros before the point and are dropped after it. So a numeral of many digits is read by its leading
ones alone. -/
def Numeral.real? (n : Numeral) : Option Binary64 :=
  let whole := collect 0 0 n.whole
  let dropped := n.whole.length - whole.2
  let all := collect whole.1 0 (n.fraction.getD [])
  let written : Int := match n.exponent with
    | some (true, ds) => -(digitsValue ds : Int)
    | some (false, ds) => digitsValue ds
    | none => 0
  Binary64.ofDecimal n.negative all.1 ((dropped : Int) - all.2 + written)

/-- The JSON number of a numeral: an integer if it can be one, else a binary64 number. One beyond
the finite numbers has no value, and neither has the document that it stands in. -/
def Numeral.decode (n : Numeral) : Option Number :=
  match n.integer? with
  | some value => some (.int value)
  | none => n.real?.map .real

/-- The number of containers that may stand inside one another. The bound keeps a reader that
recurses from running out of stack. -/
def maxDepth : Nat := 127

mutual

/-- The value as written of a tree in which at most `room` containers may stand inside one another.
A container takes one of them, and a tree that needs more has no value. -/
def Tree.writtenWithin (room : Nat) : Tree → Option Json
  | .null => some .null
  | .bool value => some (.bool value)
  | .number numeral => numeral.decode.map .number
  | .string pieces => (decodeString pieces).map .string
  | .array items =>
    match room with
    | 0 => none
    | room + 1 => (Tree.writtenItems room items).map .array
  | .object members =>
    match room with
    | 0 => none
    | room + 1 => (Tree.writtenMembers room members).map .object

/-- The values as written of the items of an array. -/
def Tree.writtenItems (room : Nat) : List Tree → Option (List Json)
  | [] => some []
  | item :: rest => do
    let value ← Tree.writtenWithin room item
    let values ← Tree.writtenItems room rest
    return value :: values

/-- The names of the members of an object, and their values as written. Nothing is sorted or left
out here: which member wins is for `ofMembers` to say. -/
def Tree.writtenMembers (room : Nat) : List (List Piece × Tree) → Option Members
  | [] => some []
  | (name, item) :: rest => do
    let name ← decodeString name
    let value ← Tree.writtenWithin room item
    let values ← Tree.writtenMembers room rest
    return (name, value) :: values

end

/-- **The value as written of a document's tree.** The counting of depth begins here, for a document
that stands alone as well as for one inside another. -/
def Tree.written (tree : Tree) : Option Json :=
  tree.writtenWithin maxDepth

end Planroom.Json
