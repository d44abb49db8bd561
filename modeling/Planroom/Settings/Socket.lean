import Planroom.Json.Printer
import Planroom.Json.Token
import Planroom.Text.Cut
import Planroom.Text.Decimal

/-!
# Socket addresses

An IPv4 address in four decimal parts, or an IPv6 address in square brackets, possibly with the number
of its zone, and a port.

* **Read** — decimal parts have no leading zeros. An IPv6 address has eight groups of up to four
  hexadecimal digits, the last two of which may be written as an IPv4 address; one run of zero groups
  may be left out.
* **Written** — in the shortest form: the first of the longest runs of at least two zero groups is
  left out, and an IPv4 address in IPv6 clothes keeps its parts.
-/

namespace Planroom

/-- **An address of a network interface**, as numbers: how it was written is forgotten. -/
inductive Address where
  | v4 (parts : List Nat)
  | v6 (groups : List Nat) (zone : Nat)
  deriving DecidableEq, Repr

namespace Address

/-! ## Reading -/

/-- The value of a digit in the given base, if it is one there. Digits above nine may have either
case. -/
def digit? (base : Nat) (c : Char) : Option Nat :=
  (Json.hexValue? c).filter (· < base)

/-- A run of digits, its value and its length. The length is needed where leading zeros or too many
digits are forbidden. -/
def readDigits (base : Nat) (value count : Nat) : List Char → Nat × Nat × List Char
  | [] => (value, count, [])
  | c :: cs =>
    match digit? base c with
    | some d => readDigits base (value * base + d) (count + 1) cs
    | none => (value, count, c :: cs)

/-- A decimal part of an IPv4 address. A zero in front is refused, for elsewhere it would mean a
part in octal. -/
def readPart (cs : List Char) : Option (Nat × List Char) :=
  let (value, count, rest) := readDigits 10 0 0 cs
  if count = 0 ∨ 3 < count ∨ 255 < value ∨ (cs.head? = some '0' ∧ 1 < count) then none
  else some (value, rest)

/-- A group of an IPv6 address, in which zeros in front are allowed. -/
def readGroup (cs : List Char) : Option (Nat × List Char) :=
  let (value, count, rest) := readDigits 16 0 0 cs
  if count = 0 ∨ 4 < count then none else some (value, rest)

/-- A given character. -/
def readChar (c : Char) : List Char → Option (List Char)
  | [] => none
  | d :: rest => if c = d then some rest else none

/-- The given number of further parts of an IPv4 address, each after a point. -/
def readParts : Nat → List Char → Option (List Nat × List Char)
  | 0, cs => some ([], cs)
  | n + 1, cs => do
    let (part, rest) ← readPart (← readChar '.' cs)
    let (parts, rest) ← readParts n rest
    return (part :: parts, rest)

/-- An IPv4 address. What follows it is left to whoever reads on. -/
def readV4 (cs : List Char) : Option (List Nat × List Char) := do
  let (part, rest) ← readPart cs
  let (parts, rest) ← readParts 3 rest
  return (part :: parts, rest)

/-- What is read in front of a group that is not the first one. So a colon at the end belongs to
nothing. -/
def readColon (first : Bool) (cs : List Char) : Option (List Char) :=
  if first then some cs else readChar ':' cs

/-- The two groups that an IPv4 address stands for, each of them made of two of its parts. -/
def groupsOfParts : List Nat → List Nat
  | [a, b, c, d] => [a * 256 + b, c * 256 + d]
  | _ => []

/-- Up to `room` groups of an IPv6 address, whether they end with an IPv4 address, and what follows
them. Two groups must be left for such an address, and nothing may come after it. -/
def readGroups : Nat → Bool → List Char → List Nat × Bool × List Char
  | 0, _, cs => ([], false, cs)
  | room + 1, first, cs =>
    -- In the last place there is no room for the two groups of an IPv4 address.
    let embedded := if room = 0 then none else (readColon first cs).bind readV4
    match embedded with
    | some (parts, rest) => (groupsOfParts parts, true, rest)
    | none =>
      match (readColon first cs).bind readGroup with
      | none => ([], false, cs)
      | some (group, rest) =>
        let (groups, ended, rest) := readGroups room false rest
        (group :: groups, ended, rest)

/-- An IPv6 address. Where fewer than eight groups are read, a double colon stands for the zeros
that are missing, at least one of them. -/
def readV6 (cs : List Char) : Option (List Nat × List Char) :=
  let (head, ended, rest) := readGroups 8 true cs
  if head.length = 8 then some (head, rest)
  -- Groups that end with an IPv4 address are the last ones, so no double colon can follow.
  else if ended then none
  else do
    let rest ← readChar ':' (← readChar ':' rest)
    let (tail, _, rest) := readGroups (7 - head.length) true rest
    return (head ++ List.replicate (8 - head.length - tail.length) 0 ++ tail, rest)

/-- The greatest number of a zone. -/
def maxZone : Nat := Nat.pow 2 32 - 1

/-- The zone of an address, zero where none is written. One that cannot be read is left standing,
and spoils the address. -/
def readZone (cs : List Char) : Nat × List Char :=
  match cs with
  | '%' :: after =>
    let (value, count, rest) := readDigits 10 0 0 after
    if count = 0 ∨ maxZone < value then (0, cs) else (value, rest)
  | _ => (0, cs)

/-- **Read an address** as it stands in front of a port. -/
def parse? (s : String) : Option Address :=
  match readV4 s.toList with
  | some (parts, []) => some (.v4 parts)
  | _ =>
    -- What follows a complete IPv4 address makes it no address at all.
    match (readChar '[' s.toList).bind readV6 with
    | none => none
    | some (groups, rest) =>
      let (zone, rest) := readZone rest
      if rest = [']'] then some (.v6 groups zone) else none

/-! ## Writing -/

/-- The text of an IPv4 address. -/
def partsText (parts : List Nat) : String :=
  Text.join "." (parts.map Text.decimal)

/-- The hexadecimal digits of a number without leading zeros, of at most `width` digits. Zero has
one digit. -/
def hexDigits : Nat → Nat → List Char
  | 0, _ => []
  | width + 1, n =>
    if n < 16 then [Json.hexDigit n] else hexDigits width (n / 16) ++ [Json.hexDigit (n % 16)]

/-- Groups with colons between them. -/
def groupsText (groups : List Nat) : String :=
  Text.join ":" (groups.map fun group => String.ofList (hexDigits 4 group))

/-- The length of the run of zeros at the front, which may be none. -/
def zeroRun (groups : List Nat) : Nat :=
  (groups.takeWhile (· == 0)).length

/-- The start and the length of the longest run of zeros from `position` on, the first one of
several. -/
def longestRun : Nat → List Nat → Nat × Nat
  | position, [] => (position, 0)
  | position, group :: groups =>
    let here := zeroRun (group :: groups)
    let later := longestRun (position + 1) groups
    if later.2 ≤ here then (position, here) else later

/-- The text of an IPv6 address. A single zero group is written out: leaving it out would save
nothing. -/
def v6Text (groups : List Nat) : String :=
  match groups with
  | [0, 0, 0, 0, 0, 0xFFFF, a, b] =>
    "::ffff:" ++ partsText [a / 256, a % 256, b / 256, b % 256]
  | _ =>
    let (start, length) := longestRun 0 groups
    if 1 < length then
      groupsText (groups.take start) ++ "::" ++ groupsText (groups.drop (start + length))
    else groupsText groups

/-- **The text of an address and a port.** Brackets keep the colons of an IPv6 address apart from
the one before the port. -/
def socketText (address : Address) (port : Nat) : String :=
  let host := match address with
    | .v4 parts => partsText parts
    | .v6 groups zone =>
      "[" ++ v6Text groups ++ (if zone = 0 then "" else "%" ++ Text.decimal zone) ++ "]"
  host ++ ":" ++ Text.decimal port

end Address

end Planroom
