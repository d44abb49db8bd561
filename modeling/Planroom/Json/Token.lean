import Planroom.Text.Decimal

/-!
# JSON tokens

The text of a JSON document as a stream of tokens. The stream ends well, or at the first place where
no token can be read; a reader that follows the stream therefore meets a fault of the text exactly
where it stands.

* **Literals** — a string keeps its escapes for UTF-16 units apart from its characters: whether the
  units pair up is not a question of syntax.
* **Numerals** — the digits of a number as written: how large it is is not a question of syntax
  either.
-/

namespace Planroom.Json

/-- One element of a string literal: a character, or a UTF-16 code unit written as an escape. Units
are not put together yet, for two of them may be half of one character each. -/
inductive Piece where
  | char (c : Char)
  | unit (code : Nat)
  deriving DecidableEq, Repr

/-- The number as written: sign, digits before the point, digits after it, and exponent. It has no
value yet, and it may turn out to have none. -/
structure Numeral where
  negative : Bool
  whole : List Char
  fraction : Option (List Char)
  exponent : Option (Bool × List Char)
  deriving DecidableEq, Repr

/-- **A token.** -/
inductive Token where
  | openArray
  | closeArray
  | openObject
  | closeObject
  | comma
  | colon
  | null
  | bool (value : Bool)
  | number (numeral : Numeral)
  | string (pieces : List Piece)
  deriving DecidableEq, Repr

/-- A run of tokens, and whether the text ends after them; if not, a fault stands there. A reader
that is done before it gets there never learns of the fault. -/
structure Tokens where
  list : List Token
  clean : Bool
  deriving DecidableEq, Repr

/-- Space, tab, line feed and carriage return separate tokens. -/
def isSpace (c : Char) : Bool :=
  c == ' ' || c == '\t' || c == '\n' || c == '\r'

/-- The value of a hexadecimal digit of either case. -/
def hexValue? (c : Char) : Option Nat :=
  if '0' ≤ c ∧ c ≤ '9' then some (c.toNat - 0x30)
  else if 'a' ≤ c ∧ c ≤ 'f' then some (c.toNat - 0x61 + 10)
  else if 'A' ≤ c ∧ c ≤ 'F' then some (c.toNat - 0x41 + 10)
  else none

/-- The code unit of four hexadecimal digits. -/
def unit? (a b c d : Char) : Option Nat := do
  let a ← hexValue? a
  let b ← hexValue? b
  let c ← hexValue? c
  let d ← hexValue? d
  return ((a * 16 + b) * 16 + c) * 16 + d

/-- The character of a one-letter escape. A slash may be escaped, though it need not be, and never
is in what is printed. -/
def escaped? (c : Char) : Option Char :=
  match c with
  | '"' => some '"'
  | '\\' => some '\\'
  | '/' => some '/'
  | 'b' => some '\x08'
  | 'f' => some '\x0c'
  | 'n' => some '\n'
  | 'r' => some '\r'
  | 't' => some '\t'
  | _ => none

/-- The rest of a string literal after its opening quote, and what follows the closing one. Control
characters must be escaped; every other character may stand for itself. -/
def scanString : List Char → Option (List Piece × List Char)
  | [] => none
  | '"' :: rest => some ([], rest)
  | '\\' :: 'u' :: a :: b :: c :: d :: rest => do
    let code ← unit? a b c d
    let (pieces, after) ← scanString rest
    return (.unit code :: pieces, after)
  | '\\' :: e :: rest => do
    let c ← escaped? e
    let (pieces, after) ← scanString rest
    return (.char c :: pieces, after)
  | c :: rest =>
    if c.toNat < 0x20 || c == '\\' then none
    else do
      let (pieces, after) ← scanString rest
      return (.char c :: pieces, after)

/-- A run of digits and what follows it; nothing where there is no digit. -/
def scanDigits (cs : List Char) : Option (List Char × List Char) :=
  match cs.takeWhile Text.isDigit with
  | [] => none
  | ds => some (ds, cs.dropWhile Text.isDigit)

/-- The digits before the point: a zero stands alone, so that no number has zeros in front. -/
def scanWhole (cs : List Char) : Option (List Char × List Char) := do
  let (ds, rest) ← scanDigits cs
  match ds with
  | '0' :: _ :: _ => none
  | _ => return (ds, rest)

/-- The point and the digits after it, where there is a point. -/
def scanFraction : List Char → Option (Option (List Char) × List Char)
  | '.' :: rest => do
    let (ds, after) ← scanDigits rest
    return (some ds, after)
  | cs => some (none, cs)

/-- The sign of an exponent. -/
def scanSign : List Char → Bool × List Char
  | '-' :: rest => (true, rest)
  | '+' :: rest => (false, rest)
  | cs => (false, cs)

/-- The exponent, where there is one. An `e` without digits behind it is a fault and not the
beginning of another token. -/
def scanExponent (cs : List Char) : Option (Option (Bool × List Char) × List Char) :=
  match cs with
  | c :: rest =>
    if c == 'e' || c == 'E' then do
      let (negative, rest) := scanSign rest
      let (ds, after) ← scanDigits rest
      return (some (negative, ds), after)
    else some (none, cs)
  | [] => some (none, [])

/-- A number without its sign. -/
def scanNumber (negative : Bool) (cs : List Char) : Option (Numeral × List Char) := do
  let (whole, rest) ← scanWhole cs
  let (fraction, rest) ← scanFraction rest
  let (exponent, rest) ← scanExponent rest
  return (⟨negative, whole, fraction, exponent⟩, rest)

/-- The token at the front of a text that does not begin with a space, and what follows it. Words
are read letter by letter and need nothing behind them: that two values must not touch is a matter
of the syntax, which puts a comma between them. -/
def scanToken : List Char → Option (Token × List Char)
  | '[' :: rest => some (.openArray, rest)
  | ']' :: rest => some (.closeArray, rest)
  | '\x7b' :: rest => some (.openObject, rest)
  | '\x7d' :: rest => some (.closeObject, rest)
  | ',' :: rest => some (.comma, rest)
  | ':' :: rest => some (.colon, rest)
  | 'n' :: 'u' :: 'l' :: 'l' :: rest => some (.null, rest)
  | 't' :: 'r' :: 'u' :: 'e' :: rest => some (.bool true, rest)
  | 'f' :: 'a' :: 'l' :: 's' :: 'e' :: rest => some (.bool false, rest)
  | '"' :: rest => (scanString rest).map fun found => (.string found.1, found.2)
  | '-' :: rest => (scanNumber true rest).map fun found => (.number found.1, found.2)
  | cs => (scanNumber false cs).map fun found => (.number found.1, found.2)

/-- The tokens of a text of fewer than `fuel` characters. -/
def scanFrom : Nat → List Char → Tokens
  | 0, _ => ⟨[], false⟩
  | fuel + 1, cs =>
    match cs.dropWhile isSpace with
    | [] => ⟨[], true⟩
    | cs =>
      match scanToken cs with
      | none => ⟨[], false⟩
      | some (token, rest) =>
        let later := scanFrom fuel rest
        ⟨token :: later.list, later.clean⟩

/-- **The tokens of a text.** Every token takes at least one character, so the number of characters
bounds the number of tokens, and the fuel never runs out. -/
def tokens (text : List Char) : Tokens :=
  scanFrom (text.length + 1) text

end Planroom.Json
