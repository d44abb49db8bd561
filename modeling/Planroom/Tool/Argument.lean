import Planroom.CallError
import Planroom.Json.Basic
import Planroom.Text.Blank

/-!
# Arguments

How the value of an argument becomes what a tool needs. An argument that is null counts as absent.

* **Texts** — taken as they are, blanks included; a required one must not be blank.
* **Integers** — written as such, or as a number without a fractional part.
* **Counts** — integers that fit into 32 bits and are not negative.
-/

namespace Planroom.Tool

/-- The arguments of a call, by name. A name that the tool has no field for does no harm. -/
abbrev Arguments := Json.Members

namespace Argument

/-- **What is wrong with an argument.** Each fault names the argument, so that the caller knows
where to look. -/
inductive Fault where
  | missing (key : String)
  | blank (key : String)
  | notText (key : String)
  | notInteger (key : String)
  | notCount (key : String)
  | notTextList (key : String)
  | notIdentifier (key : String)
  deriving DecidableEq, Repr

/-- The wording of a fault. -/
def Fault.message : Fault → String
  | .missing key => "missing required field '" ++ key ++ "'"
  | .blank key => "'" ++ key ++ "' must not be empty"
  | .notText key => "'" ++ key ++ "' must be a string"
  | .notInteger key => "'" ++ key ++ "' must be an integer"
  | .notCount key => "'" ++ key ++ "' must be a non-negative integer"
  | .notTextList key => "'" ++ key ++ "' must be an array of strings"
  | .notIdentifier key =>
    "'" ++ key ++ "' must be a canonical id or a reference such as EP-001"

/-- The value of an argument that is given. Null is how a caller writes that it gives none. -/
def given (arguments : Arguments) (key : String) : Option Json :=
  Json.given (Json.lookup key arguments)

/-- **A text, if it is given.** An empty one is given: what it means is for the tool to say. -/
def optionalText (arguments : Arguments) (key : String) : Except Fault (Option String) :=
  match given arguments key with
  | none => .ok none
  | some (.string s) => .ok (some s)
  | some _ => .error (.notText key)

/-- **A text that may be empty**, but must be there. -/
def anyText (arguments : Arguments) (key : String) : Except Fault String :=
  match given arguments key with
  | none => .error (.missing key)
  | some (.string s) => .ok s
  | some _ => .error (.notText key)

/-- **A text that is not blank.** It is handed on as it stands, with the blanks around it. -/
def text (arguments : Arguments) (key : String) : Except Fault String :=
  match given arguments key with
  | none => .error (.missing key)
  | some (.string s) => if Text.isBlankText s then .error (.blank key) else .ok s
  | some _ => .error (.notText key)

/-- Integers lie strictly between minus and plus this bound, the lower one included where the number
is written as an integer. -/
def bound : Int := Nat.pow 2 63

/-- **The integer that a value is.** `2.0` is one, whereas the text `"2"` is not. -/
def integral? : Json → Option Int
  | .number (.int n) => if n < bound then some n else none
  | .number (.real x) => x.toInt?.filter fun n => -bound < n ∧ n < bound
  | _ => none

/-- **An integer, if it is given.** Nothing is rounded: a number with a fraction is a fault. -/
def optionalInteger (arguments : Arguments) (key : String) : Except Fault (Option Int) :=
  match given arguments key with
  | none => .ok none
  | some value =>
    match integral? value with
    | some n => .ok (some n)
    | none => .error (.notInteger key)

/-- **An integer** that must be given. -/
def integer (arguments : Arguments) (key : String) : Except Fault Int := do
  match ← optionalInteger arguments key with
  | some n => return n
  | none => throw (.missing key)

/-- The greatest count, which is that of an unsigned 32-bit number. -/
def maxCount : Int := Nat.pow 2 32 - 1

/-- **A count, if it is given.** One that is out of bounds is another fault than one that is no
integer. -/
def optionalCount (arguments : Arguments) (key : String) : Except Fault (Option Nat) := do
  match ← optionalInteger arguments key with
  | none => return none
  | some n => if 0 ≤ n ∧ n ≤ maxCount then return some n.toNat else throw (.notCount key)

/-- **A list of texts**, empty if it is not given. One item that is no text spoils the list. -/
def textList (arguments : Arguments) (key : String) : Except Fault (List String) :=
  match given arguments key with
  | none => .ok []
  | some (.array items) => items.mapM fun item =>
    match item.text? with
    | some s => .ok s
    | none => .error (.notTextList key)
  | some _ => .error (.notTextList key)

end Argument

end Planroom.Tool
