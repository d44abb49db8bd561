import Planroom.Artifact.Kind
import Planroom.Text.Blank
import Planroom.Text.Cut
import Planroom.Text.Decimal
import Planroom.Uuid

/-!
# References and look-ups

* **Reference** — a text such as `EP-001`: the label of a kind, a hyphen and a number. References are
  written with at least three digits and compared as texts.
* **Look-up** — what a caller may use to name an artifact: its identifier in canonical form, or its
  reference.
-/

namespace Planroom

namespace Reference

/-- **The reference of the artifact with the given number.** Three digits are the least, not the
most: after 999 comes a fourth. -/
def ofNumber (kind : Kind) (number : Nat) : String :=
  kind.label ++ "-" ++ Text.padded 3 number

/-- Is the text a reference of this kind: its label, a hyphen and at least one digit? It need not be
spelled as `ofNumber` spells it. -/
def isOfKind (kind : Kind) (s : String) : Bool :=
  match Text.dropStart? (kind.label ++ "-") s with
  | some number => !number.isEmpty && number.toList.all Text.isDigit
  | none => false

/-- **Is the text a reference**, with digits of any number and any padding? `EP-1` is one, though no
artifact bears it. -/
def isReference (s : String) : Bool :=
  Kind.all.any (isOfKind · s)

/-- The kind that the text in front of the first hyphen labels. What follows the hyphen does not
matter. -/
def kind? (s : String) : Option Kind :=
  (Text.cut "-" s).bind fun halves => Kind.ofLabel? halves.1

/-- The greatest number that is read from a reference. What is beyond it counts as no number. -/
def maxNumber : Nat := Nat.pow 2 64 - 1

/-- **The number of a reference**: what follows the last hyphen, zero where that is no number.
Artifacts are listed in this order. -/
def number (s : String) : Nat :=
  (Text.readUnsigned maxNumber (Text.afterLast '-' s)).getD 0

end Reference

/-- **How a caller names an artifact.** The two never overlap, since an identifier has four hyphens
and a reference has one. -/
inductive Lookup where
  | byId (id : Uuid)
  | byReference (text : String)
  deriving DecidableEq, Repr

namespace Lookup

/-- **Read a look-up** from a text with blanks around it: an identifier if it is one, else a
reference. An identifier that is not in canonical form names nothing, though it could be read
elsewhere. -/
def parse? (s : String) : Option Lookup :=
  let s := Text.trim s
  match Uuid.canonical? s with
  | some id => some (.byId id)
  | none => if Reference.isReference s then some (.byReference s) else none

/-- The text of a look-up, which is how a message names what was not found. -/
def text : Lookup → String
  | .byId id => id.text
  | .byReference s => s

end Lookup

end Planroom
