import Planroom.Failure
import Planroom.Json.Basic
import Planroom.Text.Position

/-!
# Inline anchors

An anchor ties a comment to a piece of text in the body of an artifact. Positions count characters.

* **Created** — `Selection.anchor` makes one from the fields a caller submits, if they agree with the
  body.
* **Reconciled** — when the body changes, `Anchor.reconcile` leaves the anchor where its text still
  stands, moves it to the nearest place where the text stands, or hides it. The text never changes,
  and a hidden anchor keeps its positions.
-/

namespace Planroom

/-- **An anchor**: a piece of text and the positions where it stands, or last stood. The text is
kept although it could be cut out of the body, since the body may change under it. -/
structure Anchor where
  text : String
  start : Nat
  stop : Nat
  visible : Bool
  deriving DecidableEq, Repr

/-- **What became of an anchor** when the body changed. An anchor that is hidden already and stays
so is hidden again. -/
inductive AnchorChange where
  | unchanged
  | moved (old new : Nat)
  | hidden
  | restored
  deriving DecidableEq, Repr

/-- **The inline fields of a comment** as a caller submits them. Any of them may be missing, and the
positions may be any integers; what is wrong with them is said by `Selection.anchor`. -/
structure Selection where
  text : Option String
  start : Option Int
  stop : Option Int
  deriving DecidableEq, Repr

namespace Anchor

/-- Does the anchor's text stand in the body where the anchor says? This is asked of the body alone,
whether the anchor can be seen or not. -/
def fits (anchor : Anchor) (body : String) : Bool :=
  Text.slice body anchor.start anchor.stop == some anchor.text

/-- **A new anchor.** Its text must not be empty and must stand in the body between the two
positions. Whatever is wrong with the positions is told in the same words, so that the bounds are
checked together with the text. -/
def create (body text : String) (start stop : Int) : Except Failure Anchor :=
  if text.isEmpty then .error .emptySelection
  else if start < 0 ∨ stop < 0 then .error .positionMismatch
  else if stop < start ∨ body.length < stop then .error .positionMismatch
  else
    let anchor : Anchor := ⟨text, start.toNat, stop.toNat, true⟩
    if anchor.fits body then .ok anchor else .error .positionMismatch

/-- The distance of two positions. -/
def distance (a b : Nat) : Nat :=
  (a - b) + (b - a)

/-- The nearer of two positions, the first one where they are equally near. Since positions are
looked at in ascending order, that is the one further to the front. -/
def nearer (origin a b : Nat) : Nat :=
  if distance b origin < distance a origin then b else a

/-- The position nearest to `origin`, the first of those equally near; none if there is no position
at all. -/
def nearest? (origin : Nat) : List Nat → Option Nat
  | [] => none
  | p :: ps => some (ps.foldl (nearer origin) p)

/-- **Bring an anchor in line with a changed body.** Where it still fits nothing moves, even if the
text also stands elsewhere; otherwise it goes to the nearest place, counted from where it last
stood. A hidden anchor keeps its positions, so that it comes back near to where it was. -/
def reconcile (anchor : Anchor) (body : String) : AnchorChange × Anchor :=
  if anchor.fits body then
    -- It fits again, or still: only in the first case is there something to tell.
    if anchor.visible then (.unchanged, anchor)
    else (.restored, { anchor with visible := true })
  else
    match nearest? anchor.start (Text.occurrences body anchor.text) with
    | some position =>
      (.moved anchor.start position,
        ⟨anchor.text, position, position + anchor.text.length, true⟩)
    | none => (.hidden, { anchor with visible := false })

/-- An anchor in data. -/
def toJson (anchor : Anchor) : Json :=
  .object [
    ("linked_text", .string anchor.text),
    ("text_position_start", .ofNat anchor.start),
    ("text_position_end", .ofNat anchor.stop),
    ("is_visible", .bool anchor.visible)]

end Anchor

namespace Selection

/-- The selection of a comment that is not inline. -/
def empty : Selection := ⟨none, none, none⟩

/-- Is no inline field given? -/
def isEmpty (selection : Selection) : Bool :=
  selection.text.isNone && selection.start.isNone && selection.stop.isNone

/-- **The anchor that a selection asks for**: none if no field is given, else all three must be. Two
of them are as bad as one. -/
def anchor (selection : Selection) (body : String) : Except Failure (Option Anchor) :=
  match selection with
  | ⟨none, none, none⟩ => .ok none
  | ⟨some text, some start, some stop⟩ => (Anchor.create body text start stop).map some
  | _ => .error .incompleteSelection

end Selection

end Planroom
