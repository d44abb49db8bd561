import Planroom.Failure
import Planroom.Text.Blank

/-!
# Rules for texts

* **Titles** — kept without the blanks around them; not empty and not too long.
* **Descriptions** — kept as they are; a blank one counts as none.
* **Contents** of comments — kept without the blanks around them; not empty.
-/

namespace Planroom.Rules

/-- The greatest length of a title, in characters. The blanks around it are not counted. -/
def maxTitle : Nat := 500

/-- The greatest length of a description, in characters. As it is kept as it is, its blanks count.
-/
def maxDescription : Nat := 50000

/-- **A title as it is kept.** Keeping it again changes nothing. -/
def title (s : String) : Except Failure String :=
  let trimmed := Text.trim s
  if trimmed.isEmpty then .error (.invalid .titleEmpty)
  else if maxTitle < trimmed.length then .error (.invalid .titleTooLong)
  else .ok trimmed

/-- **A description as it is kept.** Its length is checked first, so a blank one may be too long as
well. -/
def description : Option String → Except Failure (Option String)
  | none => .ok none
  | some s =>
    if maxDescription < s.length then .error (.invalid .descriptionTooLong)
    else if Text.isBlankText s then .ok none
    else .ok (some s)

/-- **A description that must be there.** A blank one is not. -/
def requiredDescription (s : Option String) : Except Failure String := do
  match ← description s with
  | some kept => return kept
  | none => throw (.invalid .descriptionEmpty)

/-- **The content of a comment as it is kept.** There is no greatest length. -/
def content (s : String) : Except Failure String :=
  let trimmed := Text.trim s
  if trimmed.isEmpty then .error (.invalid .contentEmpty) else .ok trimmed

end Planroom.Rules
