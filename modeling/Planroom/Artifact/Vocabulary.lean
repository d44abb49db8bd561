import Planroom.Failure
import Planroom.Text.Blank
import Planroom.Text.Lowercase

/-!
# The vocabulary of artifacts

Priorities, states, types and relationships: small closed sets, each with the name it is written
under and the names it is read from. Reading ignores blanks at the ends and the case of ASCII
letters.
-/

namespace Planroom

/-- The form in which names are compared: without blanks at the ends, ASCII letters in lower case.
Letters beyond ASCII are compared as they are. -/
def nameKey (s : String) : String :=
  Text.asciiLower (Text.trim s)

/-! ## Priority -/

/-- **A priority**: 1 is critical, 2 high, 3 medium, 4 low. A value of another number cannot be
built. -/
structure Priority where
  value : Nat
  valid : 1 ≤ value ∧ value ≤ 4
  deriving DecidableEq, Repr

/-- The priority with the given number. This is the only way to a priority, so the range is checked
here and nowhere else. -/
def Priority.ofInt (n : Int) : Except Failure Priority :=
  if h : 1 ≤ n ∧ n ≤ 4 then .ok ⟨n.toNat, by omega⟩ else .error (.invalid .priorityRange)

/-! ## States -/

/-- **The state of an epic or a user story.** -/
inductive WorkflowStatus where
  | backlog
  | draft
  | inProgress
  | done
  | cancelled
  deriving DecidableEq, Repr

namespace WorkflowStatus

/-- How the state is written. `parse` reads it back. -/
def name : WorkflowStatus → String
  | .backlog => "Backlog"
  | .draft => "Draft"
  | .inProgress => "In Progress"
  | .done => "Done"
  | .cancelled => "Cancelled"

/-- Read a state. Two of them are read from a second spelling, in which they are never written. -/
def parse (s : String) : Except Failure WorkflowStatus :=
  match nameKey s with
  | "backlog" => .ok .backlog
  | "draft" => .ok .draft
  | "in progress" | "in_progress" => .ok .inProgress
  | "done" => .ok .done
  | "cancelled" | "canceled" => .ok .cancelled
  | _ => .error (.invalid .workflowStatus)

end WorkflowStatus

/-- **The state of a requirement.** -/
inductive RequirementStatus where
  | draft
  | active
  | obsolete
  deriving DecidableEq, Repr

namespace RequirementStatus

/-- How the state is written. -/
def name : RequirementStatus → String
  | .draft => "Draft"
  | .active => "Active"
  | .obsolete => "Obsolete"

/-- Read a state of a requirement. A name of a workflow state is none, but for the one they share.
-/
def parse (s : String) : Except Failure RequirementStatus :=
  match nameKey s with
  | "draft" => .ok .draft
  | "active" => .ok .active
  | "obsolete" => .ok .obsolete
  | _ => .error (.invalid .requirementStatus)

end RequirementStatus

/-! ## Types of requirements and of relationships -/

/-- **The type of a requirement.** -/
inductive RequirementType where
  | functional
  | nonFunctional
  | businessRule
  | interface
  | data
  deriving DecidableEq, Repr

namespace RequirementType

/-- How the type is written. -/
def name : RequirementType → String
  | .functional => "Functional"
  | .nonFunctional => "Non-Functional"
  | .businessRule => "Business Rule"
  | .interface => "Interface"
  | .data => "Data"

/-- A low line or a hyphen stands for a blank, one for one: two of them in a row are two blanks. -/
def spaced (s : String) : String :=
  String.ofList (s.toList.map fun c => if c = '_' ∨ c = '-' then ' ' else c)

/-- Read a type, its words apart by a blank, a low line or a hyphen. -/
def parse (s : String) : Except Failure RequirementType :=
  match spaced (nameKey s) with
  | "functional" => .ok .functional
  | "non functional" => .ok .nonFunctional
  | "business rule" => .ok .businessRule
  | "interface" => .ok .interface
  | "data" => .ok .data
  | _ => .error (.invalid .requirementType)

end RequirementType

/-- **The type of a relationship between requirements.** -/
inductive RelationshipType where
  | dependsOn
  | blocks
  | relatesTo
  | conflictsWith
  | derivesFrom
  deriving DecidableEq, Repr

namespace RelationshipType

/-- How the type is written in data. It is also the only spelling it is read from, case apart. -/
def name : RelationshipType → String
  | .dependsOn => "depends_on"
  | .blocks => "blocks"
  | .relatesTo => "relates_to"
  | .conflictsWith => "conflicts_with"
  | .derivesFrom => "derives_from"

/-- How the type is written in sentences: in one word, without a low line. -/
def title : RelationshipType → String
  | .dependsOn => "DependsOn"
  | .blocks => "Blocks"
  | .relatesTo => "RelatesTo"
  | .conflictsWith => "ConflictsWith"
  | .derivesFrom => "DerivesFrom"

/-- Read a type. Here a hyphen is not a low line, and a blank is not one either. -/
def parse (s : String) : Except Failure RelationshipType :=
  match nameKey s with
  | "depends_on" => .ok .dependsOn
  | "blocks" => .ok .blocks
  | "relates_to" => .ok .relatesTo
  | "conflicts_with" => .ok .conflictsWith
  | "derives_from" => .ok .derivesFrom
  | _ => .error (.invalid .relationshipType)

end RelationshipType

end Planroom
