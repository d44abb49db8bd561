import Planroom.Artifact.Anchor
import Planroom.Artifact.Reference
import Planroom.Artifact.Vocabulary
import Planroom.Timestamp

/-!
# Artifacts

Epics hold user stories; a user story has acceptance criteria and requirements; requirements may refer
to each other. Steering documents stand beside this hierarchy and are linked to epics. Comments hang
on the artifacts of the hierarchy.

What epics, user stories and requirements have in common is their `Card`.
-/

namespace Planroom

/-- **What an epic, a user story and a requirement have in common.** Updates are written once, for
the card, and not three times. -/
structure Card where
  id : Uuid
  reference : String
  title : String
  description : Option String
  priority : Priority
  creator : Uuid
  assignee : Option Uuid
  createdAt : Timestamp
  modifiedAt : Timestamp
  deriving DecidableEq, Repr

/-- **An epic.** -/
structure Epic where
  card : Card
  status : WorkflowStatus
  deriving DecidableEq, Repr

/-- **A user story** of an epic, which it never leaves. -/
structure UserStory where
  card : Card
  epic : Uuid
  status : WorkflowStatus
  deriving DecidableEq, Repr

/-- **Acceptance criteria** of a user story. They have no card: no title, no priority, no state and
nobody who is assigned, and who made them is their author. -/
structure Criteria where
  id : Uuid
  reference : String
  story : Uuid
  description : String
  author : Uuid
  createdAt : Timestamp
  modifiedAt : Timestamp
  deriving DecidableEq, Repr

/-- **A requirement** of a user story, possibly one that meets acceptance criteria of it. Criteria
of another story are refused. -/
structure Requirement where
  card : Card
  story : Uuid
  criteria : Option Uuid
  status : RequirementStatus
  type : RequirementType
  deriving DecidableEq, Repr

/-- **A relationship** from one requirement to another. It has no reference and cannot be changed.
-/
structure Relationship where
  id : Uuid
  source : Uuid
  target : Uuid
  type : RelationshipType
  creator : Uuid
  createdAt : Timestamp
  deriving DecidableEq, Repr

/-- **A steering document.** It belongs to whoever created it: others may not change it,
administrators apart. -/
structure SteeringDocument where
  id : Uuid
  reference : String
  title : String
  description : Option String
  creator : Uuid
  createdAt : Timestamp
  modifiedAt : Timestamp
  deriving DecidableEq, Repr

/-- **A steering document's link to an epic.** It is the pair itself, so there is at most one of
each. -/
structure Link where
  document : Uuid
  epic : Uuid
  deriving DecidableEq, Repr

/-- **A comment** on an artifact of the hierarchy, possibly a reply to another one. An inline
comment has an anchor, which says what part of the body it is about. -/
structure Comment where
  id : Uuid
  kind : Kind
  artifact : Uuid
  author : Uuid
  content : String
  parent : Option Uuid
  resolved : Bool
  anchor : Option Anchor
  createdAt : Timestamp
  updatedAt : Timestamp
  deriving DecidableEq, Repr

/-- Does the comment hang on this artifact? The kind is compared too, though identifiers are not
shared between kinds. -/
def Comment.isOn (comment : Comment) (kind : Kind) (artifact : Uuid) : Bool :=
  comment.kind == kind && comment.artifact == artifact

/-- **An artifact of the hierarchy.** It is what can be read as a resource, searched for and
commented on. -/
inductive Entity where
  | epic (value : Epic)
  | story (value : UserStory)
  | criteria (value : Criteria)
  | requirement (value : Requirement)
  deriving DecidableEq, Repr

namespace Entity

/-- The kind of an artifact. -/
def kind : Entity → Kind
  | .epic _ => .epic
  | .story _ => .userStory
  | .criteria _ => .acceptanceCriteria
  | .requirement _ => .requirement

/-- The identifier of an artifact, under which it is stored. Unlike the reference it tells nothing
about the kind. -/
def id : Entity → Uuid
  | .epic e => e.card.id
  | .story s => s.card.id
  | .criteria c => c.id
  | .requirement r => r.card.id

/-- The reference of an artifact, which is for people: it is numbered through within the kind. -/
def reference : Entity → String
  | .epic e => e.card.reference
  | .story s => s.card.reference
  | .criteria c => c.reference
  | .requirement r => r.card.reference

/-- What an artifact is listed under. Acceptance criteria have no title of their own. -/
def title : Entity → String
  | .epic e => e.card.title
  | .story s => s.card.title
  | .criteria c => c.description
  | .requirement r => r.card.title

/-- **The text that inline comments point into.** An artifact without a description has an empty
one, where no anchor fits. -/
def body : Entity → String
  | .epic e => e.card.description.getD ""
  | .story s => s.card.description.getD ""
  | .criteria c => c.description
  | .requirement r => r.card.description.getD ""

/-- The canonical address of an artifact. It names the artifact by its reference, however it was
asked for. -/
def uri (entity : Entity) : String :=
  entity.kind.scheme ++ "://" ++ entity.reference

end Entity

/-- **What a search finds**: enough of an artifact to show it and to ask for the rest of it. -/
structure SearchHit where
  kind : Kind
  id : Uuid
  reference : String
  title : String
  description : Option String
  deriving DecidableEq, Repr

end Planroom
