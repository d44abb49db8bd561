import Planroom.Artifact.Kind

/-!
# Failures

Why an operation on the store, or a request that uses it, did not succeed. The causes are kept apart
from their wording: `Failure.message` and its parts are the only place where a failure becomes a
sentence.
-/

namespace Planroom

/-- **Why a value is refused.** There is one cause for each rule, and where a rule names what broke
it, the cause carries that text. -/
inductive Reason where
  | priorityRange
  | pageLimit
  | workflowStatus
  | requirementStatus
  | requirementType
  | relationshipType
  | entityType (name : String)
  | titleEmpty
  | titleTooLong
  | descriptionEmpty
  | descriptionTooLong
  | contentEmpty
  | nothingToUpdate
  | descriptionOnly
  | criteriaOfOtherStory
  | outsideHierarchy
  | selfRelationship
  | notCommentable
  | resourceScheme
  | resourceCollection (name : String)
  | resourceIdentifier
  | unsupportedUri (uri : String)
  | other (text : String)
  deriving DecidableEq, Repr

/-- The wording of a refusal. A caller is shown it as it is, so it says nothing that the caller may
not know. -/
def Reason.message : Reason → String
  | .priorityRange => "priority must be between 1 and 4"
  | .pageLimit => "limit must be between 1 and 100"
  | .workflowStatus => "status must be one of: Backlog, Draft, In Progress, Done, Cancelled"
  | .requirementStatus => "status must be one of: Draft, Active, Obsolete"
  | .requirementType =>
    "type must be one of: Functional, Non-Functional, Business Rule, Interface, Data"
  | .relationshipType =>
    "relationship type must be one of: depends_on, blocks, relates_to, conflicts_with, " ++
      "derives_from"
  | .entityType name => "unknown entity type: " ++ name
  | .titleEmpty => "title must not be empty"
  | .titleTooLong => "title must not exceed 500 characters"
  | .descriptionEmpty => "description must not be empty"
  | .descriptionTooLong => "description must not exceed 50000 characters"
  | .contentEmpty => "content must not be empty"
  | .nothingToUpdate => "no fields to update"
  | .descriptionOnly => "acceptance criteria only support description updates"
  | .criteriaOfOtherStory => "acceptance criteria must belong to the same user story"
  | .outsideHierarchy => "steering documents are not part of the requirements hierarchy"
  | .selfRelationship => "a requirement cannot have a relationship with itself"
  | .notCommentable =>
    "comments can only be attached to epics, user stories, acceptance criteria or requirements"
  | .resourceScheme => "resource URI must start with requirements://"
  | .resourceCollection name =>
    "unknown resource kind '" ++ name ++
      "', expected one of: epics, user-stories, acceptance-criteria, requirements"
  | .resourceIdentifier =>
    "resource identifier must be a canonical id or a reference such as EP-001"
  | .unsupportedUri uri => "unsupported resource URI: " ++ uri
  | .other text => text

/-- **What was looked for and not found.** -/
inductive Subject where
  | artifact (kind : Kind)
  | user
  | comment
  | prompt
  | documentLink
  | other (name : String)
  deriving DecidableEq, Repr

/-- The name of what was looked for, as a sentence begins with it. -/
def Subject.name : Subject → String
  | .artifact kind => kind.displayName
  | .user => "User"
  | .comment => "Comment"
  | .prompt => "Prompt"
  | .documentLink => "Steering document link"
  | .other name => name

/-- **What is there already.** The state would not change, but the caller is told all the same. -/
inductive Clash where
  | relationshipExists
  | linkExists
  | other (text : String)
  deriving DecidableEq, Repr

/-- The wording of a clash. -/
def Clash.message : Clash → String
  | .relationshipExists => "relationship already exists"
  | .linkExists => "steering document is already linked to the epic"
  | .other text => text

/-- **What a user may not do.** The routes for comments tell the caller the text; the other replies
say in general terms that access was refused. -/
inductive Denial where
  | notEditor
  | notDocumentOwner
  | notCommentAuthor
  | other (text : String)
  deriving DecidableEq, Repr

/-- The wording of a denial. -/
def Denial.message : Denial → String
  | .notEditor => "role does not permit modifications"
  | .notDocumentOwner =>
    "only the creator or an administrator can update a steering document"
  | .notCommentAuthor => "only the author or an administrator can resolve a comment"
  | .other text => text

/-- **Why an operation failed.** The first few are the caller's doing, the last ones are not; the
log and the reply treat them accordingly. -/
inductive Failure where
  /-- A value is refused. -/
  | invalid (reason : Reason)
  /-- Something named by the caller does not exist. -/
  | notFound (subject : Subject) (identifier : String)
  /-- Something is there already. -/
  | conflict (clash : Clash)
  /-- The caller is not known. -/
  | unauthorized (text : String)
  /-- The caller may not do this. -/
  | forbidden (denial : Denial)
  /-- The deadline passed. -/
  | timeout
  /-- The request was cancelled. -/
  | canceled
  /-- The storage cannot be reached. -/
  | unavailable (text : String)
  /-- An inline comment lacks some of its three fields, or has them where it must not. -/
  | incompleteSelection
  /-- The position of an inline comment does not hold its text. -/
  | positionMismatch
  /-- The text of an inline comment is empty. -/
  | emptySelection
  /-- A reply names a parent on something else. -/
  | parentElsewhere
  /-- Something went wrong inside. -/
  | internal (text : String)
  deriving DecidableEq, Repr

namespace Failure

/-- The failure of a request whose caller is not known, though it must be. -/
def authenticationRequired : Failure :=
  .unauthorized "authentication required"

/-- Nothing is stored under an identifier of this kind. The identifier is the caller's own text or
its canonical form, according to who asks. -/
def missing (kind : Kind) (identifier : String) : Failure :=
  .notFound (.artifact kind) identifier

/-- **The wording of a failure.** It begins with the family that the failure belongs to, except
where a family has only this one sentence. -/
def message : Failure → String
  | .invalid reason => "validation failed: " ++ reason.message
  | .notFound subject identifier => subject.name ++ " not found: " ++ identifier
  | .conflict clash => "conflict: " ++ clash.message
  | .unauthorized text => "unauthorized: " ++ text
  | .forbidden denial => "forbidden: " ++ denial.message
  | .timeout => "operation timed out"
  | .canceled => "operation canceled"
  | .unavailable text => "storage unavailable: " ++ text
  | .incompleteSelection =>
    "inline comment data must include linked_text, text_position_start and text_position_end"
  | .positionMismatch => "text position does not match the entity body"
  | .emptySelection => "linked text must not be empty"
  | .parentElsewhere => "parent comment belongs to a different entity"
  | .internal text => "internal: " ++ text

/-- Did something that the caller has named not exist? -/
def isNotFound : Failure → Bool
  | .notFound .. => true
  | _ => false

end Failure

end Planroom
