import Planroom.Store.Basic
import Planroom.Store.Rules

/-!
# Creating artifacts

What a new artifact needs is checked first: its texts, then what it belongs to, then its assignee.
Only then is a reference issued, so that a failed attempt uses up no number.
-/

namespace Planroom

/-- **What a caller gives of a card.** The texts are those given and not yet those kept. -/
structure CardDraft where
  title : String
  description : Option String
  priority : Priority
  creator : Uuid
  assignee : Option Uuid
  deriving DecidableEq, Repr

/-- **What a caller gives of a requirement.** What it hangs on has been looked up by now. -/
structure RequirementDraft where
  card : CardDraft
  story : Uuid
  criteria : Option Uuid
  type : RequirementType
  deriving DecidableEq, Repr

/-- **What a caller gives of a relationship.** -/
structure RelationshipDraft where
  source : Uuid
  target : Uuid
  type : RelationshipType
  creator : Uuid
  deriving DecidableEq, Repr

/-- The card that a draft becomes. The texts are passed beside the draft, in the form in which they
are kept. -/
def CardDraft.toCard (draft : CardDraft) (stamp : Stamp) (reference title : String)
    (description : Option String) : Card :=
  { id := stamp.id
    reference := reference
    title := title
    description := description
    priority := draft.priority
    creator := draft.creator
    assignee := draft.assignee
    createdAt := stamp.now
    modifiedAt := stamp.now }

namespace Store

/-- Fails unless there is such an epic. The store asks for itself, whatever its callers have looked
up before. -/
def ensureEpic (store : Store) (id : Uuid) : Except Failure Unit :=
  if store.epics.contains id then .ok () else .error (.missing .epic id.text)

/-- Fails unless there is such a user story. -/
def ensureStory (store : Store) (id : Uuid) : Except Failure Unit :=
  if store.stories.contains id then .ok () else .error (.missing .userStory id.text)

/-- Fails unless there is such a requirement. -/
def ensureRequirement (store : Store) (id : Uuid) : Except Failure Unit :=
  if store.requirements.contains id then .ok () else .error (.missing .requirement id.text)

/-- Fails unless the acceptance criteria, where there are any, are ones of the user story. Having
none is always allowed. -/
def ensureCriteriaOf (store : Store) (story : Uuid) : Option Uuid → Except Failure Unit
  | none => .ok ()
  | some id =>
    match store.criteria.get? id with
    | none => .error (.missing .acceptanceCriteria id.text)
    | some criteria =>
      if criteria.story = story then .ok () else .error (.invalid .criteriaOfOtherStory)

/-- **Create an epic.** It begins in the backlog, whatever its priority. -/
def createEpic (store : Store) (stamp : Stamp) (draft : CardDraft) :
    Except Failure (Epic × Store) := do
  let title ← Rules.title draft.title
  let description ← Rules.description draft.description
  store.ensureAssignee draft.assignee
  let epic : Epic :=
    { card := draft.toCard stamp (store.nextReference .epic) title description
      status := .backlog }
  return (epic,
    { store with epics := store.epics.insert stamp.id epic, issued := store.issued.issue .epic })

/-- **Create a user story** of an epic. Like an epic it begins in the backlog. -/
def createStory (store : Store) (stamp : Stamp) (epic : Uuid) (draft : CardDraft) :
    Except Failure (UserStory × Store) := do
  let title ← Rules.title draft.title
  let description ← Rules.description draft.description
  store.ensureEpic epic
  store.ensureAssignee draft.assignee
  let story : UserStory :=
    { card := draft.toCard stamp (store.nextReference .userStory) title description
      epic := epic
      status := .backlog }
  return (story,
    { store with
      stories := store.stories.insert stamp.id story
      issued := store.issued.issue .userStory })

/-- **Create acceptance criteria** of a user story. Here the description is the text that must not
be blank. -/
def createCriteria (store : Store) (stamp : Stamp) (story : Uuid) (description : String)
    (author : Uuid) : Except Failure (Criteria × Store) := do
  let description ← Rules.requiredDescription (some description)
  store.ensureStory story
  let criteria : Criteria :=
    { id := stamp.id
      reference := store.nextReference .acceptanceCriteria
      story := story
      description := description
      author := author
      createdAt := stamp.now
      modifiedAt := stamp.now }
  return (criteria,
    { store with
      criteria := store.criteria.insert stamp.id criteria
      issued := store.issued.issue .acceptanceCriteria })

/-- **Create a requirement** of a user story. It begins as a draft. -/
def createRequirement (store : Store) (stamp : Stamp) (draft : RequirementDraft) :
    Except Failure (Requirement × Store) := do
  let title ← Rules.title draft.card.title
  let description ← Rules.description draft.card.description
  store.ensureStory draft.story
  store.ensureCriteriaOf draft.story draft.criteria
  store.ensureAssignee draft.card.assignee
  let requirement : Requirement :=
    { card := draft.card.toCard stamp (store.nextReference .requirement) title description
      story := draft.story
      criteria := draft.criteria
      status := .draft
      type := draft.type }
  return (requirement,
    { store with
      requirements := store.requirements.insert stamp.id requirement
      issued := store.issued.issue .requirement })

/-- Is there a relationship like this already? Who made it does not matter, but its direction does.
-/
def hasRelationship (store : Store) (draft : RelationshipDraft) : Bool :=
  store.relationships.any fun r =>
    r.source == draft.source && r.target == draft.target && r.type == draft.type

/-- **Relate one requirement to another.** Two requirements may be related in several ways, but once
in each. -/
def createRelationship (store : Store) (stamp : Stamp) (draft : RelationshipDraft) :
    Except Failure (Relationship × Store) := do
  if draft.source = draft.target then throw (.invalid .selfRelationship)
  store.ensureRequirement draft.source
  store.ensureRequirement draft.target
  if store.hasRelationship draft then throw (.conflict .relationshipExists)
  let relationship : Relationship :=
    { id := stamp.id
      source := draft.source
      target := draft.target
      type := draft.type
      creator := draft.creator
      createdAt := stamp.now }
  return (relationship, { store with relationships := store.relationships ++ [relationship] })

end Store

end Planroom
