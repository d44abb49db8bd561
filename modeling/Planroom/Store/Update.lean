import Planroom.Store.Create

/-!
# Changing artifacts

A change names the fields that are to be different. All of them are checked before any of them is
made. When the text that inline comments point into has changed, every anchor on the artifact is
brought in line with it.
-/

namespace Planroom

/-- **What is to become of an assignee.** That nothing is to become of it differs from its being
taken away. -/
inductive AssigneeChange where
  | keep
  | unassign
  | assign (user : Uuid)
  deriving DecidableEq, Repr

/-- The assignee after a change. To assign the same user again is a change that changes nothing. -/
def AssigneeChange.apply : AssigneeChange → Option Uuid → Option Uuid
  | .keep, assignee => assignee
  | .unassign, _ => none
  | .assign user, _ => some user

/-- **The fields that are to be different.** A field that is not named stays. The state is still a
text, as its names depend on the kind. -/
structure Changes where
  title : Option String
  description : Option String
  priority : Option Priority
  status : Option String
  assignee : AssigneeChange
  deriving DecidableEq, Repr

namespace Changes

/-- No field at all. A change like this is refused. -/
def none : Changes := ⟨Option.none, Option.none, Option.none, Option.none, .keep⟩

/-- Does the change name a field that acceptance criteria do not have? They are refused it, even
where it would be harmless. -/
def namesMoreThanDescription (changes : Changes) : Bool :=
  changes.title.isSome || changes.priority.isSome || changes.status.isSome ||
    changes.assignee != .keep

/-- Does the change name no field? Naming one with the value it has is not the same. -/
def isEmpty (changes : Changes) : Bool :=
  !changes.namesMoreThanDescription && changes.description.isNone

end Changes

/-- The kept form of a title that is given, else the old one, which has been checked when it was
given. -/
def reviseTitle (old : String) : Option String → Except Failure String
  | some new => Rules.title new
  | none => .ok old

/-- The kept form of a description that is given, else the old one. A blank one that is given takes
the description away. -/
def reviseDescription (old : Option String) : Option String → Except Failure (Option String)
  | some new => Rules.description (some new)
  | none => .ok old

/-- **A card after a change.** The time is set in any case, also if every field is given the value
it has. -/
def Card.revise (card : Card) (now : Timestamp) (changes : Changes) : Except Failure Card := do
  let title ← reviseTitle card.title changes.title
  let description ← reviseDescription card.description changes.description
  return { card with
    title := title
    description := description
    priority := changes.priority.getD card.priority
    assignee := changes.assignee.apply card.assignee
    modifiedAt := now }

/-- The state of an epic or a user story after a change. Every state may follow every other one. -/
def WorkflowStatus.revise (status : WorkflowStatus) :
    Option String → Except Failure WorkflowStatus
  | some new => WorkflowStatus.parse new
  | none => .ok status

/-- The state of a requirement after a change, which is read from other names. -/
def RequirementStatus.revise (status : RequirementStatus) :
    Option String → Except Failure RequirementStatus
  | some new => RequirementStatus.parse new
  | none => .ok status

/-- **What happened to the anchor of a comment.** Notes are for the log; nobody is answered with
them. -/
structure AnchorNote where
  comment : Uuid
  change : AnchorChange
  deriving DecidableEq, Repr

/-- A comment whose anchor, where it has one, is in line with a changed body. Nothing else of the
comment changes, its time included. -/
def Comment.reconcile (comment : Comment) (body : String) : Comment :=
  match comment.anchor with
  | some anchor => { comment with anchor := some (anchor.reconcile body).2 }
  | none => comment

/-- What happens to the comment's anchor when the body changes. An anchor that stays where it is has
a note too. -/
def Comment.note? (comment : Comment) (body : String) : Option AnchorNote :=
  comment.anchor.map fun anchor => ⟨comment.id, (anchor.reconcile body).1⟩

namespace Store

/-- **An artifact after a change**, and whether the text that comments point into is different. The
store has the artifact in it, but the anchors are not yet in line. -/
structure Revision where
  entity : Entity
  store : Store
  bodyChanged : Bool

/-- Find a record that is to be changed. It is named by its identifier, as it is in the failure. -/
def require {α : Type} (kind : Kind) (id : Uuid) : Option α → Except Failure α
  | some value => .ok value
  | none => .error (.missing kind id.text)

/-- Change an epic. Both the card and the state are checked before the epic is filed. -/
def reviseEpic (store : Store) (now : Timestamp) (id : Uuid) (changes : Changes) :
    Except Failure Revision := do
  let epic ← require .epic id (store.epics.get? id)
  let card ← epic.card.revise now changes
  let status ← epic.status.revise changes.status
  let revised : Epic := ⟨card, status⟩
  return ⟨.epic revised, { store with epics := store.epics.insert id revised },
    epic.card.description != card.description⟩

/-- Change a user story. The epic it belongs to stays the same. -/
def reviseStory (store : Store) (now : Timestamp) (id : Uuid) (changes : Changes) :
    Except Failure Revision := do
  let story ← require .userStory id (store.stories.get? id)
  let card ← story.card.revise now changes
  let status ← story.status.revise changes.status
  let revised : UserStory := { story with card := card, status := status }
  return ⟨.story revised, { store with stories := store.stories.insert id revised },
    story.card.description != card.description⟩

/-- Change a requirement. Its type, its story and its criteria stay the same. -/
def reviseRequirement (store : Store) (now : Timestamp) (id : Uuid) (changes : Changes) :
    Except Failure Revision := do
  let requirement ← require .requirement id (store.requirements.get? id)
  let card ← requirement.card.revise now changes
  let status ← requirement.status.revise changes.status
  let revised : Requirement := { requirement with card := card, status := status }
  return ⟨.requirement revised,
    { store with requirements := store.requirements.insert id revised },
    requirement.card.description != card.description⟩

/-- Change acceptance criteria, which have a description only. That is checked before they are
looked for. -/
def reviseCriteria (store : Store) (now : Timestamp) (id : Uuid) (changes : Changes) :
    Except Failure Revision := do
  if changes.namesMoreThanDescription then throw (.invalid .descriptionOnly)
  let criteria ← require .acceptanceCriteria id (store.criteria.get? id)
  let description ← Rules.requiredDescription changes.description
  let revised : Criteria := { criteria with description := description, modifiedAt := now }
  return ⟨.criteria revised, { store with criteria := store.criteria.insert id revised },
    criteria.description != description⟩

/-- Change an artifact of the hierarchy. -/
def revise (store : Store) (now : Timestamp) (kind : Kind) (id : Uuid) (changes : Changes) :
    Except Failure Revision :=
  match kind with
  | .epic => store.reviseEpic now id changes
  | .userStory => store.reviseStory now id changes
  | .requirement => store.reviseRequirement now id changes
  | .acceptanceCriteria => store.reviseCriteria now id changes
  | .steeringDocument => .error (.invalid .outsideHierarchy)

/-- Fails unless a new assignee is a user. An old one need not be looked up again, as users stay. -/
def ensureNewAssignee (store : Store) : AssigneeChange → Except Failure Unit
  | .assign user => store.ensureUser user
  | _ => .ok ()

/-- The comments with those on an artifact brought in line with its changed body. Their order stays
the same, and so do the comments on anything else. -/
def reconcileComments (comments : List Comment) (kind : Kind) (id : Uuid) (body : String) :
    List Comment :=
  comments.map fun comment => if comment.isOn kind id then comment.reconcile body else comment

/-- What happens to the anchors on an artifact when its body changes, in the order of the comments.
-/
def anchorNotes (comments : List Comment) (kind : Kind) (id : Uuid) (body : String) :
    List AnchorNote :=
  (comments.filter (·.isOn kind id)).filterMap (·.note? body)

/-- **Change an artifact**, and bring the anchors on it in line. If the body is the same, no anchor
is looked at. -/
def update (store : Store) (now : Timestamp) (kind : Kind) (id : Uuid) (changes : Changes) :
    Except Failure (Entity × Store × List AnchorNote) := do
  if changes.isEmpty then throw (.invalid .nothingToUpdate)
  store.ensureNewAssignee changes.assignee
  let revision ← store.revise now kind id changes
  -- The anchors are read against the new body, and the notes are made from the old comments.
  if revision.bodyChanged then
    let body := revision.entity.body
    return (revision.entity,
      { revision.store with
        comments := reconcileComments revision.store.comments kind id body },
      anchorNotes revision.store.comments kind id body)
  else return (revision.entity, revision.store, [])

end Store

end Planroom
