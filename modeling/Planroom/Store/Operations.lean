import Planroom.Store.Comments
import Planroom.Store.Edit

/-!
# Operations in place

What a store does when it is asked for a change, step by step and in the order in which it is done.
What an operation comes to, all or nothing, is said by the function of the same name on stores:
`Store.createEpic` for `Edit.createEpic`, and so on.
-/

namespace Planroom.Edit

/-! ## Creating -/

/-- Create an epic. All that can fail comes before the reference is issued. -/
def createEpic (stamp : Stamp) (draft : CardDraft) : Edit Epic := do
  let title ← check (Rules.title draft.title)
  let description ← check (Rules.description draft.description)
  ask (·.ensureAssignee draft.assignee)
  -- From here on nothing fails, so no number is lost.
  let reference ← issue .epic
  let epic : Epic :=
    { card := draft.toCard stamp reference title description
      status := .backlog }
  modify fun store => { store with epics := store.epics.insert stamp.id epic }
  return epic

/-- Create a user story of an epic, which is asked for before the assignee is. -/
def createStory (stamp : Stamp) (epic : Uuid) (draft : CardDraft) : Edit UserStory := do
  let title ← check (Rules.title draft.title)
  let description ← check (Rules.description draft.description)
  ask (·.ensureEpic epic)
  ask (·.ensureAssignee draft.assignee)
  let reference ← issue .userStory
  let story : UserStory :=
    { card := draft.toCard stamp reference title description
      epic := epic
      status := .backlog }
  modify fun store => { store with stories := store.stories.insert stamp.id story }
  return story

/-- Create acceptance criteria of a user story. The description is checked before the store is
looked at. -/
def createCriteria (stamp : Stamp) (story : Uuid) (description : String) (author : Uuid) :
    Edit Criteria := do
  let description ← check (Rules.requiredDescription (some description))
  ask (·.ensureStory story)
  let reference ← issue .acceptanceCriteria
  let criteria : Criteria :=
    { id := stamp.id
      reference := reference
      story := story
      description := description
      author := author
      createdAt := stamp.now
      modifiedAt := stamp.now }
  modify fun store => { store with criteria := store.criteria.insert stamp.id criteria }
  return criteria

/-- Create a requirement of a user story. It has the most to be checked of all artifacts, and in the
same order: texts, parents, assignee. -/
def createRequirement (stamp : Stamp) (draft : RequirementDraft) : Edit Requirement := do
  let title ← check (Rules.title draft.card.title)
  let description ← check (Rules.description draft.card.description)
  ask (·.ensureStory draft.story)
  ask (·.ensureCriteriaOf draft.story draft.criteria)
  ask (·.ensureAssignee draft.card.assignee)
  let reference ← issue .requirement
  let requirement : Requirement :=
    { card := draft.card.toCard stamp reference title description
      story := draft.story
      criteria := draft.criteria
      status := .draft
      type := draft.type }
  modify fun store => { store with requirements := store.requirements.insert stamp.id requirement }
  return requirement

/-- Create a steering document. Only its texts can be refused. -/
def createDocument (stamp : Stamp) (title : String) (description : Option String)
    (creator : Uuid) : Edit SteeringDocument := do
  let title ← check (Rules.title title)
  let description ← check (Rules.description description)
  let reference ← issue .steeringDocument
  let document : SteeringDocument :=
    { id := stamp.id
      reference := reference
      title := title
      description := description
      creator := creator
      createdAt := stamp.now
      modifiedAt := stamp.now }
  modify fun store => { store with documents := store.documents.insert stamp.id document }
  return document

/-- Relate one requirement to another. It is asked whether they are different before it is asked
whether they exist. -/
def createRelationship (stamp : Stamp) (draft : RelationshipDraft) : Edit Relationship := do
  if draft.source = draft.target then fail (.invalid .selfRelationship)
  ask (·.ensureRequirement draft.source)
  ask (·.ensureRequirement draft.target)
  ask fun store =>
    if store.hasRelationship draft then .error (.conflict .relationshipExists) else .ok ()
  let relationship : Relationship :=
    { id := stamp.id
      source := draft.source
      target := draft.target
      type := draft.type
      creator := draft.creator
      createdAt := stamp.now }
  modify fun store => { store with relationships := store.relationships ++ [relationship] }
  return relationship

/-! ## Changing -/

/-- Change an epic: a copy is changed, and filed when all is well. Tells whether its body is
different. -/
def reviseEpic (now : Timestamp) (id : Uuid) (changes : Changes) : Edit (Entity × Bool) := do
  let epic ← ask fun store => Store.require .epic id (store.epics.get? id)
  let card ← check (epic.card.revise now changes)
  let status ← check (epic.status.revise changes.status)
  let revised : Epic := ⟨card, status⟩
  modify fun store => { store with epics := store.epics.insert id revised }
  return (.epic revised, epic.card.description != card.description)

/-- Change a user story, as an epic is changed. -/
def reviseStory (now : Timestamp) (id : Uuid) (changes : Changes) : Edit (Entity × Bool) := do
  let story ← ask fun store => Store.require .userStory id (store.stories.get? id)
  let card ← check (story.card.revise now changes)
  let status ← check (story.status.revise changes.status)
  let revised : UserStory := { story with card := card, status := status }
  modify fun store => { store with stories := store.stories.insert id revised }
  return (.story revised, story.card.description != card.description)

/-- Change a requirement, as an epic is changed, but for the names of its states. -/
def reviseRequirement (now : Timestamp) (id : Uuid) (changes : Changes) :
    Edit (Entity × Bool) := do
  let requirement ← ask fun store => Store.require .requirement id (store.requirements.get? id)
  let card ← check (requirement.card.revise now changes)
  let status ← check (requirement.status.revise changes.status)
  let revised : Requirement := { requirement with card := card, status := status }
  modify fun store => { store with requirements := store.requirements.insert id revised }
  return (.requirement revised, requirement.card.description != card.description)

/-- Change acceptance criteria. The fields that they lack are refused before anything is looked at.
-/
def reviseCriteria (now : Timestamp) (id : Uuid) (changes : Changes) : Edit (Entity × Bool) := do
  if changes.namesMoreThanDescription then fail (.invalid .descriptionOnly)
  let criteria ← ask fun store => Store.require .acceptanceCriteria id (store.criteria.get? id)
  let description ← check (Rules.requiredDescription changes.description)
  let revised : Criteria := { criteria with description := description, modifiedAt := now }
  modify fun store => { store with criteria := store.criteria.insert id revised }
  return (.criteria revised, criteria.description != description)

/-- Change an artifact of the hierarchy. This is the only way in which one is filed again. -/
def revise (now : Timestamp) (kind : Kind) (id : Uuid) (changes : Changes) :
    Edit (Entity × Bool) :=
  match kind with
  | .epic => reviseEpic now id changes
  | .userStory => reviseStory now id changes
  | .requirement => reviseRequirement now id changes
  | .acceptanceCriteria => reviseCriteria now id changes
  | .steeringDocument => fail (.invalid .outsideHierarchy)

/-- Change an artifact, and bring the anchors on it in line. Nothing fails any more once the
artifact is filed. -/
def update (now : Timestamp) (kind : Kind) (id : Uuid) (changes : Changes) : Edit Entity := do
  if changes.isEmpty then fail (.invalid .nothingToUpdate)
  ask (·.ensureNewAssignee changes.assignee)
  let (entity, bodyChanged) ← revise now kind id changes
  -- By now the artifact is filed; the comments are looked at in the store as it is.
  if bodyChanged then reconcile kind id entity.body
  return entity

/-- Change a steering document. Who may do so is known only after the document was found. -/
def updateDocument (now : Timestamp) (id : Uuid) (title description : Option String)
    (actor : User) : Edit SteeringDocument := do
  if title.isNone && description.isNone then fail (.invalid .nothingToUpdate)
  let document ← ask (·.findDocument (.byId id))
  -- That the actor may not edit this one is told even of a title that would be refused.
  if !actor.mayActFor document.creator then fail (.forbidden .notDocumentOwner)
  let newTitle ← check (reviseTitle document.title title)
  let newDescription ← check (reviseDescription document.description description)
  let revised : SteeringDocument :=
    { document with title := newTitle, description := newDescription, modifiedAt := now }
  modify fun store => { store with documents := store.documents.insert id revised }
  return revised

/-! ## Linking -/

/-- Link a document to an epic. The set of links itself tells whether the link is new. -/
def link (document epic : Uuid) : Edit Unit := do
  let _ ← ask (·.findDocument (.byId document))
  let _ ← ask (·.findEntity .epic (.byId epic))
  if !(← insertLink ⟨document, epic⟩) then fail (.conflict .linkExists)

/-- Take a link away. The set of links itself tells whether it was there. -/
def unlink (document epic : Uuid) : Edit Unit := do
  if !(← removeLink ⟨document, epic⟩) then
    fail (.notFound .documentLink (document.text ++ " -> " ++ epic.text))

/-! ## Commenting -/

/-- Comment on an artifact. The comment goes to the end, after all that came before it. -/
def createComment (stamp : Stamp) (draft : CommentDraft) : Edit Comment := do
  if !Kind.resources.contains draft.kind then fail (.invalid .notCommentable)
  let content ← check (Rules.content draft.content)
  let entity ← ask (·.findEntity draft.kind (.byId draft.artifact))
  ask (·.checkParent draft)
  let anchor ← check (draft.selection.anchor entity.body)
  let comment : Comment :=
    { id := stamp.id
      kind := draft.kind
      artifact := draft.artifact
      author := draft.author
      content := content
      parent := draft.parent
      resolved := false
      anchor := anchor
      createdAt := stamp.now
      updatedAt := stamp.now }
  modify fun store => { store with comments := store.comments ++ [comment] }
  return comment

/-- Resolve a comment or open it again. Its place among the comments stays the same. -/
def setResolved (now : Timestamp) (id : Uuid) (resolved : Bool) (actor : User) :
    Edit Comment := do
  let comment ← ask (·.findComment id)
  if !actor.mayActFor comment.author then fail (.forbidden .notCommentAuthor)
  let mark (c : Comment) : Comment := { c with resolved := resolved, updatedAt := now }
  modify fun store => { store with comments := Store.replaceComment id mark store.comments }
  return mark comment

end Planroom.Edit
