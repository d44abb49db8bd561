import Planroom.Artifact.Encoding
import Planroom.Json.Printer
import Planroom.Tool.Argument
import Planroom.Tool.Catalogue
import Planroom.Work.Job

/-!
# Calling tools

What each tool does with its arguments. A tool that changes something first asks that its caller may
do so; then the arguments are read one after the other, those that name artifacts and users being
looked up on the way; the last access is the one that the tool is there for.

A result is a sentence and the artifact, or the page of artifacts, as pretty JSON.
-/

namespace Planroom.Tool

/-- **What a tool answers**: a sentence for people, and the data that it is about. -/
structure Result where
  summary : String
  payload : Json
  deriving Repr

/-- A block of text in a result. Even data is sent as text here. -/
def textBlock (text : String) : Json :=
  .object [("text", .string text), ("type", .string "text")]

/-- A result in data. First comes the sentence, then the text of the data. -/
def Result.toJson (result : Result) : Json :=
  .object [("content", .array [textBlock result.summary, textBlock result.payload.pretty])]

/-! ## Steps -/

/-- Read an argument. A fault ends the call as one with bad parameters, before any access that would
have come after. -/
def argument {α : Type} (value : Except Argument.Fault α) : Job CallError α :=
  match value with
  | .ok value => .done value
  | .error fault => .fail (.invalidParams fault.message)

/-- Check something that fails like an access. The caller is told of it as if the store had answered
so. -/
def check {α : Type} (value : Except Failure α) : Job CallError α :=
  match value with
  | .ok value => .done value
  | .error failure => .fail (.failed failure)

/-- Ask the store. What other requests have done since the last access is there to be seen. -/
def ask (access : Access) : Job CallError access.Result :=
  (Job.ask access).asCall

/-- The argument that names an artifact. That it can be read does not mean that there is one. -/
def lookup (arguments : Arguments) (key : String) : Job CallError Lookup := do
  match Lookup.parse? (← argument (Argument.text arguments key)) with
  | some lookup => return lookup
  | none => .fail (.invalidParams (Argument.Fault.notIdentifier key).message)

/-- The identifier of the artifact that an argument names. The tools go on with it, so that all ways
to name an artifact come to the same from here on. -/
def entityId (arguments : Arguments) (key : String) (kind : Kind) : Job CallError Uuid := do
  let entity ← ask (.getEntity kind (← lookup arguments key))
  return entity.id

/-- The argument that names a steering document. -/
def documentKey : String := "steering_document_id"

/-- The identifier of the steering document that an argument names. Documents are not in the
hierarchy and have an access of their own. -/
def documentId (arguments : Arguments) : Job CallError Uuid := do
  let document ← ask (.getDocument (← lookup arguments documentKey))
  return document.id

/-- The user that an argument names, if it is given and not blank. A blank name is not looked up: it
stands for nobody. -/
def userId? (arguments : Arguments) (key : String) : Job CallError (Option Uuid) := do
  match ← argument (Argument.optionalText arguments key) with
  | none => return none
  | some text =>
    if Text.isBlankText text then return none
    else
      let user ← ask (.findUser text)
      return some user.id

/-- What is to become of the assignee: a blank argument unassigns, whereas one that is not given
leaves everything as it is. -/
def assigneeChange (arguments : Arguments) : Job CallError AssigneeChange := do
  match ← argument (Argument.optionalText arguments "assignee_id") with
  | none => return .keep
  | some text =>
    -- An empty text is how a client says that nobody is to be assigned.
    if Text.isBlankText text then return .unassign
    else
      let user ← ask (.findUser text)
      return .assign user.id

/-- A priority that must be given. One out of range fails as a value, not as an argument. -/
def priority (arguments : Arguments) : Job CallError Priority := do
  check (Priority.ofInt (← argument (Argument.integer arguments "priority")))

/-- A priority that may be given. -/
def priority? (arguments : Arguments) : Job CallError (Option Priority) := do
  match ← argument (Argument.optionalInteger arguments "priority") with
  | none => return none
  | some n => return some (← check (Priority.ofInt n))

/-- The part of a listing that is wanted. What is not given has the default of windows. -/
def window (arguments : Arguments) : Job CallError Window := do
  let limit ← argument (Argument.optionalCount arguments "limit")
  let offset ← argument (Argument.optionalCount arguments "offset")
  check (Window.make limit offset)

/-- The card of a new artifact. The order of these lines is the order in which faults are noticed.
-/
def cardDraft (arguments : Arguments) (creator : Uuid) : Job CallError CardDraft := do
  let title ← argument (Argument.text arguments "title")
  let description ← argument (Argument.optionalText arguments "description")
  let priority ← priority arguments
  let assignee ← userId? arguments "assignee_id"
  return ⟨title, description, priority, creator, assignee⟩

/-! ## The tools -/

namespace Action

/-- Create an epic. It belongs to nothing, so there is no artifact to look up. -/
def createEpic (context : Context) (arguments : Arguments) : Job CallError Result := do
  let creator ← check context.requireEditor
  let draft ← cardDraft arguments creator.id
  let epic ← ask (.createEpic draft)
  return ⟨"Created epic " ++ epic.card.reference ++ ": " ++ epic.card.title, epic.toJson⟩

/-- Create a user story. The epic is looked up before the card is read, so a missing one is told
first. -/
def createUserStory (context : Context) (arguments : Arguments) : Job CallError Result := do
  let creator ← check context.requireEditor
  let epic ← entityId arguments "epic_id" .epic
  let draft ← cardDraft arguments creator.id
  let story ← ask (.createStory epic draft)
  return ⟨"Created user story " ++ story.card.reference ++ ": " ++ story.card.title,
    story.toJson⟩

/-- Create acceptance criteria. They are not assigned, and have their author for a creator. -/
def createAcceptanceCriteria (context : Context) (arguments : Arguments) :
    Job CallError Result := do
  let author ← check context.requireEditor
  let story ← entityId arguments "user_story_id" .userStory
  let description ← argument (Argument.text arguments "description")
  let criteria ← ask (.createCriteria story description author.id)
  return ⟨"Created acceptance criteria " ++ criteria.reference, criteria.toJson⟩

/-- The acceptance criteria that a new requirement meets, if they are given and not blank. A
requirement need not meet any. -/
def criteriaId? (arguments : Arguments) : Job CallError (Option Uuid) := do
  match ← argument (Argument.optionalText arguments "acceptance_criteria_id") with
  | none => return none
  | some text =>
    if Text.isBlankText text then return none
    else return some (← entityId arguments "acceptance_criteria_id" .acceptanceCriteria)

/-- Create a requirement. The criteria come before the story, which alone must be named. -/
def createRequirement (context : Context) (arguments : Arguments) : Job CallError Result := do
  let creator ← check context.requireEditor
  -- The criteria are looked up first, although they are optional.
  let criteria ← criteriaId? arguments
  let story ← entityId arguments "user_story_id" .userStory
  let title ← argument (Argument.text arguments "title")
  let description ← argument (Argument.optionalText arguments "description")
  let priority ← priority arguments
  let type ← check (RequirementType.parse (← argument (Argument.text arguments "type")))
  let assignee ← userId? arguments "assignee_id"
  let card : CardDraft := ⟨title, description, priority, creator.id, assignee⟩
  let requirement ← ask (.createRequirement ⟨card, story, criteria, type⟩)
  return ⟨"Created requirement " ++ requirement.card.reference ++ ": " ++
    requirement.card.title, requirement.toJson⟩

/-- Change an artifact of the given kind. One definition serves three tools, which differ in the
kind and in the name of the argument. -/
def updateEntity (context : Context) (arguments : Arguments) (kind : Kind) (key : String) :
    Job CallError Result := do
  let _ ← check context.requireEditor
  -- The artifact is looked up before its new values are read, so a missing one is told first.
  let id ← entityId arguments key kind
  let title ← argument (Argument.optionalText arguments "title")
  let description ← argument (Argument.optionalText arguments "description")
  let priority ← priority? arguments
  let status ← argument (Argument.optionalText arguments "status")
  let assignee ← assigneeChange arguments
  let entity ← ask (.updateEntity kind id ⟨title, description, priority, status, assignee⟩)
  return ⟨"Updated " ++ Text.asciiLower kind.displayName ++ " " ++ entity.reference,
    entity.toJson⟩

/-- Relate one requirement to another. That the two are different is for the store to check. -/
def createRelationship (context : Context) (arguments : Arguments) : Job CallError Result := do
  let creator ← check context.requireEditor
  let source ← entityId arguments "source_requirement_id" .requirement
  let target ← entityId arguments "target_requirement_id" .requirement
  let type ← check
    (RelationshipType.parse (← argument (Argument.text arguments "relationship_type")))
  let relationship ← ask (.createRelationship ⟨source, target, type, creator.id⟩)
  return ⟨"Created " ++ relationship.type.title ++ " relationship", relationship.toJson⟩

/-- The kind that a search may be restricted to: its scheme or its collection, where a hyphen counts
as a low line. Steering documents are among them. -/
def searchKind (name : String) : Except Failure Kind :=
  let underscored (s : String) : String :=
    String.ofList (s.toList.map fun c => if c = '-' then '_' else c)
  let key := underscored (nameKey name)
  match Kind.all.find? fun kind => kind.scheme == key || underscored kind.collection == key with
  | some kind => .ok kind
  | none => .error (.invalid (.entityType name))

/-- The kinds with the given names. The first name that is none of them fails the search. -/
def searchKinds : List String → Except Failure (List Kind)
  | [] => .ok []
  | name :: names => do
    let kind ← searchKind name
    let kinds ← searchKinds names
    return kind :: kinds

/-- Search everything. The kinds are read before the query, so a bad name is told even of a blank
query. -/
def searchGlobal (arguments : Arguments) : Job CallError Result := do
  let names ← argument (Argument.textList arguments "entity_types")
  let kinds ← check (searchKinds names)
  let query ← argument (Argument.text arguments "query")
  let window ← window arguments
  let page ← ask (.search query kinds window)
  return ⟨"Found " ++ Text.decimal page.total ++ " results for '" ++ query ++ "'",
    page.toJson SearchHit.toJson⟩

/-- Search the requirements. It is the search of everything, restricted to one kind. -/
def searchRequirements (arguments : Arguments) : Job CallError Result := do
  let query ← argument (Argument.text arguments "query")
  let window ← window arguments
  let page ← ask (.search query [.requirement] window)
  return ⟨"Found " ++ Text.decimal page.total ++ " requirements for '" ++ query ++ "'",
    page.toJson SearchHit.toJson⟩

/-- List steering documents. Unlike a search it takes an empty query, which asks for all of them. -/
def listSteeringDocuments (arguments : Arguments) : Job CallError Result := do
  let creator ← userId? arguments "creator_id"
  let query ← argument (Argument.anyText arguments "query")
  let window ← window arguments
  let page ← ask (.listDocuments query creator window)
  return ⟨"Found " ++ Text.decimal page.total ++ " steering documents",
    page.toJson SteeringDocument.toJson⟩

/-- Create a steering document, without any epic: links are made by a tool of their own. -/
def createSteeringDocument (context : Context) (arguments : Arguments) :
    Job CallError Result := do
  let creator ← check context.requireEditor
  let title ← argument (Argument.text arguments "title")
  let description ← argument (Argument.optionalText arguments "description")
  let document ← ask (.createDocument title description creator.id)
  return ⟨"Created steering document " ++ document.reference ++ ": " ++ document.title,
    document.toJson⟩

/-- Fetch a steering document. As anybody may see it, nothing is asked of the caller. -/
def getSteeringDocument (arguments : Arguments) : Job CallError Result := do
  let document ← ask (.getDocument (← lookup arguments documentKey))
  return ⟨"Steering document " ++ document.reference ++ ": " ++ document.title,
    document.toJson⟩

/-- Change a steering document. That the caller may edit is checked here, that this document is the
caller's to edit by the store. -/
def updateSteeringDocument (context : Context) (arguments : Arguments) :
    Job CallError Result := do
  let actor ← check context.requireEditor
  let id ← documentId arguments
  let title ← argument (Argument.optionalText arguments "title")
  let description ← argument (Argument.optionalText arguments "description")
  let document ← ask (.updateDocument id title description actor)
  return ⟨"Updated steering document " ++ document.reference, document.toJson⟩

/-- What is answered about a link: the two ends by identifier, however they were named. -/
def linkPayload (document epic : Uuid) (linked : Bool) : Json :=
  .object [
    ("epic_id", epic.toJson),
    ("linked", .bool linked),
    ("steering_document_id", document.toJson)]

/-- Link a steering document to an epic. -/
def linkSteeringDocument (context : Context) (arguments : Arguments) : Job CallError Result := do
  let _ ← check context.requireEditor
  let document ← documentId arguments
  let epic ← entityId arguments "epic_id" .epic
  let _ ← ask (.linkDocument document epic)
  return ⟨"Linked steering document to epic", linkPayload document epic true⟩

/-- Take a link away. Both ends must exist even so, for they are looked up first. -/
def unlinkSteeringDocument (context : Context) (arguments : Arguments) :
    Job CallError Result := do
  let _ ← check context.requireEditor
  let document ← documentId arguments
  let epic ← entityId arguments "epic_id" .epic
  let _ ← ask (.unlinkDocument document epic)
  return ⟨"Unlinked steering document from epic", linkPayload document epic false⟩

/-- List the steering documents of an epic, all of them at once. -/
def getEpicSteeringDocuments (arguments : Arguments) : Job CallError Result := do
  let epic ← entityId arguments "epic_id" .epic
  let documents ← ask (.listEpicDocuments epic)
  return ⟨"Found " ++ Text.decimal documents.length ++ " steering documents for the epic",
    .array (documents.map SteeringDocument.toJson)⟩

end Action

/-- **Call a tool.** The tools that only read do not look at the context. -/
def call (tool : Tool) (context : Context) (arguments : Arguments) : Job CallError Result :=
  match tool with
  | .createEpic => Action.createEpic context arguments
  | .updateEpic => Action.updateEntity context arguments .epic "epic_id"
  | .createUserStory => Action.createUserStory context arguments
  | .updateUserStory => Action.updateEntity context arguments .userStory "user_story_id"
  | .createAcceptanceCriteria => Action.createAcceptanceCriteria context arguments
  | .createRequirement => Action.createRequirement context arguments
  | .updateRequirement => Action.updateEntity context arguments .requirement "requirement_id"
  | .createRelationship => Action.createRelationship context arguments
  | .searchGlobal => Action.searchGlobal arguments
  | .searchRequirements => Action.searchRequirements arguments
  | .listSteeringDocuments => Action.listSteeringDocuments arguments
  | .createSteeringDocument => Action.createSteeringDocument context arguments
  | .getSteeringDocument => Action.getSteeringDocument arguments
  | .updateSteeringDocument => Action.updateSteeringDocument context arguments
  | .linkSteeringDocument => Action.linkSteeringDocument context arguments
  | .unlinkSteeringDocument => Action.unlinkSteeringDocument context arguments
  | .getEpicSteeringDocuments => Action.getEpicSteeringDocuments arguments

/-- **Call the tool with a name.** A name that no tool has is an unknown method, whoever calls. -/
def callNamed (name : String) (context : Context) (arguments : Arguments) :
    Job CallError Result :=
  match ofName? name with
  | some tool => call tool context arguments
  | none => .fail (.methodNotFound ("Unknown tool: " ++ name))

end Planroom.Tool
