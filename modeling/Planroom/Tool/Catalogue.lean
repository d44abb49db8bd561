import Planroom.Json.Basic

/-!
# Tools

The tools that a client may call, in the order in which they are listed. Each has a name, a sentence
about it, and the fields of its argument; some only read.
-/

namespace Planroom

/-- **A tool.** A closed type of them lets every function of tools be checked for having left none
out. -/
inductive Tool where
  | createEpic
  | updateEpic
  | createUserStory
  | updateUserStory
  | createAcceptanceCriteria
  | createRequirement
  | updateRequirement
  | createRelationship
  | searchGlobal
  | searchRequirements
  | listSteeringDocuments
  | createSteeringDocument
  | getSteeringDocument
  | updateSteeringDocument
  | linkSteeringDocument
  | unlinkSteeringDocument
  | getEpicSteeringDocuments
  deriving DecidableEq, Repr

namespace Tool

/-- All tools, in the order in which they are listed. It is the same for every caller. -/
def all : List Tool :=
  [.createEpic, .updateEpic, .createUserStory, .updateUserStory, .createAcceptanceCriteria,
    .createRequirement, .updateRequirement, .createRelationship, .searchGlobal,
    .searchRequirements, .listSteeringDocuments, .createSteeringDocument, .getSteeringDocument,
    .updateSteeringDocument, .linkSteeringDocument, .unlinkSteeringDocument,
    .getEpicSteeringDocuments]

/-- The name under which a tool is called. What the tool is about can be read off it, as the audit
does. -/
def name : Tool → String
  | .createEpic => "create_epic"
  | .updateEpic => "update_epic"
  | .createUserStory => "create_user_story"
  | .updateUserStory => "update_user_story"
  | .createAcceptanceCriteria => "create_acceptance_criteria"
  | .createRequirement => "create_requirement"
  | .updateRequirement => "update_requirement"
  | .createRelationship => "create_relationship"
  | .searchGlobal => "search_global"
  | .searchRequirements => "search_requirements"
  | .listSteeringDocuments => "list_steering_documents"
  | .createSteeringDocument => "create_steering_document"
  | .getSteeringDocument => "get_steering_document"
  | .updateSteeringDocument => "update_steering_document"
  | .linkSteeringDocument => "link_steering_document_to_epic"
  | .unlinkSteeringDocument => "unlink_steering_document_from_epic"
  | .getEpicSteeringDocuments => "get_epic_steering_documents"

/-- The tool with a name. Names are compared as they stand, case included. -/
def ofName? (name : String) : Option Tool :=
  all.find? (·.name == name)

/-- The sentence about a tool, for whoever chooses among them. -/
def description : Tool → String
  | .createEpic => "Create a new epic. Priority is 1 (critical) to 4 (low)."
  | .updateEpic => "Update an epic by id or reference (EP-001). An empty assignee_id unassigns."
  | .createUserStory => "Create a user story inside an epic."
  | .updateUserStory =>
    "Update a user story by id or reference (US-001). An empty assignee_id unassigns."
  | .createAcceptanceCriteria => "Add an acceptance criterion to a user story."
  | .createRequirement =>
    "Create a requirement under a user story. Type is one of Functional, Non-Functional, " ++
      "Business Rule, Interface, Data."
  | .updateRequirement =>
    "Update a requirement by id or reference (REQ-001). Status is Draft, Active or Obsolete."
  | .createRelationship =>
    "Link two requirements: depends_on, blocks, relates_to, conflicts_with or derives_from."
  | .searchGlobal =>
    "Search epics, user stories, acceptance criteria, requirements and steering documents."
  | .searchRequirements => "Search requirements by reference, title or description."
  | .listSteeringDocuments => "List steering documents. Pass an empty query to list all."
  | .createSteeringDocument => "Create a steering document."
  | .getSteeringDocument => "Fetch a steering document by id or reference (STD-001)."
  | .updateSteeringDocument =>
    "Update a steering document. Only its creator or an administrator may do so."
  | .linkSteeringDocument => "Attach a steering document to an epic."
  | .unlinkSteeringDocument => "Detach a steering document from an epic."
  | .getEpicSteeringDocuments => "List the steering documents linked to an epic."

/-- **Does the tool only read?** The listing says so, and for a commenter only these succeed. -/
def isReadOnly : Tool → Bool
  | .searchGlobal | .searchRequirements | .listSteeringDocuments | .getSteeringDocument
  | .getEpicSteeringDocuments => true
  | _ => false

/-! ## Fields -/

/-- **What a field holds.** Nothing finer is said of a field: which texts are names of a state, say,
is for its sentence to tell. -/
inductive FieldType where
  | text
  | integer
  | textList
  deriving DecidableEq, Repr

/-- **A field of a tool's argument.** It is what a client is told, and not how the tool reads its
argument. -/
structure Field where
  name : String
  type : FieldType
  required : Bool
  description : Option String
  deriving DecidableEq, Repr

namespace Field

/-- A text that must be given. -/
def text (name : String) : Field := ⟨name, .text, true, none⟩

/-- A text that may be given. Null counts as not given. -/
def text? (name : String) : Field := ⟨name, .text, false, none⟩

/-- An integer that must be given. -/
def integer (name : String) : Field := ⟨name, .integer, true, none⟩

/-- An integer that may be given. -/
def integer? (name : String) : Field := ⟨name, .integer, false, none⟩

/-- The members that tell what a field holds. -/
def typeMembers : FieldType → Json.Members
  | .text => [("type", .string "string")]
  | .integer => [("type", .string "integer")]
  | .textList => [("items", .object [("type", .string "string")]), ("type", .string "array")]

/-- The schema of a field. A field that may be left out may also be null, and the schema says so. -/
def schema (field : Field) : Json :=
  .ofMembers (
    (match field.description with
      | some s => [("description", Json.string s)]
      | none => []) ++
    (if field.required then [] else [("nullable", .bool true)]) ++
    typeMembers field.type)

end Field

/-- The fields that every change of an artifact may have. Only the artifact must be named, for a
change may leave any field alone. -/
def updateFields (id : String) : List Field :=
  [.text id, .text? "title", .text? "description", .integer? "priority", .text? "status",
    .text? "assignee_id"]

/-- The fields that say which part of a listing is wanted. -/
def windowFields : List Field :=
  [.integer? "limit", .integer? "offset"]

/-- **The fields of a tool's argument.** Those that are required are listed in this order, and the
schemas by name. -/
def fields : Tool → List Field
  | .createEpic =>
    [.text "title", .text? "description", .integer "priority",
      ⟨"assignee_id", .text, false, some "User id or username."⟩]
  | .updateEpic => updateFields "epic_id"
  | .createUserStory =>
    [.text "epic_id", .text "title", .text? "description", .integer "priority",
      .text? "assignee_id"]
  | .updateUserStory => updateFields "user_story_id"
  | .createAcceptanceCriteria => [.text "user_story_id", .text "description"]
  | .createRequirement =>
    [.text "user_story_id", .text? "acceptance_criteria_id", .text "title",
      .text? "description", .integer "priority", .text "type", .text? "assignee_id"]
  | .updateRequirement => updateFields "requirement_id"
  | .createRelationship =>
    [.text "source_requirement_id", .text "target_requirement_id", .text "relationship_type"]
  | .searchGlobal =>
    [.text "query",
      ⟨"entity_types", .textList, false,
        some ("Restrict to: epic, user_story, acceptance_criteria, requirement, " ++
          "steering_document.")⟩] ++ windowFields
  | .searchRequirements => .text "query" :: windowFields
  | .listSteeringDocuments => [.text "query", .text? "creator_id"] ++ windowFields
  | .createSteeringDocument => [.text "title", .text? "description"]
  | .getSteeringDocument => [.text "steering_document_id"]
  | .updateSteeringDocument =>
    [.text "steering_document_id", .text? "title", .text? "description"]
  | .linkSteeringDocument | .unlinkSteeringDocument =>
    [.text "steering_document_id", .text "epic_id"]
  | .getEpicSteeringDocuments => [.text "epic_id"]

/-- The names of the fields that must be given, in the order of the fields. -/
def requiredFields (tool : Tool) : List String :=
  (tool.fields.filter (·.required)).map (·.name)

/-- The schema of a tool's argument. -/
def inputSchema (tool : Tool) : Json :=
  .object [
    ("properties", .ofMembers (tool.fields.map fun field => (field.name, field.schema))),
    ("required", .array (tool.requiredFields.map .string)),
    ("type", .string "object")]

/-- **What a client is told of a tool.** -/
def toJson (tool : Tool) : Json :=
  .object (
    (if tool.isReadOnly then
      [("annotations", Json.object [("readOnlyHint", .bool true)])] else []) ++ [
    ("description", .string tool.description),
    ("inputSchema", tool.inputSchema),
    ("name", .string tool.name)])

/-- Every tool is listed, so a property of the tools may be checked along the list. -/
theorem mem_all (tool : Tool) : tool ∈ all := by
  cases tool <;> decide

/-- Every tool is found by its name, which is to say that no name is used twice. -/
theorem ofName?_name (tool : Tool) : ofName? tool.name = some tool := by
  cases tool <;> decide

end Tool

end Planroom
