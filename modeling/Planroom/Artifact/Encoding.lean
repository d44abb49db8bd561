import Planroom.Artifact.Basic
import Planroom.Json.Basic

/-!
# Artifacts in data

How artifacts and comments are written as JSON. The members of each object stand in a fixed order;
what is absent is null, except that a comment without an anchor has no such member.
-/

namespace Planroom

/-- An identifier in data: its canonical text. -/
def Uuid.toJson (id : Uuid) : Json := .string id.text

/-- An optional identifier in data. The member is there in any case, and null where there is no
identifier. -/
def Uuid.toJson? : Option Uuid → Json
  | some id => id.toJson
  | none => .null

/-- A point in time in data: its text. -/
def Timestamp.toJson (t : Timestamp) : Json := .string t.text

/-- A priority in data. It is a number there, whereas states and types are names. -/
def Priority.toJson (p : Priority) : Json := .ofNat p.value

/-- Read a priority from data: an integer that is one. A number with a point is none, even if it is
whole. -/
def Priority.ofJson? : Json → Option Priority
  | .number (.int n) => (Priority.ofInt n).toOption
  | _ => none

/-- The members at the front of a card, up to its title and description. What an artifact belongs to
comes next, and differs from kind to kind. -/
def Card.head (card : Card) : Json.Members :=
  [("id", card.id.toJson), ("reference_id", .string card.reference)]

/-- A card's title, description and priority: what a caller writes and may change. -/
def Card.content (card : Card) : Json.Members :=
  [("title", .string card.title), ("description", .ofString? card.description),
    ("priority", card.priority.toJson)]

/-- The members at the end of a card: who made it, who has it, and since when. -/
def Card.tail (card : Card) : Json.Members :=
  [("creator_id", card.creator.toJson), ("assignee_id", Uuid.toJson? card.assignee),
    ("created_at", card.createdAt.toJson), ("last_modified", card.modifiedAt.toJson)]

/-- An epic in data. -/
def Epic.toJson (e : Epic) : Json :=
  .object (e.card.head ++ e.card.content ++ [("status", .string e.status.name)] ++ e.card.tail)

/-- A user story in data. -/
def UserStory.toJson (s : UserStory) : Json :=
  .object (s.card.head ++ [("epic_id", s.epic.toJson)] ++ s.card.content ++
    [("status", .string s.status.name)] ++ s.card.tail)

/-- Acceptance criteria in data. -/
def Criteria.toJson (c : Criteria) : Json :=
  .object [
    ("id", c.id.toJson),
    ("reference_id", .string c.reference),
    ("user_story_id", c.story.toJson),
    ("description", .string c.description),
    ("author_id", c.author.toJson),
    ("created_at", c.createdAt.toJson),
    ("last_modified", c.modifiedAt.toJson)]

/-- A requirement in data. -/
def Requirement.toJson (r : Requirement) : Json :=
  .object (r.card.head ++
    [("user_story_id", r.story.toJson), ("acceptance_criteria_id", Uuid.toJson? r.criteria)] ++
    r.card.content ++ [("status", .string r.status.name), ("type", .string r.type.name)] ++
    r.card.tail)

/-- An artifact of the hierarchy in data. The kind is not written in it: whoever asks has asked by
kind. -/
def Entity.toJson : Entity → Json
  | .epic e => e.toJson
  | .story s => s.toJson
  | .criteria c => c.toJson
  | .requirement r => r.toJson

/-- A relationship in data. -/
def Relationship.toJson (r : Relationship) : Json :=
  .object [
    ("id", r.id.toJson),
    ("source_requirement_id", r.source.toJson),
    ("target_requirement_id", r.target.toJson),
    ("relationship_type", .string r.type.name),
    ("created_by", r.creator.toJson),
    ("created_at", r.createdAt.toJson)]

/-- A steering document in data. -/
def SteeringDocument.toJson (d : SteeringDocument) : Json :=
  .object [
    ("id", d.id.toJson),
    ("reference_id", .string d.reference),
    ("title", .string d.title),
    ("description", .ofString? d.description),
    ("creator_id", d.creator.toJson),
    ("created_at", d.createdAt.toJson),
    ("last_modified", d.modifiedAt.toJson)]

/-- The member for an anchor, where there is one. A general comment lacks the member, which tells
the two apart. -/
def Comment.anchorMember (c : Comment) : Json.Members :=
  match c.anchor with
  | some anchor => [("anchor", anchor.toJson)]
  | none => []

/-- A comment in data. -/
def Comment.toJson (c : Comment) : Json :=
  .object ([
    ("id", c.id.toJson),
    ("entity_type", .string c.kind.scheme),
    ("entity_id", c.artifact.toJson),
    ("author_id", c.author.toJson),
    ("content", .string c.content),
    ("parent_comment_id", Uuid.toJson? c.parent),
    ("is_resolved", .bool c.resolved)] ++ c.anchorMember ++ [
    ("created_at", c.createdAt.toJson),
    ("updated_at", c.updatedAt.toJson)])

/-- A search hit in data. -/
def SearchHit.toJson (h : SearchHit) : Json :=
  .object [
    ("entity_type", .string h.kind.scheme),
    ("id", h.id.toJson),
    ("reference_id", .string h.reference),
    ("title", .string h.title),
    ("description", .ofString? h.description)]

end Planroom
