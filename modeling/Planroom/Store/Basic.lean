import Planroom.Prompt
import Planroom.Store.Table
import Planroom.User

/-!
# The store

Everything that is kept: the artifacts of each kind, relationships, links of steering documents,
comments, users and prompts, and how many references of each kind have been issued.

An operation that changes the store returns the store after it; one that fails returns none, so
that there is nothing of a failed operation to be kept. What an operation cannot know by itself, a
fresh identifier and the time, is its `Stamp`.
-/

namespace Planroom

/-- **What an operation is given from outside**: an identifier that is not yet in use, and the time.
With them an operation is a function, though identifiers are random and time passes. -/
structure Stamp where
  id : Uuid
  now : Timestamp
  deriving DecidableEq, Repr

/-- **How many references of each kind have been issued.** Nothing is ever deleted, but even if it
were, a number would not be used again. -/
structure Counters where
  epics : Nat
  stories : Nat
  criteria : Nat
  requirements : Nat
  documents : Nat
  deriving DecidableEq, Repr

namespace Counters

/-- Nothing has been issued. -/
def zero : Counters := ⟨0, 0, 0, 0, 0⟩

/-- The number issued of a kind. -/
def get (counters : Counters) : Kind → Nat
  | .epic => counters.epics
  | .userStory => counters.stories
  | .acceptanceCriteria => counters.criteria
  | .requirement => counters.requirements
  | .steeringDocument => counters.documents

/-- One more of a kind, and as many as before of the others. -/
def issue (counters : Counters) : Kind → Counters
  | .epic => { counters with epics := counters.epics + 1 }
  | .userStory => { counters with stories := counters.stories + 1 }
  | .acceptanceCriteria => { counters with criteria := counters.criteria + 1 }
  | .requirement => { counters with requirements := counters.requirements + 1 }
  | .steeringDocument => { counters with documents := counters.documents + 1 }

end Counters

/-- **Everything that is kept.** There is nothing but this behind the replies: two equal stores
answer alike. -/
structure Store where
  epics : Table Epic
  stories : Table UserStory
  criteria : Table Criteria
  requirements : Table Requirement
  documents : Table SteeringDocument
  relationships : List Relationship
  links : List Link
  comments : List Comment
  users : Table User
  prompts : List Prompt
  issued : Counters
  deriving DecidableEq, Repr

namespace Store

/-- **The store at the beginning**: users and prompts, and nothing else. Neither will ever change.
-/
def initial (users : List User) (prompts : List Prompt) : Store :=
  { epics := .empty
    stories := .empty
    criteria := .empty
    requirements := .empty
    documents := .empty
    relationships := []
    links := []
    comments := []
    users := users.foldl (fun table user => table.insert user.id user) .empty
    prompts := prompts
    issued := .zero }

/-- The reference that the next artifact of a kind will have. Numbers begin at one. -/
def nextReference (store : Store) (kind : Kind) : String :=
  Reference.ofNumber kind (store.issued.get kind + 1)

/-- **Find an artifact of the hierarchy.** A steering document is refused as such: it is not that it
is missing. -/
def findEntity (store : Store) (kind : Kind) (lookup : Lookup) : Except Failure Entity :=
  let found : Except Failure (Option Entity) := match kind with
    | .epic => .ok ((store.epics.find? lookup).map .epic)
    | .userStory => .ok ((store.stories.find? lookup).map .story)
    | .acceptanceCriteria => .ok ((store.criteria.find? lookup).map .criteria)
    | .requirement => .ok ((store.requirements.find? lookup).map .requirement)
    | .steeringDocument => .error (.invalid .outsideHierarchy)
  match found with
  | .error failure => .error failure
  | .ok (some entity) => .ok entity
  | .ok none => .error (.missing kind lookup.text)

/-- **All artifacts of a kind of the hierarchy**, in order. There may be none, which is no failure.
-/
def entities (store : Store) : Kind → Except Failure (List Entity)
  | .epic => .ok (store.epics.sorted.map .epic)
  | .userStory => .ok (store.stories.sorted.map .story)
  | .acceptanceCriteria => .ok (store.criteria.sorted.map .criteria)
  | .requirement => .ok (store.requirements.sorted.map .requirement)
  | .steeringDocument => .error (.invalid .outsideHierarchy)

/-- **Find a steering document.** It is found by the same two ways as the artifacts of the
hierarchy. -/
def findDocument (store : Store) (lookup : Lookup) : Except Failure SteeringDocument :=
  match store.documents.find? lookup with
  | some document => .ok document
  | none => .error (.missing .steeringDocument lookup.text)

/-- Fails unless there is such a user. Only its identifier counts here; names have been looked up
before. -/
def ensureUser (store : Store) (id : Uuid) : Except Failure Unit :=
  if store.users.contains id then .ok () else .error (.notFound .user id.text)

/-- Fails unless an assignee, where there is one, is a user. Having none is always allowed. -/
def ensureAssignee (store : Store) : Option Uuid → Except Failure Unit
  | some id => store.ensureUser id
  | none => .ok ()

end Store

end Planroom
