/-!
# Kinds of planning artifacts

Five kinds of artifacts carry references. Four of them form the hierarchy of requirements; they are
the ones that can be read as resources and commented on. Steering documents stand beside it.

A kind goes by several names: the label in front of its reference numbers, its collection in external
addresses, its scheme in internal ones, and its name in sentences.
-/

namespace Planroom

/-- **A kind of artifact.** -/
inductive Kind where
  | epic
  | userStory
  | acceptanceCriteria
  | requirement
  | steeringDocument
  deriving DecidableEq, Repr, Inhabited

namespace Kind

/-- All kinds. What shows artifacts of several kinds shows them in this order, whatever their
numbers are. -/
def all : List Kind := [.epic, .userStory, .acceptanceCriteria, .requirement, .steeringDocument]

/-- The kinds of the hierarchy, which are resources and can carry comments. Steering documents are
reached by tools only. -/
def resources : List Kind := [.epic, .userStory, .acceptanceCriteria, .requirement]

/-- The label in front of a reference number. No two kinds have the same, so a reference tells its
kind. -/
def label : Kind → String
  | .epic => "EP"
  | .userStory => "US"
  | .acceptanceCriteria => "AC"
  | .requirement => "REQ"
  | .steeringDocument => "STD"

/-- The name of the collection in external addresses and routes: the plural, with hyphens for
blanks. -/
def collection : Kind → String
  | .epic => "epics"
  | .userStory => "user-stories"
  | .acceptanceCriteria => "acceptance-criteria"
  | .requirement => "requirements"
  | .steeringDocument => "steering-documents"

/-- The scheme of internal addresses, which is also how the kind is written in data. Arguments and
members that name an artifact of the kind are called after it. -/
def scheme : Kind → String
  | .epic => "epic"
  | .userStory => "user_story"
  | .acceptanceCriteria => "acceptance_criteria"
  | .requirement => "requirement"
  | .steeringDocument => "steering_document"

/-- The name in sentences, with which a message about a missing artifact begins. -/
def displayName : Kind → String
  | .epic => "Epic"
  | .userStory => "User story"
  | .acceptanceCriteria => "Acceptance criteria"
  | .requirement => "Requirement"
  | .steeringDocument => "Steering document"

/-- The resource kind with this collection. Steering documents have a name for theirs too, but no
address leads there. -/
def ofCollection? (name : String) : Option Kind :=
  resources.find? (·.collection == name)

/-- The resource kind with this scheme, spelled exactly so: schemes are not compared by `nameKey`.
-/
def ofScheme? (name : String) : Option Kind :=
  resources.find? (·.scheme == name)

/-- The kind with this label, steering documents among them: they have references like the others.
-/
def ofLabel? (name : String) : Option Kind :=
  all.find? (·.label == name)

/-- Every kind is listed, so a property of the kinds may be checked along the list. -/
theorem mem_all (k : Kind) : k ∈ all := by
  cases k <;> decide

/-- The kinds of the hierarchy are all but the steering documents. -/
theorem mem_resources_iff {k : Kind} : k ∈ resources ↔ k ≠ .steeringDocument := by
  cases k <;> decide

@[simp] theorem ofLabel?_label (k : Kind) : ofLabel? k.label = some k := by
  cases k <;> decide

/-- A resource kind is found again by its collection. -/
theorem ofCollection?_collection : ∀ k ∈ resources, ofCollection? k.collection = some k := by
  decide

/-- A resource kind is found again by its scheme. -/
theorem ofScheme?_scheme : ∀ k ∈ resources, ofScheme? k.scheme = some k := by
  decide

end Kind

end Planroom
