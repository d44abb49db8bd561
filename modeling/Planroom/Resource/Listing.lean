import Planroom.Artifact.Uri
import Planroom.Work.Job

/-!
# Listing resources

The artifacts of the hierarchy are offered as resources: first the four collections, then the
artifacts of each kind, page by page, in the order of their numbers.
-/

namespace Planroom

/-- **What a client is told of a resource.** The address is what it asks with; the rest is for
people to choose by. -/
structure Descriptor where
  uri : String
  name : String
  title : Option String
  description : String
  deriving DecidableEq, Repr

/-- The form in which every resource is written, collections and artifacts alike. -/
def Descriptor.mimeType : String := "application/json"

namespace Descriptor

/-- What is told of a collection. It does not depend on what is stored, so an empty collection is
listed too. -/
def ofCollection (kind : Kind) : Descriptor :=
  { uri := ResourceUri.ofCollection kind
    name := kind.collection
    title := none
    description := "All " ++ Text.asciiLower kind.displayName ++ " records" }

/-- What is told of an artifact. The address is the external one, with the reference in it. -/
def ofEntity (entity : Entity) : Descriptor :=
  { uri := ResourceUri.ofCollection entity.kind ++ "/" ++ entity.reference
    name := entity.reference
    title := some entity.title
    description := entity.kind.displayName ++ " " ++ entity.reference }

/-- A descriptor in data, its members in alphabetical order. -/
def toJson (d : Descriptor) : Json :=
  .object ([
    ("description", .string d.description),
    ("mimeType", .string mimeType),
    ("name", .string d.name)] ++
    (match d.title with
      | some title => [("title", Json.string title)]
      | none => []) ++
    [("uri", .string d.uri)])

end Descriptor

namespace Resource

/-- The number of artifacts on a page: as many as a page may have. -/
def pageSize : Nat := Window.maxLimit

/-- How often an offset can be moved on by a page: it is a 32-bit number. A kind with too many
artifacts for that breaks the listing off, which then has no result. -/
def maxMoves : Nat := (Nat.pow 2 32 - 1) / pageSize

/-- The artifacts of a kind from an offset on, which can be moved on so many times. It is moved on
before the page is looked at, so the last move may break the listing off though no page follows. -/
def listFrom (kind : Kind) : Nat → Nat → Job Failure (List Descriptor)
  -- The page is asked for even though nothing can come of it.
  | 0, offset => do
    let _ ← Job.ask (.listEntities kind ⟨pageSize, offset⟩)
    Job.abort .listingOverflow
  | moves + 1, offset => do
    let page ← Job.ask (.listEntities kind ⟨pageSize, offset⟩)
    let here := page.data.map Descriptor.ofEntity
    if page.data.isEmpty || page.total ≤ offset + pageSize then return here
    else return here ++ (← listFrom kind moves (offset + pageSize))

/-- The artifacts of several kinds, kind by kind. Others may work on the store between two pages. -/
def listKinds : List Kind → Job Failure (List Descriptor)
  | [] => return []
  | kind :: kinds => do
    let here ← listFrom kind maxMoves 0
    return here ++ (← listKinds kinds)

/-- **All resources**: the collections, then the artifacts. There are no pages for the client, who
gets them all at once. -/
def list : Job Failure (List Descriptor) := do
  return Kind.resources.map Descriptor.ofCollection ++ (← listKinds Kind.resources)

end Resource

end Planroom
