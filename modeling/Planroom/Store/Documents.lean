import Planroom.Store.Search
import Planroom.Store.Update

/-!
# Steering documents

Steering documents are created, listed and changed on their own; links join them to epics. A link is
there or not: the links are kept in a fixed order, so that taking away what was put in gives back the
same store.
-/

namespace Planroom

/-- Do the links come in this order: by document and then by epic? Identifiers are compared digit by
digit. -/
def Link.before (a b : Link) : Bool :=
  decide (a.document.digits ++ a.epic.digits < b.document.digits ++ b.epic.digits)

/-- The links with one more, in its place. The place depends on the links and not on when they were
made. -/
def Link.insertIn (link : Link) : List Link → List Link
  | [] => [link]
  | other :: rest =>
    if link.before other then link :: other :: rest else other :: link.insertIn rest

/-- There are the links from before and the one that was put in. -/
theorem Link.mem_insertIn {link other : Link} {links : List Link} :
    other ∈ link.insertIn links ↔ other = link ∨ other ∈ links := by
  induction links with
  | nil => simp [insertIn]
  | cons first rest ih =>
    rw [insertIn]
    split
    · exact List.mem_cons
    · rw [List.mem_cons, ih, List.mem_cons, or_left_comm]

namespace Store

/-- Is this one of the documents that a listing asks for? An empty needle asks for all of them. -/
def listsDocument (needle : String) (creator : Option Uuid) (document : SteeringDocument) : Bool :=
  (match creator with
    | some id => document.creator == id
    | none => true) &&
  (needle.isEmpty || document.toHit.matches needle)

/-- **List steering documents**: those in which the query is found, all of them for a blank one. The
query is compared as in a search. -/
def listDocuments (store : Store) (query : String) (creator : Option Uuid) (window : Window) :
    Page SteeringDocument :=
  window.apply (store.documents.sorted.filter (listsDocument (needleOf query) creator))

/-- **Create a steering document.** It is checked less than an artifact of the hierarchy, for it
belongs to nothing and nobody is assigned to it. -/
def createDocument (store : Store) (stamp : Stamp) (title : String) (description : Option String)
    (creator : Uuid) : Except Failure (SteeringDocument × Store) := do
  let title ← Rules.title title
  let description ← Rules.description description
  let document : SteeringDocument :=
    { id := stamp.id
      reference := store.nextReference .steeringDocument
      title := title
      description := description
      creator := creator
      createdAt := stamp.now
      modifiedAt := stamp.now }
  return (document,
    { store with
      documents := store.documents.insert stamp.id document
      issued := store.issued.issue .steeringDocument })

/-- **Change a steering document**, which its creator and administrators may do. Whether the actor
may is checked after the document was found. -/
def updateDocument (store : Store) (now : Timestamp) (id : Uuid) (title description : Option String)
    (actor : User) : Except Failure (SteeringDocument × Store) := do
  if title.isNone && description.isNone then throw (.invalid .nothingToUpdate)
  let document ← store.findDocument (.byId id)
  if !actor.mayActFor document.creator then throw (.forbidden .notDocumentOwner)
  let newTitle ← reviseTitle document.title title
  let newDescription ← reviseDescription document.description description
  let revised : SteeringDocument :=
    { document with title := newTitle, description := newDescription, modifiedAt := now }
  return (revised, { store with documents := store.documents.insert id revised })

/-- **Link a document to an epic.** Linking them again is a clash, and not a change that changes
nothing. -/
def link (store : Store) (document epic : Uuid) : Except Failure Store := do
  let _ ← store.findDocument (.byId document)
  let _ ← store.findEntity .epic (.byId epic)
  let new : Link := ⟨document, epic⟩
  if store.links.contains new then throw (.conflict .linkExists)
  return { store with links := new.insertIn store.links }

/-- **Take a link away.** Whether its ends exist is not asked: there is no link without them. -/
def unlink (store : Store) (document epic : Uuid) : Except Failure Store :=
  let old : Link := ⟨document, epic⟩
  if store.links.contains old then .ok { store with links := store.links.erase old }
  else .error (.notFound .documentLink (document.text ++ " -> " ++ epic.text))

/-- The documents that are linked to an epic, in the order of the links. A link whose document is
not there would be passed over. -/
def linkedDocuments (store : Store) (epic : Uuid) : List SteeringDocument :=
  (store.links.filter (·.epic == epic)).filterMap fun link => store.documents.get? link.document

/-- **The documents of an epic**, by number, as all listings have them. -/
def epicDocuments (store : Store) (epic : Uuid) : Except Failure (List SteeringDocument) := do
  let _ ← store.findEntity .epic (.byId epic)
  return (store.linkedDocuments epic).mergeSort Table.inOrder

end Store

end Planroom
