import Planroom.Store.Directory
import Planroom.Store.Operations

/-!
# Accesses

All that can be asked of a store, as data: what a request does is a sequence of accesses, each of
which the store answers at once and on its own.

* **Results** — `Access.Result` is what an access answers when it succeeds.
* **Performing** — `Store.perform` answers an access, a change by working on the store in place.
* **Repositories** — the accesses fall into five groups that may be served by different parties.
* **Writes** — `Access.isWrite` marks those that can change the store.
-/

namespace Planroom

/-- **Something that is asked of a store.** As data it can be asked what it is, which a call of a
function cannot. -/
inductive Access where
  | getEntity (kind : Kind) (lookup : Lookup)
  | listEntities (kind : Kind) (window : Window)
  | createEpic (draft : CardDraft)
  | createStory (epic : Uuid) (draft : CardDraft)
  | createCriteria (story : Uuid) (description : String) (author : Uuid)
  | createRequirement (draft : RequirementDraft)
  | updateEntity (kind : Kind) (id : Uuid) (changes : Changes)
  | createRelationship (draft : RelationshipDraft)
  | search (query : String) (kinds : List Kind) (window : Window)
  | listDocuments (query : String) (creator : Option Uuid) (window : Window)
  | createDocument (title : String) (description : Option String) (creator : Uuid)
  | getDocument (lookup : Lookup)
  | updateDocument (id : Uuid) (title description : Option String) (actor : User)
  | linkDocument (document epic : Uuid)
  | unlinkDocument (document epic : Uuid)
  | listEpicDocuments (epic : Uuid)
  | createComment (draft : CommentDraft)
  | listComments (kind : Kind) (artifact : Uuid)
  | listVisibleComments (kind : Kind) (artifact : Uuid)
  | listReplies (comment : Uuid)
  | setResolved (comment : Uuid) (resolved : Bool) (actor : User)
  | findUser (text : String)
  | activePrompt
  | listPrompts
  | getPrompt (name : String)
  deriving DecidableEq, Repr

/-- **Who serves an access.** The program may be given other services than the store, group by
group. -/
inductive Repository where
  | requirements
  | documents
  | comments
  | users
  | prompts
  deriving DecidableEq, Repr

namespace Access

/-- **What an access answers** when it succeeds. The type depends on the access, so an answer cannot
be taken for that of another. -/
abbrev Result : Access → Type
  | .getEntity .. => Entity
  | .listEntities .. => Page Entity
  | .createEpic .. => Epic
  | .createStory .. => UserStory
  | .createCriteria .. => Criteria
  | .createRequirement .. => Requirement
  | .updateEntity .. => Entity
  | .createRelationship .. => Relationship
  | .search .. => Page SearchHit
  | .listDocuments .. => Page SteeringDocument
  | .createDocument .. => SteeringDocument
  | .getDocument .. => SteeringDocument
  | .updateDocument .. => SteeringDocument
  | .linkDocument .. => Unit
  | .unlinkDocument .. => Unit
  | .listEpicDocuments .. => List SteeringDocument
  | .createComment .. => Comment
  | .listComments .. => List Comment
  | .listVisibleComments .. => List Comment
  | .listReplies .. => List Comment
  | .setResolved .. => Comment
  | .findUser .. => User
  | .activePrompt => Option Prompt
  | .listPrompts => List Prompt
  | .getPrompt .. => Prompt

/-- The group that an access belongs to. Every access belongs to one. -/
def repository : Access → Repository
  | .getEntity .. | .listEntities .. | .createEpic .. | .createStory .. | .createCriteria ..
  | .createRequirement .. | .updateEntity .. | .createRelationship .. | .search .. =>
    .requirements
  | .listDocuments .. | .createDocument .. | .getDocument .. | .updateDocument ..
  | .linkDocument .. | .unlinkDocument .. | .listEpicDocuments .. => .documents
  | .createComment .. | .listComments .. | .listVisibleComments .. | .listReplies ..
  | .setResolved .. => .comments
  | .findUser .. => .users
  | .activePrompt | .listPrompts | .getPrompt .. => .prompts

/-- **Can the access change the store?** It need not: it may fail, and a change may leave everything
as it was. -/
def isWrite : Access → Bool
  | .createEpic .. | .createStory .. | .createCriteria .. | .createRequirement ..
  | .updateEntity .. | .createRelationship .. | .createDocument .. | .updateDocument ..
  | .linkDocument .. | .unlinkDocument .. | .createComment .. | .setResolved .. => true
  | _ => false

end Access

namespace Store

/-- **Answer an access.** The stamp is there for every access, though not all of them use it. -/
def perform (store : Store) (stamp : Stamp) : (access : Access) → Performed access.Result
  | .getEntity kind lookup => .read store (store.findEntity kind lookup)
  | .listEntities kind window => .read store ((store.entities kind).map window.apply)
  | .createEpic draft => (Edit.createEpic stamp draft).run store
  | .createStory epic draft => (Edit.createStory stamp epic draft).run store
  | .createCriteria story description author =>
    (Edit.createCriteria stamp story description author).run store
  | .createRequirement draft => (Edit.createRequirement stamp draft).run store
  | .updateEntity kind id changes => (Edit.update stamp.now kind id changes).run store
  | .createRelationship draft => (Edit.createRelationship stamp draft).run store
  | .search query kinds window => .read store (.ok (store.search query kinds window))
  | .listDocuments query creator window =>
    .read store (.ok (store.listDocuments query creator window))
  | .createDocument title description creator =>
    (Edit.createDocument stamp title description creator).run store
  | .getDocument lookup => .read store (store.findDocument lookup)
  | .updateDocument id title description actor =>
    (Edit.updateDocument stamp.now id title description actor).run store
  | .linkDocument document epic => (Edit.link document epic).run store
  | .unlinkDocument document epic => (Edit.unlink document epic).run store
  | .listEpicDocuments epic => .read store (store.epicDocuments epic)
  | .createComment draft => (Edit.createComment stamp draft).run store
  | .listComments kind artifact => .read store (store.listComments kind artifact)
  | .listVisibleComments kind artifact => .read store (store.listVisible kind artifact)
  | .listReplies comment => .read store (store.listReplies comment)
  | .setResolved comment resolved actor =>
    (Edit.setResolved stamp.now comment resolved actor).run store
  | .findUser text => .read store (store.findUser text)
  | .activePrompt => .read store (.ok store.activePrompt)
  | .listPrompts => .read store (.ok store.prompts)
  | .getPrompt name => .read store (store.findPrompt name)

end Store

end Planroom
