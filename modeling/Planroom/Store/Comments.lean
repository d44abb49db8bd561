import Planroom.Store.Basic
import Planroom.Store.Rules

/-!
# Comments

A comment hangs on an artifact of the hierarchy. It may be a reply to another comment on the same
artifact, or be tied to a piece of the artifact's text, but not both.
-/

namespace Planroom

/-- **What a caller gives of a comment.** Whether the selection is complete has not been checked
yet. -/
structure CommentDraft where
  kind : Kind
  artifact : Uuid
  author : Uuid
  content : String
  parent : Option Uuid
  selection : Selection
  deriving DecidableEq, Repr

namespace Store

/-- The comment with an identifier. Comments have no references. -/
def findComment (store : Store) (id : Uuid) : Except Failure Comment :=
  match store.comments.find? (·.id == id) with
  | some comment => .ok comment
  | none => .error (.notFound .comment id.text)

/-- Fails unless the parent, where there is one, is on the same artifact and the reply is not
inline. A reply to a reply is allowed. -/
def checkParent (store : Store) (draft : CommentDraft) : Except Failure Unit := do
  match draft.parent with
  | none => return
  | some id =>
    let parent ← store.findComment id
    if !parent.isOn draft.kind draft.artifact then throw .parentElsewhere
    -- A reply is about what it replies to, and has no place of its own in the body.
    if !draft.selection.isEmpty then throw .incompleteSelection

/-- **Comment on an artifact.** A selection is compared with the body as it is now, so the anchor of
a new comment is always visible. -/
def createComment (store : Store) (stamp : Stamp) (draft : CommentDraft) :
    Except Failure (Comment × Store) := do
  if !Kind.resources.contains draft.kind then throw (.invalid .notCommentable)
  let content ← Rules.content draft.content
  let entity ← store.findEntity draft.kind (.byId draft.artifact)
  store.checkParent draft
  -- The body is the one that the artifact has now, not the one that the caller saw.
  let anchor ← draft.selection.anchor entity.body
  let comment : Comment :=
    { id := stamp.id
      kind := draft.kind
      artifact := draft.artifact
      author := draft.author
      content := content
      parent := draft.parent
      resolved := false
      anchor := anchor
      createdAt := stamp.now
      updatedAt := stamp.now }
  return (comment, { store with comments := store.comments ++ [comment] })

/-- **The comments on an artifact**, in the order in which they came. Replies are among them. -/
def listComments (store : Store) (kind : Kind) (artifact : Uuid) :
    Except Failure (List Comment) := do
  let _ ← store.findEntity kind (.byId artifact)
  return store.comments.filter (·.isOn kind artifact)

/-- Is the comment tied to a text that stands in the body now? A general comment is not. -/
def isVisibleInline (comment : Comment) : Bool :=
  match comment.anchor with
  | some anchor => anchor.visible
  | none => false

/-- **The inline comments on an artifact** whose text stands in the body now. -/
def listVisible (store : Store) (kind : Kind) (artifact : Uuid) :
    Except Failure (List Comment) := do
  return (← store.listComments kind artifact).filter isVisibleInline

/-- **The replies to a comment**, the direct ones only. -/
def listReplies (store : Store) (id : Uuid) : Except Failure (List Comment) := do
  let _ ← store.findComment id
  return store.comments.filter (·.parent == some id)

/-- The comments with the first one of this identifier changed. There are no two of one identifier,
so it is the one. -/
def replaceComment (id : Uuid) (f : Comment → Comment) : List Comment → List Comment
  | [] => []
  | comment :: rest =>
    if comment.id = id then f comment :: rest else comment :: replaceComment id f rest

/-- **Resolve a comment or open it again**, which its author and administrators may do. The time is
set even if the comment was resolved before. -/
def setResolved (store : Store) (now : Timestamp) (id : Uuid) (resolved : Bool) (actor : User) :
    Except Failure (Comment × Store) := do
  let comment ← store.findComment id
  if !actor.mayActFor comment.author then throw (.forbidden .notCommentAuthor)
  let mark (c : Comment) : Comment := { c with resolved := resolved, updatedAt := now }
  return (mark comment, { store with comments := replaceComment id mark store.comments })

end Store

end Planroom
