import Planroom.Artifact.Encoding
import Planroom.Http.CommentForm
import Planroom.Http.Percent
import Planroom.Http.Media
import Planroom.Work.Job

/-!
# Comments over HTTP

What the routes for comments do, as jobs. An artifact is named by its collection and by an identifier
or a reference; it is looked up before anything else is asked of the store.
-/

namespace Planroom.Http.Comments

/-- Ask the store for something; its failure is the job's, as a problem of the route. -/
def ask (a : Access) : Job Fault a.Result :=
  (Job.ask a).mapError .ofFailure

/-- Refuse the request, as what it is made of cannot be read. -/
def refuse {α : Type} (refusal : Refusal) : Job Fault α :=
  .fail (.refused refusal)

/-- The text of a part of the path, which is escaped there. -/
def readPart (part : String) : Job Fault String :=
  match percentDecode? part with
  | some text => .done text
  | none => refuse .unreadablePath

/-- The identifier that a part of the path is, in any of the four forms. -/
def readId (part : String) : Job Fault Uuid := do
  match Uuid.parse? (← readPart part) with
  | some id => return id
  | none => refuse .unreadablePath

/-- **The artifact that is named.** A collection that is unknown is told before an identifier that
cannot be read. -/
def findArtifact (collection identifier : String) : Job Fault (Kind × Uuid) := do
  match Kind.ofCollection? collection with
  | none =>
    .fail (.problem (.notFound "unknown_entity_kind"
      ("unknown entity kind '" ++ collection ++ "'")))
  | some kind =>
    match Lookup.parse? identifier with
    | none =>
      .fail (.problem (.badRequest "invalid_identifier"
        "identifier must be a canonical id or a reference such as EP-001"))
    | some lookup =>
      let entity ← ask (.getEntity kind lookup)
      return (kind, entity.id)

/-- A list of comments as it is told, with the number of them. -/
def listJson (comments : List Comment) : Json :=
  .object [("comments", .array (comments.map Comment.toJson)), ("count", .ofNat comments.length)]

/-- List the comments on an artifact. Everybody who is known may. -/
def list (collection artifact : String) : Job Fault Response := do
  let collection ← readPart collection
  let artifact ← readPart artifact
  let (kind, id) ← findArtifact collection artifact
  return .ok (listJson (← ask (.listComments kind id)))

/-- List the inline comments on an artifact that stand in its text. Those whose text is gone are
left out, though they are kept. -/
def listVisible (collection artifact : String) : Job Fault Response := do
  let collection ← readPart collection
  let artifact ← readPart artifact
  let (kind, id) ← findArtifact collection artifact
  return .ok (listJson (← ask (.listVisibleComments kind id)))

/-- The form in the body of a request: its content type is looked at first, then its length. Only
then is the body read. -/
def readForm (request : Request) : Job Fault CommentForm :=
  match request.plainHeader? "content-type" with
  | none => refuse .unknownMedia
  | some contentType =>
    if !Media.isJsonStrictly contentType then refuse .unknownMedia
    else if request.isTooLarge then refuse .tooLarge
    else (Job.ofExcept (CommentForm.read request.body)).mapError .refused

/-- Comment on an artifact. The form is read before the artifact is looked up, so its faults are
told first. -/
def create (user : User) (request : Request) (collection artifact : String) :
    Job Fault Response := do
  let collection ← readPart collection
  let artifact ← readPart artifact
  let form ← readForm request
  let (kind, id) ← findArtifact collection artifact
  let comment ← ask (.createComment
    { kind := kind
      artifact := id
      author := user.id
      content := form.content
      parent := form.parent
      selection := form.selection })
  return .created comment.toJson

/-- List the replies to a comment. The comment is named by its identifier alone, without the
artifact it hangs on. -/
def listReplies (comment : String) : Job Fault Response := do
  let id ← readId comment
  return .ok (listJson (← ask (.listReplies id)))

/-- Resolve a comment, or take that back. Whether the user may is for the store to say. -/
def setResolved (user : User) (resolved : Bool) (comment : String) : Job Fault Response := do
  let id ← readId comment
  let comment ← ask (.setResolved id resolved user)
  return .ok comment.toJson

end Planroom.Http.Comments
