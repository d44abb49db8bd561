import Planroom.Http.Site
import Planroom.Proofs.Work.Errand

/-!
# Requests for comments run errands

What a route for comments does is one job, and that job is an errand: the path and the form are
read, the artifact is looked up if one is named, and the last access is one of those for comments.

* **Jobs** — `Action.job?` is the job of an action, which `Site.act` runs.
* **Errands** — `Action.job?_runsErrandFor`, from one lemma for each of the jobs. Only the user who
  makes the request is the author of what is said in it.
-/

namespace Planroom.Http

open Job

/-- **The job of an action.** To speak the protocol is none: it may take several jobs at once, and
has a time limit. -/
def Action.job? (user : User) (request : Request) : Action → Option (Job Fault Response)
  | .rpc => none
  | .replies comment => some (Comments.listReplies comment)
  | .resolve comment => some (Comments.setResolved user true comment)
  | .unresolve comment => some (Comments.setResolved user false comment)
  | .comments collection artifact =>
    match request.verb with
    | .post => some (Comments.create user request collection artifact)
    | _ => some (Comments.list collection artifact)
  | .visibleComments collection artifact => some (Comments.listVisible collection artifact)

/-- **The job is what is run** for an action. What is proved of the job holds of the site through
this. -/
theorem Site.act_of_job {site : Site} {correlationId : String} {user : User} {action : Action}
    {request : Request} {world : World} {job : Job Fault Response}
    (h : action.job? user request = some job) :
    site.act correlationId user action request world = .ofEnded (job.exec site.services world) := by
  cases action with
  | rpc => cases h
  | comments collection artifact =>
    simp only [Action.job?, Site.act] at h ⊢
    cases hverb : request.verb <;> rw [hverb] at h <;> cases h <;> rfl
  | _ =>
    cases h
    rfl

namespace Comments

/-- **Is this an access for comments?** It includes those that only list them. -/
def Serves (access : Access) : Prop :=
  access.repository = .comments

/-- **Is this an access for comments on account of the user**, by which nothing is made but a remark
of this user? -/
structure ServesFor (user : User) (access : Access) : Prop where
  serves : Serves access
  makes : ∀ made, access.makes? = some made → made = (.remark, user.id)

theorem readPart_inquires (part : String) : (readPart part).Inquires := by
  unfold readPart
  cases percentDecode? part with
  | some text => exact inquires_done text
  | none => exact inquires_fail _

theorem readId_inquires (part : String) : (readId part).Inquires := by
  refine (readPart_inquires part).andThen fun text => ?_
  cases Uuid.parse? text with
  | some id => exact inquires_done id
  | none => exact inquires_fail _

/-- **The artifact that is named** is settled once it has been looked up. Whether it can be named by
these texts is settled before that. -/
theorem findArtifact_inquires (collection identifier : String) :
    (findArtifact collection identifier).Inquires := by
  unfold findArtifact
  cases Kind.ofCollection? collection with
  | none => exact inquires_fail _
  | some kind =>
    cases Lookup.parse? identifier with
    | none => exact inquires_fail _
    | some lookup =>
      exact inquires_ask (a := .getEntity kind lookup) rfl Fault.ofFailure fun _ _ hsame =>
        congrArg (Prod.mk kind) (Entity.id_of_identity hsame)

theorem readForm_inquires (request : Request) : (readForm request).Inquires := by
  unfold readForm
  split
  · exact inquires_fail _
  · split
    · exact inquires_fail _
    · split
      · exact inquires_fail _
      · cases CommentForm.read request.body with
        | ok form => exact inquires_done form
        | error refusal => exact inquires_fail _

/-- The last access, and what is told of its result. -/
theorem ask_runsErrand {user : User} (access : Access) (hserves : ServesFor user access)
    (tell : access.Result → Response) :
    ((ask access).bind fun result => done (tell result)).RunsErrand (ServesFor user) :=
  ((runsErrand_ask hserves).mapError Fault.ofFailure).map tell

/-- What is done with the artifact that the path names. -/
theorem findArtifact_andThen {user : User} {collection artifact : String}
    {next : Kind × Uuid → Job Fault Response}
    (hnext : ∀ found, (next found).RunsErrand (ServesFor user)) :
    ((findArtifact collection artifact).bind next).RunsErrand (ServesFor user) :=
  (findArtifact_inquires collection artifact).andThen hnext

variable (user : User)

theorem list_runsErrand (collection artifact : String) :
    (list collection artifact).RunsErrand (ServesFor user) := by
  refine (readPart_inquires collection).andThen fun collection => ?_
  refine (readPart_inquires artifact).andThen fun artifact => findArtifact_andThen fun found => ?_
  exact ask_runsErrand (.listComments found.1 found.2) ⟨rfl, nofun⟩ _

theorem listVisible_runsErrand (collection artifact : String) :
    (listVisible collection artifact).RunsErrand (ServesFor user) := by
  refine (readPart_inquires collection).andThen fun collection => ?_
  refine (readPart_inquires artifact).andThen fun artifact => findArtifact_andThen fun found => ?_
  exact ask_runsErrand (.listVisibleComments found.1 found.2) ⟨rfl, nofun⟩ _

theorem create_runsErrand (request : Request) (collection artifact : String) :
    (create user request collection artifact).RunsErrand (ServesFor user) := by
  refine (readPart_inquires collection).andThen fun collection => ?_
  refine (readPart_inquires artifact).andThen fun artifact => ?_
  refine (readForm_inquires request).andThen fun form => findArtifact_andThen fun found => ?_
  refine ask_runsErrand (.createComment
    ⟨found.1, found.2, user.id, form.content, form.parent, form.selection⟩) ⟨rfl, ?_⟩ _
  rintro made ⟨⟩
  rfl

theorem listReplies_runsErrand (comment : String) :
    (listReplies comment).RunsErrand (ServesFor user) := by
  refine (readId_inquires comment).andThen fun id => ?_
  exact ask_runsErrand (.listReplies id) ⟨rfl, nofun⟩ _

theorem setResolved_runsErrand (resolved : Bool) (comment : String) :
    (setResolved user resolved comment).RunsErrand (ServesFor user) := by
  refine (readId_inquires comment).andThen fun id => ?_
  exact ask_runsErrand (.setResolved id resolved user) ⟨rfl, nofun⟩ _

end Comments

/-- **Every request for comments runs an errand** for the user who makes it. A verb that a route
does not know never gets as far as its job. -/
theorem Action.job?_runsErrandFor {user : User} {request : Request} {action : Action}
    {job : Job Fault Response} (h : action.job? user request = some job) :
    job.RunsErrand (Comments.ServesFor user) := by
  cases action with
  | rpc => cases h
  | replies comment =>
    cases h
    exact Comments.listReplies_runsErrand user comment
  | resolve comment =>
    cases h
    exact Comments.setResolved_runsErrand user true comment
  | unresolve comment =>
    cases h
    exact Comments.setResolved_runsErrand user false comment
  | visibleComments collection artifact =>
    cases h
    exact Comments.listVisible_runsErrand user collection artifact
  | comments collection artifact =>
    rw [Action.job?] at h
    split at h
    · cases h
      exact Comments.create_runsErrand user request collection artifact
    · cases h
      exact Comments.list_runsErrand user collection artifact

theorem Action.job?_runsErrand {user : User} {request : Request} {action : Action}
    {job : Job Fault Response} (h : action.job? user request = some job) :
    job.RunsErrand Comments.Serves :=
  (job?_runsErrandFor h).imp fun _ hserves => hserves.serves

end Planroom.Http
