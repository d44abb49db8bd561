import Planroom.Proofs.Http.Comments
import Planroom.Proofs.Http.Status
import Planroom.Proofs.Rpc.Telling
import Planroom.Proofs.Work.PassingOn

/-!
# What a caller is told of a failure

A route for comments tells of an internal failure, and of a storage that cannot be reached, nothing but
that there was one. None of the jobs behind the routes looks at a failure: it is passed on, and what is
made of it is the response.

* **Failures** — `ToldAlike`: failures of one of these two kinds, whatever their texts. The response is
  the same (`ToldAlike.response_eq`).
* **Jobs** — `Action.job?_passesOn`: every job behind a route passes failures on.
* **Requests** — `Exchange.SameOutside`: exchanges with the same outcome, whatever is logged. Where the
  store fails alike, every request for comments makes for such exchanges (`Site.serve_sameOutside`).
-/

namespace Planroom.Http

open Job

/-! ## Failures -/

/-- **Is a caller of a route told the same of two failures?** Apart from equal ones these are two
families, whose texts are for the log. -/
inductive ToldAlike : Failure → Failure → Prop where
  | same (failure : Failure) : ToldAlike failure failure
  | internal (text other : String) : ToldAlike (.internal text) (.internal other)
  | unavailable (text other : String) : ToldAlike (.unavailable text) (.unavailable other)

theorem ToldAlike.response_eq {failure other : Failure} (h : ToldAlike failure other) :
    (Fault.ofFailure failure).response = (Fault.ofFailure other).response := by
  cases h <;> rfl

/-! ## Jobs -/

namespace Comments

theorem readPart_passesOn (part : String) : (readPart part).PassesOn Fault.ofFailure := by
  unfold readPart
  cases percentDecode? part <;> exact trivial

theorem readId_passesOn (part : String) : (readId part).PassesOn Fault.ofFailure := by
  refine (readPart_passesOn part).bind fun text => ?_
  cases Uuid.parse? text <;> exact trivial

theorem findArtifact_passesOn (collection identifier : String) :
    (findArtifact collection identifier).PassesOn Fault.ofFailure := by
  unfold findArtifact
  cases Kind.ofCollection? collection with
  | none => exact trivial
  | some kind =>
    cases Lookup.parse? identifier with
    | none => exact trivial
    | some lookup => exact (passesOn_ask _ (.getEntity kind lookup)).bind fun _ => trivial

theorem readForm_passesOn (request : Request) : (readForm request).PassesOn Fault.ofFailure := by
  unfold readForm
  split
  · exact trivial
  · split
    · exact trivial
    · split
      · exact trivial
      · cases CommentForm.read request.body <;> exact trivial

/-- The last access, and what is told of its result. -/
theorem ask_passesOn (access : Access) (tell : access.Result → Response) :
    ((ask access).bind fun result => done (tell result)).PassesOn Fault.ofFailure :=
  (passesOn_ask _ access).bind fun _ => trivial

theorem list_passesOn (collection artifact : String) :
    (list collection artifact).PassesOn Fault.ofFailure := by
  refine (readPart_passesOn collection).bind fun collection => ?_
  refine (readPart_passesOn artifact).bind fun artifact => ?_
  refine (findArtifact_passesOn collection artifact).bind fun found => ?_
  exact ask_passesOn (.listComments found.1 found.2) _

theorem listVisible_passesOn (collection artifact : String) :
    (listVisible collection artifact).PassesOn Fault.ofFailure := by
  refine (readPart_passesOn collection).bind fun collection => ?_
  refine (readPart_passesOn artifact).bind fun artifact => ?_
  refine (findArtifact_passesOn collection artifact).bind fun found => ?_
  exact ask_passesOn (.listVisibleComments found.1 found.2) _

theorem create_passesOn (user : User) (request : Request) (collection artifact : String) :
    (create user request collection artifact).PassesOn Fault.ofFailure := by
  refine (readPart_passesOn collection).bind fun collection => ?_
  refine (readPart_passesOn artifact).bind fun artifact => ?_
  refine (readForm_passesOn request).bind fun form => ?_
  refine (findArtifact_passesOn collection artifact).bind fun found => ?_
  exact ask_passesOn (.createComment
    ⟨found.1, found.2, user.id, form.content, form.parent, form.selection⟩) _

theorem listReplies_passesOn (comment : String) :
    (listReplies comment).PassesOn Fault.ofFailure := by
  refine (readId_passesOn comment).bind fun id => ?_
  exact ask_passesOn (.listReplies id) _

theorem setResolved_passesOn (user : User) (resolved : Bool) (comment : String) :
    (setResolved user resolved comment).PassesOn Fault.ofFailure := by
  refine (readId_passesOn comment).bind fun id => ?_
  exact ask_passesOn (.setResolved id resolved user) _

end Comments

/-- **Every job behind a route** passes failures on. What is done next never depends on what a
failure says. -/
theorem Action.job?_passesOn {user : User} {request : Request} {action : Action}
    {job : Job Fault Response} (h : action.job? user request = some job) :
    job.PassesOn Fault.ofFailure := by
  cases action with
  | rpc => cases h
  | replies comment =>
    cases h
    exact Comments.listReplies_passesOn comment
  | resolve comment =>
    cases h
    exact Comments.setResolved_passesOn user true comment
  | unresolve comment =>
    cases h
    exact Comments.setResolved_passesOn user false comment
  | visibleComments collection artifact =>
    cases h
    exact Comments.listVisible_passesOn collection artifact
  | comments collection artifact =>
    rw [Action.job?] at h
    split at h
    · cases h
      exact Comments.create_passesOn user request collection artifact
    · cases h
      exact Comments.list_passesOn collection artifact

/-! ## Requests -/

/-- **Do two exchanges look the same from outside?** What is logged is not seen there; the world is,
by whoever comes next. -/
def Exchange.SameOutside (first second : Exchange) : Prop :=
  first.outcome = second.outcome ∧ first.world = second.world

theorem Exchange.SameOutside.refl (exchange : Exchange) : exchange.SameOutside exchange :=
  ⟨rfl, rfl⟩

/-- **Jobs that end alike** look the same from outside. If both end with failures, these are told
alike. -/
theorem Exchange.ofEnded_sameOutside {ended other : Ended World (Fate Fault Response)}
    (hfate : ended.value.Alike Fault.ofFailure ToldAlike other.value)
    (hstate : ended.state = other.state) :
    (Exchange.ofEnded ended).SameOutside (.ofEnded other) := by
  obtain ⟨fate, state, events⟩ := ended
  obtain ⟨instead, _, others⟩ := other
  cases hstate
  cases hfate with
  | same =>
    -- what was logged on the way is in no response
    rcases fate with (_ | _) | _ | _ <;> exact ⟨rfl, rfl⟩
  | failed htold => exact ⟨congrArg (Outcome.answered ·) htold.response_eq, rfl⟩

/-- **What a user wants to do**, other than to speak the protocol. Each of these actions is a single
job. -/
theorem Site.act_sameOutside {site : Site} {services : Services}
    (hservices : site.services.Alike ToldAlike services) {action : Action} (haction : action ≠ .rpc)
    (correlationId : String) (user : User) (request : Request) (world : World) :
    (site.act correlationId user action request world).SameOutside
      ({ site with services := services }.act correlationId user action request world) := by
  cases hjob : action.job? user request with
  | none =>
    cases action with
    | rpc => exact absurd rfl haction
    | comments =>
      rw [Action.job?] at hjob
      split at hjob <;> cases hjob
    | _ => cases hjob
  | some job =>
    rw [Site.act_of_job hjob, Site.act_of_job hjob]
    obtain ⟨hfate, hstate⟩ :=
      ((Action.job?_passesOn hjob).start_alike hservices world).finish
    exact Exchange.ofEnded_sameOutside hfate hstate

/-- **The path of a request**, if it is none of the protocol. Up to the job nothing depends on the
services. -/
theorem Site.follow_sameOutside {site : Site} {services : Services}
    (hservices : site.services.Alike ToldAlike services) {request : Request}
    (hpath : Route.ofPath? request.path ≠ some (.action .rpc)) (correlationId : String)
    (world : World) :
    (site.follow correlationId request world).SameOutside
      ({ site with services := services }.follow correlationId request world) := by
  unfold Site.follow
  cases hroute : Route.ofPath? request.path with
  | none => simp only [Exchange.SameOutside.refl]
  | some route =>
    cases route with
    | landing landing => simp only [Exchange.SameOutside.refl]
    | action action =>
      have haction : action ≠ .rpc := by
        rintro rfl
        exact hpath hroute
      cases authenticate site.credentials request with
      | error fault => simp only [Exchange.SameOutside.refl]
      | ok user =>
        have hact := Site.act_sameOutside hservices haction correlationId user request world
        cases hknows : (Route.action action).knows request.verb with
        | false => simp only [hknows, Bool.false_eq_true, if_false, Exchange.SameOutside.refl]
        | true => simpa only [hknows, if_true] using hact

theorem Site.serve_sameOutside {site : Site} {services : Services}
    (hservices : site.services.Alike ToldAlike services) {request : Request}
    (hpath : Route.ofPath? request.path ≠ some (.action .rpc)) (fresh : Uuid) (world : World) :
    (site.serve fresh request world).SameOutside
      ({ site with services := services }.serve fresh request world) := by
  rw [Exchange.SameOutside, Site.serve_outcome, Site.serve_outcome, Site.serve_world,
    Site.serve_world]
  exact Site.follow_sameOutside hservices hpath (correlationId fresh request) world

/-- **Texts that are kept back are not told.** Take two registries that behave alike, except that
their handlers may fail with different texts, where these are kept back. Then every body is replied to
with the same, and the elements of a batch can have their turns in the same orders, with the same
answers. And take two stores that serve a site alike, except that they may fail with different texts
when something goes wrong inside or when they cannot be reached. Then every request that is not for the
protocol has the same response, status and content. -/
theorem kept_back_texts_are_not_told :
    (∀ {σ : Type} {first second : Rpc.Registry σ}, first.Alike Rpc.Handled.ToldAlike second →
      ∀ (context : Context) (state : σ),
        (∀ body,
          (Rpc.process first context body state).reply =
              (Rpc.process second context body state).reply ∧
            (Rpc.process first context body state).parseFailed =
              (Rpc.process second context body state).parseFailed ∧
            (Rpc.process first context body state).state =
              (Rpc.process second context body state).state) ∧
        ∀ elements trace answers final,
          Rpc.BatchRun first context elements state trace answers final ↔
            Rpc.BatchRun second context elements state trace answers final) ∧
    ∀ (site : Site) (services : Services), site.services.Alike ToldAlike services →
      ∀ request, Route.ofPath? request.path ≠ some (.action .rpc) → ∀ fresh world,
        (site.serve fresh request world).SameOutside
          ({ site with services := services }.serve fresh request world) := by
  refine ⟨fun h context state => ⟨fun body => ?_, fun _ _ _ _ => h.batchRun_iff⟩, ?_⟩
  · exact h.process_eq (fun _ _ _ hhandled => hhandled.answer_eq) context body state
  · intro site services hservices request hpath fresh world
    exact Site.serve_sameOutside hservices hpath fresh world

/-! ### Two texts -/

/-- A registry whose only handler fails inside. -/
def failingInside (text : String) : Rpc.Registry Unit :=
  ⟨[("ping", fun _ _ state => .done state [] ⟨.returned (.error (.failed (.internal text))), 0⟩)],
    1000⟩

theorem failingInside_alike {text other : String}
    (h : Rpc.Error.isConnectivityFailure text = Rpc.Error.isConnectivityFailure other) :
    (failingInside text).Alike Rpc.Handled.ToldAlike (failingInside other) := by
  intro method
  unfold Rpc.Registry.find? failingInside
  simp only [List.find?_cons]
  cases "ping" == method with
  | false => exact .none
  | true => exact .some fun _ _ state => .done state _ _ (.failed (.internal h) 0 0)

/-- A body that calls it. -/
def pinging : String :=
  "\x7b\"version\":\"2.0\",\"id\":1,\"method\":\"ping\"\x7d"

/-- A site whose store cannot be reached. -/
def unreachable (text : String) : Site :=
  { credentials := [⟨"t", ⟨(Stamp.nth 0).id, "alice", .user⟩⟩]
    services := ⟨fun _ => .answered (.error (.unavailable text)), .nth⟩
    limits := ⟨1000, 1000⟩
    requestTimeout := 1000 }

/-- A request that asks the store for something. -/
def listing : Request :=
  ⟨.get, "/api/v1/epics/EP-001/comments", [("authorization", "Bearer t")], .empty⟩

/-- Neither the text of what went wrong inside nor that of a storage out of reach is told. -/
theorem kept_back_texts_are_not_told_failing :
    (Rpc.process (failingInside "index 3") Rpc.anonymous pinging.toUTF8 ()).reply =
      (Rpc.process (failingInside "stack overflow") Rpc.anonymous pinging.toUTF8 ()).reply ∧
    ((unreachable "10.0.0.7").serve (Stamp.nth 1).id listing ⟨.initial [] [], 0, 0⟩).SameOutside
      ((unreachable "out of disk").serve (Stamp.nth 1).id listing ⟨.initial [] [], 0, 0⟩) ∧
    ((unreachable "10.0.0.7").serve (Stamp.nth 1).id listing
      ⟨.initial [] [], 0, 0⟩).outcome.status? = some 503 := by
  obtain ⟨hprotocol, hroutes⟩ := kept_back_texts_are_not_told
  have htexts : Rpc.Error.isConnectivityFailure "index 3" =
      Rpc.Error.isConnectivityFailure "stack overflow" := by decide +kernel
  refine ⟨?_, ?_, by decide +kernel⟩
  · obtain ⟨hbodies, -⟩ := hprotocol (failingInside_alike htexts) Rpc.anonymous ()
    exact (hbodies pinging.toUTF8).1
  · exact hroutes (unreachable "10.0.0.7") (unreachable "out of disk").services
      ⟨fun _ => .failed (.unavailable _ _), rfl⟩ listing (by decide +kernel) _ _

end Planroom.Http
