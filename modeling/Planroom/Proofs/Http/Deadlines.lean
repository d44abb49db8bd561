import Planroom.Proofs.Http.Bearer
import Planroom.Proofs.Http.Status
import Planroom.Proofs.Server.Breaking
import Planroom.Proofs.Settings.Credentials

/-!
# Deadlines beyond the clock

Two deadlines are computed while a request is served: its own, and one for listing resources. The spans
come from the settings, where they are any numbers of seconds that have 64 bits; the clock does not reach
that far.

* **Replies** — what a body comes to, read off what comes of the handlers (`reply_of_handled`).
* **Requests** — `Site.Overflows`: a deadline of a request is beyond the clock. A request that is posted is
  answered unless this is so.
-/

namespace Planroom

/-! ## Replies -/

namespace Rpc

variable {σ : Type} {registry : Registry σ} {context : Context} {body : ByteArray} {tree : Json.Tree}
  {request : Request} {handler : Handler σ} {state : σ}

/-- **Does a body list the resources**, as a request that stands alone? In a batch the same request
has others beside it, and its breaking off is answered. -/
def ListsResources (body : ByteArray) : Prop :=
  ∃ tree request, treeOfBody body = some tree ∧ Request.ofTree tree = .ok request ∧
    request.method = "resources/list"

/-- **A request that stands alone** is answered as its handler says. Alone, its first turn is
followed by the next at once. -/
theorem reply_of_handled (hbody : treeOfBody body = some tree)
    (hrequest : Request.ofTree tree = .ok request)
    (hfind : registry.find? request.method = some handler) :
    (process registry context body state).reply =
      .ofAnswer ((handler context request.params state).finish.value.answer request) := by
  rw [process_of_request hbody hrequest, Processed.ofEnded, dispatch, hfind]
  simp only [Turn.finish_log, Turn.finish_conclude, Handled.close_answer]

/-- The reply to what has come to a result. -/
theorem ofOutcome_comes (request : Request) (result : Except CallError Json) :
    (Reply.ofAnswer (.ofOutcome request result)).Comes := by
  unfold Answer.ofOutcome
  cases request.id with
  | none => exact trivial
  | some id => cases result <;> exact trivial

/-- **A reply that comes**, or does not because the handler of a request that stands alone has
broken off. The second case says which request it was and what its handler has done. -/
inductive ComesUnlessBroken (registry : Registry σ) (context : Context) (body : ByteArray) (state : σ) :
    Reply → Prop where
  | comes {reply : Reply} (h : reply.Comes) : ComesUnlessBroken registry context body state reply
  | broken {tree : Json.Tree} {request : Request} {handler : Handler σ} {reason : Abort}
      (hbody : treeOfBody body = some tree) (hrequest : Request.ofTree tree = .ok request)
      (hfind : registry.find? request.method = some handler)
      (hfate : (handler context request.params state).finish.value.fate = .aborted reason) :
      ComesUnlessBroken registry context body state (.aborted reason)

/-- **Every body is replied to**, unless a handler breaks off that has no others beside it. Handlers
must come to an end for that: one that hangs keeps a whole batch waiting. -/
theorem comesUnlessBroken_process (hconcludes : registry.Concludes) (context : Context)
    (body : ByteArray) (state : σ) :
    ComesUnlessBroken registry context body state (process registry context body state).reply := by
  cases body_cases body with
  | unreadable hbody =>
    rw [process_of_unreadable hbody]
    exact .comes trivial
  | @single tree hbody hsingle =>
    cases hrequest : Request.ofTree tree with
    | error rejection =>
      rw [process_of_single hbody hsingle, dispatchTree, hrequest]
      exact .comes trivial
    | ok request =>
      cases hfind : registry.find? request.method with
      | none =>
        rw [process_of_request hbody hrequest, dispatch, hfind]
        exact .comes (ofOutcome_comes request (.error _))
      | some handler =>
        rw [reply_of_handled hbody hrequest hfind, Handled.answer]
        cases hfate : (handler context request.params state).finish.value.fate with
        | returned result => exact .comes (ofOutcome_comes request result)
        | aborted reason => exact .broken hbody hrequest hfind hfate
        | hung =>
          exact absurd hfate (hconcludes request.method handler hfind context request.params state).finish
  | @batch elements hbody =>
    rw [process_of_batch hbody]
    by_cases hne : elements = []
    · subst hne
      exact .comes trivial
    · obtain ⟨trace, answers, hrun, hreply⟩ := processBatch_sideBySide registry context hne state
      obtain ⟨contributions, -, hresponses⟩ := contributions_of_run hconcludes hrun
      rw [hreply, hresponses]
      cases contributions.reduceOption <;> exact .comes trivial

end Rpc

/-! ## Requests -/

namespace Http

variable {site : Site} {request : Request} {user : User} {world : World} {stamp : Nat → Stamp}

/-- **Is a deadline beyond the clock?** It is that of the request, or that of listing the resources.
The second is computed even if the first is the earlier one. -/
def Site.Overflows (site : Site) (body : ByteArray) (now : Instant) : Prop :=
  ¬ Clock.Reaches now site.requestTimeout ∨
    (Rpc.ListsResources body ∧ ¬ Clock.Reaches now site.limits.resourcesList)

/-- A reply that comes is a response. -/
theorem exists_response_of_comes {reply : Rpc.Reply} (h : reply.Comes) (parseFailed : Bool) :
    ∃ response, Outcome.ofReply parseFailed reply = .answered response := by
  cases reply with
  | nothing | single | batch => exact ⟨_, rfl⟩
  | aborted | hung => exact h.elim

/-- **A request whose own deadline is beyond the clock** is not answered at all, whatever is in it.
-/
theorem Site.Takes.serve_unreached (h : site.Takes request user) (fresh : Uuid)
    (hclock : ¬ Clock.Reaches world.now site.requestTimeout) :
    (site.serve fresh request world).outcome = .aborted .clockOverflow := by
  rw [Site.serve_posted h.path h.verb h.user, Site.rpc, if_neg (by rw [h.size]; exact Bool.false_ne_true),
    if_neg (by rw [h.media]; decide)]
  simp only [Context.withTimeout?_eq_none_iff.2 hclock]

/-- **A request that is posted** is handed to the protocol, or is answered because it is not. In the
second case no deadline is computed. -/
theorem Site.posted_cases (site : Site) (fresh : Uuid) (world : World)
    (hpath : Route.ofPath? request.path = some (.action .rpc)) (hverb : request.verb = .post) :
    (∃ user, site.Takes request user) ∨
      ((¬ ∃ user, site.Takes request user) ∧
        ∃ response, (site.serve fresh request world).outcome = .answered response) := by
  cases huser : authenticate site.credentials request with
  | error fault =>
    refine .inr ⟨?_, fault.response, ?_⟩
    · rintro ⟨user, htakes⟩
      rw [htakes.user] at huser
      cases huser
    · rw [Site.serve_outcome, Site.follow, hpath]
      simp only [huser]
      rfl
  | ok user =>
    rw [Site.serve_posted hpath hverb huser, Site.rpc]
    cases hsize : request.isTooLarge with
    | true =>
      refine .inr ⟨?_, _, rfl⟩
      rintro ⟨_, htakes⟩
      rw [htakes.size] at hsize
      cases hsize
    | false =>
      cases hmedia : request.hasJson with
      | false =>
        refine .inr ⟨?_, _, rfl⟩
        rintro ⟨_, htakes⟩
        rw [htakes.media] at hmedia
        cases hmedia
      | true => exact .inl ⟨user, hpath, hverb, huser, hmedia, hsize⟩

/-- **A request that is handed to the protocol** with a deadline that the clock reaches is answered,
unless it lists the resources and that breaks off. No other method can break off. -/
theorem Site.Takes.outcome_of_reached (h : site.Takes request user)
    (hservices : site.services = .ofStore stamp) (fresh : Uuid)
    (hclock : Clock.Reaches world.now site.requestTimeout) :
    (∃ response, (site.serve fresh request world).outcome = .answered response) ∨
      ∃ reason context, (site.serve fresh request world).outcome = .aborted reason ∧
        Rpc.ListsResources request.body ∧
        ((Server.listResources site.limits context).exec (.ofStore stamp) world).value =
          .aborted reason := by
  obtain ⟨context, hcontext⟩ := Context.exists_withTimeout? hclock
    ⟨correlationId fresh request, some user, .none⟩
  rw [h.serve_outcome fresh hcontext, hservices]
  have hreply := Rpc.comesUnlessBroken_process (Server.registry_concludes stamp site.limits) context
    request.body world
  dsimp only
  generalize (Rpc.process (Server.registry (.ofStore stamp) site.limits) context request.body
    world).parseFailed = parseFailed
  generalize (Rpc.process (Server.registry (.ofStore stamp) site.limits) context request.body
    world).reply = reply at hreply ⊢
  cases hreply with
  | comes hcomes => exact .inl (exists_response_of_comes hcomes parseFailed)
  | broken hbody hrequest hfind hfate =>
    obtain ⟨entry, hentry, hname, rfl⟩ := Server.of_find?_registry hfind
    rw [Server.fate_of_handler] at hfate
    obtain rfl := Server.listing_of_aborted hentry hfate
    exact .inr ⟨_, context, rfl, ⟨_, _, hbody, hrequest, hname.symm⟩, hfate⟩

/-- **A request that lists the resources** with a deadline of its own that the clock reaches, but
not the one of the listing. It breaks off before the store is asked for anything. -/
theorem Site.Takes.serve_unlisted (h : site.Takes request user)
    (hservices : site.services = .ofStore stamp) (fresh : Uuid)
    (hclock : Clock.Reaches world.now site.requestTimeout) (hlists : Rpc.ListsResources request.body)
    (hlisting : ¬ Clock.Reaches world.now site.limits.resourcesList) :
    (site.serve fresh request world).outcome = .aborted .clockOverflow := by
  obtain ⟨context, hcontext⟩ := Context.exists_withTimeout? hclock
    ⟨correlationId fresh request, some user, .none⟩
  obtain ⟨tree, message, hbody, hmessage, hmethod⟩ := hlists
  have hfind : (Server.registry (.ofStore stamp) site.limits).find? message.method =
      some (Server.handler (.ofStore stamp) fun context _ => Server.listResources site.limits context) := by
    rw [hmethod]
    rfl
  rw [h.serve_outcome fresh hcontext, hservices]
  dsimp only
  rw [Rpc.reply_of_handled hbody hmessage hfind, Rpc.Handled.answer, Server.fate_of_handler,
    Server.exec_listResources_of_unreached stamp context hlisting]
  rfl

/-- **A request is given up for a deadline** exactly if one of its deadlines is beyond the clock. A
listing that breaks off for another reason is given up, too, but not for a deadline. -/
theorem Site.Takes.serve_overflow_iff (h : site.Takes request user)
    (hservices : site.services = .ofStore stamp) (fresh : Uuid) (world : World) :
    (site.serve fresh request world).outcome = .aborted .clockOverflow ↔
      site.Overflows request.body world.now := by
  constructor
  · intro houtcome
    by_cases hclock : Clock.Reaches world.now site.requestTimeout
    · obtain ⟨response, hanswered⟩ | ⟨reason, context, hbroken, hlists, hfate⟩ :=
        h.outcome_of_reached hservices fresh hclock
      · rw [hanswered] at houtcome
        cases houtcome
      · rw [hbroken] at houtcome
        cases houtcome
        exact .inr ⟨hlists, (Server.exec_listResources_clockOverflow_iff stamp context).1 hfate⟩
    · exact .inl hclock
  · rintro (hclock | ⟨hlists, hlisting⟩)
    · exact h.serve_unreached fresh hclock
    · by_cases hclock : Clock.Reaches world.now site.requestTimeout
      · exact h.serve_unlisted hservices fresh hclock hlists hlisting
      · exact h.serve_unreached fresh hclock

/-- **A request that is not given up for a deadline** is answered, unless it lists too many
resources. How many there may be depends on the width of an offset. -/
theorem Site.Takes.serve_answered (h : site.Takes request user)
    (hservices : site.services = .ofStore stamp) (fresh : Uuid)
    (hkept : (site.serve fresh request world).outcome ≠ .aborted .clockOverflow)
    (hstore : Rpc.ListsResources request.body → world.store.Listable) :
    ∃ response, (site.serve fresh request world).outcome = .answered response := by
  have hwithin := (h.serve_overflow_iff hservices fresh world).not.1 hkept
  rw [Overflows, not_or, not_not, not_and, not_not] at hwithin
  obtain hanswered | ⟨reason, context, -, hlists, hfate⟩ :=
    h.outcome_of_reached hservices fresh hwithin.1
  · exact hanswered
  · obtain ⟨result, hresult⟩ :=
      Server.exec_listResources_returned stamp context (hwithin.2 hlists) (hstore hlists)
    rw [hfate] at hresult
    cases hresult

/-- **Deadlines beyond the clock.** Let settings be accepted, and let a site have them. Its two time limits
are positive and not longer than as many seconds as have 64 bits; no more is known of them. A request that
is posted is given up for a deadline exactly if it is handed to the protocol and a deadline of it is beyond
the clock: its own one, or the one for listing the resources if that is what the request does. If it is
not given up for that, it is answered, whatever it asks for; only where it lists the resources, there must
not be too many of them. In a batch a request can list the resources, too, and there it breaks off by the
same rule, at whatever time it has its turn; no other method ever does so. -/
theorem posted_requests_are_answered_within_the_clock {ids : Nat → Uuid}
    {table : String → Option String} {settings : Settings}
    (haccepted : Settings.ofTable ids table = .ok settings) (stamp : Nat → Stamp) :
    let site := Site.ofSettings settings stamp
    (∀ span ∈ [site.requestTimeout, site.limits.resourcesList],
      0 < span ∧ span ≤ Settings.maxSpan * 1000) ∧
    (∀ (request : Request) (fresh : Uuid) (world : World), request.verb = .post →
      Route.ofPath? request.path = some (.action .rpc) →
      let outcome := (site.serve fresh request world).outcome
      (outcome = .aborted .clockOverflow ↔
        (∃ user, site.Takes request user) ∧ site.Overflows request.body world.now) ∧
      (outcome ≠ .aborted .clockOverflow →
        (Rpc.ListsResources request.body → world.store.Listable) →
        ∃ response, outcome = .answered response)) ∧
    ∀ entry ∈ Server.methods site.limits, ∀ (context : Context) (params : Option Json) (world : World),
      ((entry.2 context params).exec site.services world).value = .aborted .clockOverflow ↔
        entry.1 = "resources/list" ∧ ¬ Clock.Reaches world.now site.limits.resourcesList := by
  intro site
  have hfrom := Settings.of_ofTable haccepted
  have hservices : site.services = .ofStore stamp := rfl
  refine ⟨?_, ?_, ?_⟩
  · have hrequest := Settings.span_bounds (by decide) hfrom.request
    have hresources := Settings.span_bounds (by decide) hfrom.resources
    have hmillis {n : Nat} (h : 0 < n ∧ n ≤ Settings.maxSpan) :
        0 < n * 1000 ∧ n * 1000 ≤ Settings.maxSpan * 1000 :=
      ⟨Nat.mul_pos h.1 (by decide), Nat.mul_le_mul_right 1000 h.2⟩
    exact List.forall_mem_cons.2 ⟨hmillis hrequest, List.forall_mem_singleton.2 (hmillis hresources)⟩
  · intro request fresh world hverb hpath outcome
    rcases site.posted_cases fresh world hpath hverb with ⟨user, htakes⟩ | ⟨hnot, response, hanswered⟩
    · have hoverflow := htakes.serve_overflow_iff hservices fresh world
      exact ⟨hoverflow.trans (and_iff_right ⟨user, htakes⟩).symm, htakes.serve_answered hservices fresh⟩
    · have hoverflow : outcome ≠ .aborted .clockOverflow := by
        change (site.serve fresh request world).outcome ≠ _
        rw [hanswered]
        exact nofun
      exact ⟨iff_of_false hoverflow fun h => hnot h.1, fun _ _ => ⟨response, hanswered⟩⟩
  · intro entry hentry context params world
    exact Server.exec_clockOverflow_iff hentry stamp context params

/-! ### The longest time limit -/

/-- A message that only asks whether the server is there. -/
def pingText : String :=
  "\x7b\"id\":1,\"jsonrpc\":\"2.0\",\"method\":\"ping\"\x7d"

theorem pingText_lists_nothing : ¬ Rpc.ListsResources pingText.toUTF8 := by
  rintro ⟨tree, message, hbody, hmessage, hmethod⟩
  have hread : ((Rpc.treeOfBody pingText.toUTF8).bind fun tree =>
      (Rpc.Request.ofTree tree).toOption.map (·.method)) = some "ping" := by decide +kernel
  rw [hbody, Option.bind_some, hmessage] at hread
  have hping : message.method = "ping" := Option.some.inj hread
  exact absurd (hping.symm.trans hmethod) (by decide)

/-- With the time limits of two users it is answered. -/
theorem posted_requests_are_answered_within_the_clock_shared :
    Settings.ofTable Settings.sharedIds Settings.sharedTable = .ok Settings.shared ∧
      ∃ response, ((Site.ofSettings Settings.shared .nth).serve (Stamp.nth 1).id
        (sharedRequest "a" "/mcp" pingText) ⟨.initial Settings.shared.users [], 0, 0⟩).outcome =
          .answered response := by
  obtain ⟨-, hposted, -⟩ :=
    posted_requests_are_answered_within_the_clock Settings.ofTable_shared .nth
  obtain ⟨hoverflow, hanswered⟩ := hposted (sharedRequest "a" "/mcp" pingText) (Stamp.nth 1).id
    ⟨.initial Settings.shared.users [], 0, 0⟩ rfl (by decide +kernel)
  refine ⟨Settings.ofTable_shared, hanswered (fun hgiven => ?_) fun hlists => ?_⟩
  · rcases (hoverflow.1 hgiven).2 with hclock | ⟨hlists, -⟩
    · exact hclock (by decide)
    · exact pingText_lists_nothing hlists
  · exact absurd hlists pingText_lists_nothing

/-- A token that stands alone, and the longest time limit for requests. -/
def patientTable (key : String) : Option String :=
  if key = "SPEXUS_API_TOKEN" then some "t"
  else if key = "SPEXUS_REQUEST_TIMEOUT_SECS" then some "18446744073709551615"
  else none

/-- The settings with this time limit. -/
def patient : Settings :=
  { Settings.shared with
    credentials := [⟨"t", ⟨Settings.sharedIds 0, "mcp-agent", .administrator⟩⟩]
    requestTimeoutSeconds := 18446744073709551615 }

/-- **The longest time limit is accepted**, and no request is answered under it. It has 64 bits of
seconds, while the clock has one bit less. -/
theorem longest_time_limit_breaks_requests :
    Settings.ofTable Settings.sharedIds patientTable = .ok patient ∧
      ((Site.ofSettings patient .nth).serve (Stamp.nth 1).id (sharedRequest "t" "/mcp" pingText)
        ⟨.initial patient.users [], 0, 0⟩).outcome = .aborted .clockOverflow := by
  have htakes : (Site.ofSettings patient .nth).Takes (sharedRequest "t" "/mcp" pingText)
      ⟨Settings.sharedIds 0, "mcp-agent", .administrator⟩ :=
    ⟨by decide +kernel, rfl, by decide +kernel, by decide +kernel, by decide +kernel⟩
  exact ⟨by decide +kernel, htakes.serve_unreached _ (by decide)⟩

end Http

end Planroom
