import Planroom.Http.Site
import Planroom.Proofs.Rpc.ParseErrors
import Planroom.Proofs.Store.Transaction

/-!
# The status of a reply of the protocol

The status tells whether a body could be parsed, and whether there is anything to say. It does not tell
whether a message that is the body had a value: that such a message could not be parsed is said under the
status of a success.

* **Statuses** — `StatusOf`: what a status tells of a body and its reply. It tells the truth whatever the
  handlers do (`statusOf_process`).
* **Requests** — `Site.Takes`: a request that is handed to the protocol. Its outcome is that of its reply
  (`Site.Takes.serve_outcome`).
* **Bodies** — when there is which status, and an example of a parse error under the status of a success.
-/

namespace Planroom.Http

/-! ## Statuses -/

/-- **The status of a response**, where there is one. A request that is never answered has none. -/
def Outcome.status? : Outcome → Option Nat
  | .answered response => some response.status
  | _ => none

/-- **What a status tells** of a body and its reply. Between them the three cases leave none out. -/
structure StatusOf (body : ByteArray) (reply : Rpc.Reply) (status : Nat) : Prop where
  unparsed : status = 400 ↔ Rpc.treeOfBody body = none
  silent : status = 204 ↔ reply = .nothing
  replied : status = 200 ↔ Rpc.treeOfBody body ≠ none ∧ reply ≠ .nothing

/-- A reply that comes has a status. -/
theorem exists_status_of_comes {reply : Rpc.Reply} (hcomes : reply.Comes) (parseFailed : Bool) :
    ∃ status, (Outcome.ofReply parseFailed reply).status? = some status := by
  cases reply with
  | nothing | single | batch => exact ⟨_, rfl⟩
  | aborted | hung => exact hcomes.elim

/-- **The status of a reply** tells the truth. A handler may break off or hang, but then there is no
status that could be wrong. -/
theorem statusOf_process {σ : Type} (registry : Rpc.Registry σ) (context : Context)
    (body : ByteArray) (state : σ) {status : Nat}
    (h : (Outcome.ofReply (Rpc.process registry context body state).parseFailed
      (Rpc.process registry context body state).reply).status? = some status) :
    StatusOf body (Rpc.process registry context body state).reply status := by
  have hparsed := Rpc.process_parseFailed_iff registry context body state
  by_cases hbody : Rpc.treeOfBody body = none
  · rw [Rpc.process_of_unreadable hbody] at h ⊢
    obtain rfl : 400 = status := Option.some.inj h
    have hreply : Rpc.Reply.single .parseError ≠ .nothing := by rintro ⟨⟩
    exact ⟨iff_of_true rfl hbody, iff_of_false (by decide) hreply,
      iff_of_false (by decide) fun hnot => hnot.1 hbody⟩
  · rw [Bool.eq_false_iff.2 fun hfailed => hbody (hparsed.1 hfailed)] at h
    generalize (Rpc.process registry context body state).reply = reply at h ⊢
    cases reply with
    | nothing =>
      obtain rfl : 204 = status := Option.some.inj h
      exact ⟨iff_of_false (by decide) hbody, iff_of_true rfl rfl,
        iff_of_false (by decide) fun hnot => hnot.2 rfl⟩
    | single | batch =>
      obtain rfl : 200 = status := Option.some.inj h
      exact ⟨iff_of_false (by decide) hbody, iff_of_false (by decide) (by rintro ⟨⟩),
        iff_of_true rfl ⟨hbody, by rintro ⟨⟩⟩⟩
    | aborted | hung => cases h

/-! ## Requests -/

theorem Site.serve_outcome (site : Site) (fresh : Uuid) (request : Request) (world : World) :
    (site.serve fresh request world).outcome =
      (site.follow (correlationId fresh request) request world).outcome := by
  unfold Site.serve
  dsimp only
  split <;> rfl

theorem Site.serve_world (site : Site) (fresh : Uuid) (request : Request) (world : World) :
    (site.serve fresh request world).world =
      (site.follow (correlationId fresh request) request world).world := by
  unfold Site.serve
  dsimp only
  split <;> rfl

/-- **Is a request handed to the protocol?** It is posted to its path by a known user, as JSON that
is not too long. These are all the checks of a site; what is in the body is not among them. -/
structure Site.Takes (site : Site) (request : Request) (user : User) : Prop where
  path : Route.ofPath? request.path = some (.action .rpc)
  verb : request.verb = .post
  user : authenticate site.credentials request = .ok user
  media : request.hasJson = true
  size : request.isTooLarge = false

/-- A request that a user posts for the protocol gets as far as the checks of its body. -/
theorem Site.serve_posted {site : Site} {request : Request} {user : User}
    (hpath : Route.ofPath? request.path = some (.action .rpc)) (hverb : request.verb = .post)
    (huser : authenticate site.credentials request = .ok user) (fresh : Uuid) (world : World) :
    (site.serve fresh request world).outcome =
      (site.rpc (correlationId fresh request) user request world).outcome := by
  have hknows : (Route.action .rpc).knows request.verb = true := by
    rw [hverb]
    rfl
  rw [Site.serve_outcome, Site.follow, hpath]
  simp only [huser, hknows, if_true, Site.act]

/-- **A request that is handed to the protocol** has the outcome of its reply, if the clock reaches
as far as the time limit of the site. -/
theorem Site.Takes.serve_outcome {site : Site} {request : Request} {user : User}
    (h : site.Takes request user) (fresh : Uuid) {world : World} {context : Context}
    (hcontext : (⟨correlationId fresh request, some user, .none⟩ : Context).withTimeout? world.now
      site.requestTimeout = some context) :
    (site.serve fresh request world).outcome =
      let processed := Rpc.process (Server.registry site.services site.limits) context request.body
        world
      .ofReply processed.parseFailed processed.reply := by
  rw [Site.serve_posted h.path h.verb h.user, Site.rpc, if_neg (by rw [h.size]; exact Bool.false_ne_true),
    if_neg (by rw [h.media]; decide)]
  simp only [hcontext]

/-! ## Bodies -/

/-- **The status of a reply.** Let every handler return. A body is reported as one that could not be
parsed exactly when its reply is a single error that says so, unless the body has a syntax and no value:
then the error says so and nothing is reported. There always is a status: 400 exactly for the bodies that
have no syntax, which is where the two go together; 204 exactly where there is nothing to say; and 200 for
all else. A request that is handed to the protocol has the outcome of the reply to its body, whose status,
if there is one, tells the same. -/
theorem statuses_of_replies {σ : Type} {registry : Rpc.Registry σ} (hreturns : registry.Returns)
    (context : Context) (body : ByteArray) (state : σ) :
    let processed := Rpc.process registry context body state
    ((processed.parseFailed = true ↔ processed.reply.errorCode? = some (-32700)) ↔
        ¬ Rpc.IsUndecodable body) ∧
      (processed.parseFailed = true ↔ Rpc.treeOfBody body = none) ∧
      (∃ status, (Outcome.ofReply processed.parseFailed processed.reply).status? = some status ∧
        StatusOf body processed.reply status) ∧
      ∀ (site : Site) (request : Request) (user : User), request.body = body →
        site.Takes request user →
        ∀ (fresh : Uuid) (world : World) (limited : Context),
          (⟨correlationId fresh request, some user, .none⟩ : Context).withTimeout? world.now
            site.requestTimeout = some limited →
          let answered := Rpc.process (Server.registry site.services site.limits) limited body world
          (site.serve fresh request world).outcome =
              .ofReply answered.parseFailed answered.reply ∧
            ∀ status, (site.serve fresh request world).outcome.status? = some status →
              StatusOf body answered.reply status := by
  intro processed
  have hparsed := Rpc.process_parseFailed_iff registry context body state
  have htold := Rpc.process_parseError_iff hreturns context body state
  refine ⟨?_, hparsed, ?_, ?_⟩
  · rw [hparsed, htold]
    constructor
    · rintro hsame ⟨tree, htree, hundecodable⟩
      rw [hsame.2 (.inr ⟨tree, htree, hundecodable⟩)] at htree
      cases htree
    · intro hdecodable
      exact ⟨.inl, fun h => h.resolve_right hdecodable⟩
  · obtain ⟨status, hstatus⟩ := exists_status_of_comes
      (Rpc.process_comes hreturns context body state) processed.parseFailed
    exact ⟨status, hstatus, statusOf_process registry context body state hstatus⟩
  · rintro site request user rfl htakes fresh world limited hlimited answered
    have houtcome := htakes.serve_outcome fresh hlimited
    refine ⟨houtcome, fun status hstatus => ?_⟩
    rw [houtcome] at hstatus
    exact statusOf_process _ limited request.body world hstatus

/-! ### A number out of range -/

/-- A number that no value stands for. -/
def outOfRange : ByteArray :=
  "1e400".toUTF8

theorem outOfRange_undecodable : Rpc.IsUndecodable outOfRange := by
  have htold : (Rpc.process Rpc.counting Rpc.anonymous outOfRange 0).reply.errorCode? =
      some (-32700) := by decide +kernel
  have hparsed : (Rpc.process Rpc.counting Rpc.anonymous outOfRange 0).parseFailed = false := by
    decide +kernel
  have hcases := (Rpc.process_parseError_iff Rpc.counting_returns Rpc.anonymous outOfRange 0).1 htold
  refine hcases.resolve_left fun hbody => ?_
  rw [(Rpc.process_parseFailed_iff Rpc.counting Rpc.anonymous outOfRange 0).2 hbody] at hparsed
  cases hparsed

/-- A site with one user. -/
def speaking : Site :=
  { credentials := [⟨"t", ⟨(Stamp.nth 0).id, "alice", .user⟩⟩]
    services := .ofStore .nth
    limits := ⟨1000, 1000⟩
    requestTimeout := 1000 }

/-- A request that posts the body. -/
def posting : Request :=
  ⟨.post, "/mcp", [("authorization", "Bearer t"), ("content-type", "application/json")], outOfRange⟩

theorem speaking_takes : speaking.Takes posting ⟨(Stamp.nth 0).id, "alice", .user⟩ where
  path := by decide +kernel
  verb := rfl
  user := by decide +kernel
  media := by decide +kernel
  size := by decide +kernel

/-- What is reported of the body and what is said of it do not go together, and posting it is a
success. -/
theorem statuses_of_replies_out_of_range :
    ¬ ((Rpc.process Rpc.counting Rpc.anonymous outOfRange 7).parseFailed = true ↔
        (Rpc.process Rpc.counting Rpc.anonymous outOfRange 7).reply.errorCode? = some (-32700)) ∧
      ∃ parseFailed reply,
        (speaking.serve (Stamp.nth 1).id posting ⟨.initial [] [], 0, 0⟩).outcome =
          .ofReply parseFailed reply ∧
        StatusOf outOfRange reply 200 := by
  obtain ⟨hsame, -, -, hposted⟩ :=
    statuses_of_replies Rpc.counting_returns Rpc.anonymous outOfRange 7
  refine ⟨fun h => hsame.1 h outOfRange_undecodable, ?_⟩
  obtain ⟨context, hcontext⟩ : ∃ context, (⟨correlationId (Stamp.nth 1).id posting,
      some ⟨(Stamp.nth 0).id, "alice", .user⟩, .none⟩ : Context).withTimeout? 0
        speaking.requestTimeout = some context := ⟨_, rfl⟩
  obtain ⟨houtcome, hstatus⟩ := hposted speaking posting _ rfl speaking_takes (Stamp.nth 1).id
    ⟨.initial [] [], 0, 0⟩ context hcontext
  exact ⟨_, _, houtcome, hstatus 200 (by decide +kernel)⟩

/-- **A parse error under the status of a success.** The body is not reported as one that could not
be parsed, and its reply is the single error that says so. Its syntax is right: it is a number, but
one that no value stands for. -/
theorem parse_error_under_success :
    let processed := Rpc.process (Rpc.Registry.empty 1000 : Rpc.Registry Unit) Rpc.anonymous
      outOfRange ()
    processed.parseFailed = false ∧ processed.reply.errorCode? = some (-32700) ∧
      (Outcome.ofReply processed.parseFailed processed.reply).status? = some 200 := by
  decide +kernel

end Planroom.Http
