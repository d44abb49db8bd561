import Planroom.Proofs.Rpc.Single
import Planroom.Proofs.Server.Handshake
import Planroom.Proofs.Server.Permission
import Planroom.Proofs.Work.Course
import Planroom.Proofs.Work.Idle

/-!
# Requests that come too late

A request may have been cancelled, or its time may have passed, before anything is done for it. Each
method looks after that by itself. It is shown here that none of them forgets to: nothing is asked of
the store any more, and what can be answered without it is answered all the same.

* **Messages** — `Rpc.Registry.IdleIn`: if every handler is over at once and leaves the state alone, so
  is the working off of a message, and of a batch in any order.
* **Methods** — `methods_over`: every method is over at once, whatever parameters it is given, and so
  the world is left alone (`registry_idleIn`). `TooLate` tells what comes of the requests that are
  answered (`dispatch_of_tooLate`).
* **Breaking off** — the listing of resources sets a time limit of its own before it looks whether it
  must stop. Where the clock does not reach to the end of that limit, the request is not told that it came
  too late: it breaks off (`dispatch_of_unreached`, `canceled_listing_breaks_off`).
-/

namespace Planroom

/-! ## Messages -/

namespace Rpc

variable {σ : Type} {registry : Registry σ} {context : Context} {state : σ}

/-- **Is every handler over at once** in this state, and does it leave the state alone? It may break
off, but it does not hang. -/
def Registry.IdleIn (registry : Registry σ) (context : Context) (state : σ) : Prop :=
  ∀ method handler, registry.find? method = some handler → ∀ params,
    ∃ handled, (handler context params state).EndsIn state handled ∧ handled.fate ≠ .hung

/-- **What a message comes to in a state**, alone. It is a value and not a relation, so that a reply
can be written down with it. -/
def answerIn (registry : Registry σ) (context : Context) (state : σ) (tree : Json.Tree) : Answer :=
  (Rpc.dispatchTree registry context tree state).finish.value

/-- **What the elements of a batch put into the reply**, each of them alone. -/
def responsesIn (registry : Registry σ) (context : Context) (state : σ) (elements : List Json.Tree) :
    List Response :=
  elements.filterMap fun element => (answerIn registry context state element).inBatch?

theorem responsesIn_of_inBatch? {tree : Json.Tree} {response : Response}
    (h : (answerIn registry context state tree).inBatch? = some response)
    (before after : List Json.Tree) :
    responsesIn registry context state (before ++ tree :: after) =
      responsesIn registry context state before ++
        response :: responsesIn registry context state after := by
  simp only [responsesIn, List.filterMap_append, List.filterMap_cons, h]

/-- A request whose handler is over at once. -/
theorem dispatch_endsIn {request : Request} {handler : Handler σ} {handled : Handled}
    (hfind : registry.find? request.method = some handler)
    (h : (handler context request.params state).EndsIn state handled) :
    (dispatch registry context request state).EndsIn state (handled.answer request) := by
  rw [dispatch, hfind, ← handled.close_answer registry context]
  exact (h.conclude _).log _

/-- What the caller is told of a result. -/
def Outcome.told : Except CallError Json → Outcome
  | .ok value => .result value
  | .error failure => .error (.ofCallError failure)

theorem ofOutcome_eq_told {request : Request} {id : RequestId} (hid : request.id = some id)
    (result : Except CallError Json) :
    Answer.ofOutcome request result = .reply ⟨request.spelling, id, .told result⟩ := by
  rw [ofOutcome_of_id hid]
  cases result <;> rfl

theorem ofOutcome_not_hung (request : Request) (result : Except CallError Json) :
    ¬ (Answer.ofOutcome request result).isHung = true := by
  rw [Answer.ofOutcome]
  cases request.id with
  | none => exact Bool.false_ne_true
  | some id => cases result <;> exact Bool.false_ne_true

/-- An answer comes unless the handler hangs. -/
theorem Handled.answer_not_hung {handled : Handled} (h : handled.fate ≠ .hung) (request : Request) :
    ¬ (handled.answer request).isHung = true := by
  rw [Handled.answer]
  cases hfate : handled.fate with
  | returned result => exact ofOutcome_not_hung request result
  | aborted reason => exact Bool.false_ne_true
  | hung => exact absurd hfate h

/-- **One message** is worked off in one turn, and the state is what it was. What it comes to is
known before any other message has its turn. -/
theorem Registry.IdleIn.dispatchTree (h : registry.IdleIn context state) (tree : Json.Tree) :
    (dispatchTree registry context tree state).EndsIn state (answerIn registry context state tree) ∧
      ¬ (answerIn registry context state tree).isHung = true := by
  have hends : ∃ answer, (Rpc.dispatchTree registry context tree state).EndsIn state answer ∧
      ¬ answer.isHung = true := by
    rw [Rpc.dispatchTree]
    -- a handler is called only where the message is a request and its method is known
    cases Request.ofTree tree with
    | error rejection => exact ⟨_, ⟨[], rfl⟩, Bool.false_ne_true⟩
    | ok request =>
      cases hfind : registry.find? request.method with
      | none =>
        simp only [dispatch, hfind]
        exact ⟨_, ⟨[], rfl⟩, ofOutcome_not_hung request _⟩
      | some handler =>
        obtain ⟨handled, hended, hfate⟩ := h request.method handler hfind request.params
        exact ⟨_, dispatch_endsIn hfind hended, Handled.answer_not_hung hfate request⟩
  obtain ⟨answer, hended, hhung⟩ := hends
  rw [answerIn, hended.finish_value]
  exact ⟨hended, hhung⟩

/-- **A batch**: in whatever order its elements have their turns and however far they have come, the
state is what it was. Each turn meets the first state again. -/
theorem Registry.IdleIn.sideBySide (h : registry.IdleIn context state) {elements : List Json.Tree}
    {final : σ} {trace : List (TurnTaken σ)} {left : List (Strand σ (Nat × Answer))}
    (hturns : SideBySide (batchStrands registry context elements) state trace left final) :
    final = state ∧ ∀ turn ∈ trace, turn.state = state := by
  refine hturns.idle fun strand hmem => ?_
  obtain ⟨entry, -, rfl⟩ := List.mem_map.1 hmem
  exact ⟨_, (h.dispatchTree entry.1).1.map _⟩

/-- **The reply to a batch** is made of what its elements come to alone, in whatever order they have
their turns. This is more than is true of batches in general, where the state can carry something
over. -/
theorem Registry.IdleIn.reply (h : registry.IdleIn context state) {elements : List Json.Tree}
    {final : σ} {trace : List (TurnTaken σ)} {answers : Answers}
    (hrun : BatchRun registry context elements state trace answers final) :
    Reply.ofBatch answers elements.length =
      .ofResponses (responsesIn registry context state elements) := by
  obtain ⟨-, hstates⟩ := h.sideBySide hrun
  have hsame : ∀ entry answer, AnswersAlone registry context trace entry answer →
      answer = answerIn registry context state entry.1 := by
    intro entry answer halone
    refine Strand.value_of_endsIn (h.dispatchTree entry.1).1 (fun other hmem => ?_) halone
    -- every state that the element has met is the first one
    obtain ⟨turn, hturn, rfl⟩ := List.mem_map.1 hmem
    exact hstates turn (List.mem_filter.1 hturn).1
  have halone := batch_answers hrun
  have hanswers : answers.map (·.2) = elements.map (answerIn registry context state) := by
    rw [← List.zipIdx_map_fst 0 elements, List.map_map, eq_comm, ← List.forall₂_eq_eq_eq,
      List.forall₂_map_left_iff, List.forall₂_map_right_iff]
    exact halone.imp fun entry positioned hpair => (hsame entry positioned.2 hpair.2).symm
  have hkept := congrArg (List.filterMap Answer.inBatch?) hanswers
  rw [List.filterMap_map, List.filterMap_map] at hkept
  rw [ofBatch_of_answers halone]
  · exact congrArg Reply.ofResponses hkept
  · intro entry answer hanswer
    rw [hsame entry answer hanswer]
    exact (h.dispatchTree entry.1).2

theorem Reply.ofResponses_of_ne {responses : List Response} (h : responses ≠ []) :
    Reply.ofResponses responses = .batch responses := by
  cases responses with
  | nil => exact absurd rfl h
  | cons => rfl

/-- **A body** leaves the state as it is, whatever it is: one that cannot be read, a message or a
batch. -/
theorem Registry.IdleIn.process (h : registry.IdleIn context state) (body : ByteArray) :
    (process registry context body state).state = state := by
  cases body_cases body with
  | unreadable hbody => rw [process_of_unreadable hbody]
  | @single tree hbody hsingle =>
    rw [process_of_single hbody hsingle]
    exact (h.dispatchTree tree).1.finish_state
  | @batch elements hbody =>
    rw [process_of_batch hbody]
    by_cases hne : elements = []
    · rw [hne]
      rfl
    · obtain ⟨trace, answers, hrun, -⟩ := processBatch_sideBySide registry context hne state
      exact (h.sideBySide hrun).1

/-- **A request that is over at once**: alone in a body its answer is all that there is to say, and in a
batch the response that goes with its answer stands among those of the other elements. The answer does
not depend on where the request stands, since no element changes the state for another one. -/
theorem Registry.IdleIn.reply_of_request (h : registry.IdleIn context state) {tree : Json.Tree}
    {request : Request} (hrequest : Request.ofTree tree = .ok request) {answer : Answer}
    (hends : (dispatch registry context request state).EndsIn state answer) :
    (∀ body, treeOfBody body = some tree →
      (Rpc.process registry context body state).reply = .ofAnswer answer) ∧
    ∀ response, answer.inBatch? = some response →
      ∀ body before after, treeOfBody body = some (.array (before ++ tree :: after)) →
        (Rpc.process registry context body state).reply =
          .batch (responsesIn registry context state before ++
            response :: responsesIn registry context state after) := by
  constructor
  · intro body hbody
    rw [process_of_request hbody hrequest, Processed.ofEnded, hends.finish_value]
  · intro response hresponse body before after hbody
    have hanswer : (answerIn registry context state tree).inBatch? = some response := by
      rw [answerIn, Rpc.dispatchTree, hrequest, hends.finish_value]
      exact hresponse
    have hne : before ++ tree :: after ≠ [] := by simp
    obtain ⟨trace, answers, hrun, hreply⟩ := processBatch_sideBySide registry context hne state
    rw [process_of_batch hbody, hreply, h.reply hrun, responsesIn_of_inBatch? hanswer]
    exact Reply.ofResponses_of_ne (by simp)

end Rpc

/-! ## Methods -/

/-- **Is it time to stop** when a request begins? A deadline has passed as soon as it is reached. -/
def Context.MustStop (context : Context) (now : Instant) : Prop :=
  context.limits.canceled = true ∨
    ∃ deadline, context.limits.deadline = some deadline ∧ deadline ≤ now

/-- What the caller is told then. That the request was cancelled is what counts, if it was. -/
def Context.stopSentence (context : Context) : String :=
  if context.limits.canceled then "Operation canceled" else "Operation timeout"

theorem Context.MustStop.stop? {context : Context} {now : Instant} (h : context.MustStop now) :
    ∃ stop, context.limits.stop? now = some stop ∧
      Rpc.Error.ofFailure stop.failure = .plain .internalError context.stopSentence := by
  rw [Limits.stop?, Context.stopSentence]
  cases hcanceled : context.limits.canceled with
  | true => exact ⟨.canceled, rfl, rfl⟩
  | false =>
    obtain hcanceledToo | ⟨deadline, hdeadline, hpassed⟩ := h
    · rw [hcanceled] at hcanceledToo
      cases hcanceledToo
    · simp only [hdeadline, Bool.false_eq_true, if_false, if_pos hpassed]
      exact ⟨.expired, rfl, rfl⟩

namespace Server

open Job Rpc

variable {context : Context} {now : Instant} {stop : Stop} {params : Option Json} {limits : Limits}

section

variable (hstop : context.limits.stop? now = some stop)

include hstop

/-- No prompts can be listed. -/
theorem atTime_hasPrompts_bind {α : Type} (f : Bool → Job CallError α) :
    ((hasPrompts context).bind f).atTime now = (f false).atTime now := by
  rw [hasPrompts, bind_eq, Job.bind_assoc]
  exact atTime_attempt_within_bind hstop _ _

/-- Nothing is said by the active prompt. -/
theorem atTime_instructions_bind {α : Type} (f : String → Job CallError α) :
    ((instructions context).bind f).atTime now = (f "").atTime now := by
  rw [instructions, bind_eq, Job.bind_assoc]
  exact atTime_attempt_within_bind hstop _ _

/-- What is left of connecting when the version and the client are known. -/
theorem atTime_connecting (version : Version) :
    ((hasPrompts context).bind fun prompts => (instructions context).bind fun text =>
      .done (greeting version prompts text)).atTime now = .done (greeting version false "") :=
  (atTime_hasPrompts_bind hstop _).trans (atTime_instructions_bind hstop _)

/-- **A client that connects** is told that there are no prompts. It may connect all the same, for
the look-ups may fail. -/
theorem connect_atTime {version : Version} (h : Greets params version) :
    (connect context params).atTime now = .done (greeting version false "") := by
  obtain ⟨hnegotiate, hinfo⟩ := negotiate_and_checkClientInfo_iff.2 h
  rw [connect, hnegotiate, hinfo]
  exact atTime_connecting hstop version

theorem callTool_atTime {call : Tool.CallParams} (h : Tool.Params.toolCall? params = some call) :
    (callTool context params).atTime now = .fail (.failed stop.failure) := by
  rw [callTool, h]
  exact atTime_within_bind hstop _ _

theorem readResource_atTime {uri : String} (h : Tool.Params.uri? params = some uri) :
    (readResource context params).atTime now = .fail (.failed stop.failure) := by
  rw [readResource, h]
  exact atTime_within_bind hstop _ _

theorem listPrompts_atTime : (listPrompts context).atTime now = .fail (.failed stop.failure) :=
  atTime_within_bind hstop _ _

theorem getPrompt_atTime {name : String} (h : promptName? params = some name) :
    (getPrompt context params).atTime now = .fail (.failed stop.failure) := by
  rw [getPrompt, h]
  exact atTime_within_bind hstop _ _

/-- The resources are listed under a limit of their own, which does not lift the others. So the
listing stops, once the limit is set. -/
theorem listResources_atTime {till : Instant}
    (h : Clock.after? now limits.resourcesList = some till) :
    (listResources limits context).atTime now = .fail (.failed stop.failure) := by
  obtain ⟨narrowed, hnarrowed⟩ :
      ∃ narrowed, context.withTimeout? now limits.resourcesList = some narrowed := by
    rw [Context.withTimeout?, Limits.withTimeout?, h]
    exact ⟨_, rfl⟩
  rw [listResources, bind_eq, limited, Job.bind, atTime]
  simp only [hnarrowed]
  exact atTime_within_bind (Context.stop?_withTimeout hstop hnarrowed) _ _

omit hstop in
/-- The listing breaks off where the clock does not reach to the end of that limit. It is the one
thing that comes before the question whether to stop. -/
theorem listResources_atTime_of_none (h : Clock.after? now limits.resourcesList = none) :
    (listResources limits context).atTime now = .abort .clockOverflow := by
  have hnone : context.withTimeout? now limits.resourcesList = none := by
    rw [Context.withTimeout?, Limits.withTimeout?, h]
    rfl
  simp only [listResources, bind_eq, limited, Job.bind, atTime, hnone]

/-- **Every method** is over at once, whatever its parameters are. Those that need parameters look
at them first, and those that need the store are stopped when they ask for it. -/
theorem methods_over {entry : String × Method} (hentry : entry ∈ methods limits)
    (params : Option Json) : ∃ fate, (entry.2 context params).OverAt now fate := by
  simp only [methods, List.mem_cons, List.not_mem_nil, or_false] at hentry
  obtain rfl | rfl | rfl | rfl | rfl | rfl | rfl | rfl | rfl := hentry
  · simp only [connect]
    cases Version.negotiate params with
    | error error => exact ⟨_, .fail rfl⟩
    | ok version =>
      cases checkClientInfo params with
      | error error => exact ⟨_, .fail rfl⟩
      | ok => exact ⟨_, .done (atTime_connecting hstop version)⟩
  · exact ⟨_, .done rfl⟩
  · exact ⟨_, .done rfl⟩
  · exact ⟨_, .done rfl⟩
  · cases hcall : Tool.Params.toolCall? params with
    | none =>
      simp only [callTool, hcall]
      exact ⟨_, .fail rfl⟩
    | some call => exact ⟨_, .fail (callTool_atTime hstop hcall)⟩
  · cases hclock : Clock.after? now limits.resourcesList with
    | none => exact ⟨_, .abort (listResources_atTime_of_none hclock)⟩
    | some till => exact ⟨_, .fail (listResources_atTime hstop hclock)⟩
  · cases huri : Tool.Params.uri? params with
    | none =>
      simp only [readResource, huri]
      exact ⟨_, .fail rfl⟩
    | some uri => exact ⟨_, .fail (readResource_atTime hstop huri)⟩
  · exact ⟨_, .fail (listPrompts_atTime hstop)⟩
  · cases hname : promptName? params with
    | none =>
      simp only [getPrompt, hname]
      exact ⟨_, .fail rfl⟩
    | some name => exact ⟨_, .fail (getPrompt_atTime hstop hname)⟩

/-- **Every handler** is over at once, and leaves the world alone. The clock stands still as well,
since nobody has waited. -/
theorem registry_idleIn {world : World} (hnow : world.now = now) (services : Services) :
    (registry services limits).IdleIn context world := by
  intro method found hfind params
  obtain ⟨entry, hentry, rfl⟩ := Option.map_eq_some_iff.1 hfind
  obtain ⟨known, hknown, rfl⟩ := List.mem_map.1 (List.mem_of_find?_eq_some hentry)
  obtain ⟨fate, hover⟩ := methods_over hstop hknown params
  subst hnow
  exact ⟨_, (hover.endsIn services).conclude _, hover.not_hung⟩

end

/-- **What comes of a request** that must stop when it begins, as the member of the reply that tells it.
All that waits for the store is told so, if it has the parameters that it needs; the rest is answered as
ever, except that to a client that connects there seem to be no prompts. A listing of resources is told so
only if the clock reaches to the end of its own time limit, because it sets that limit before it looks. -/
inductive TooLate (limits : Limits) (now : Instant) (sentence : String) :
    String → Option Json → String × Json → Prop where
  | callTool {params : Option Json} {call : Tool.CallParams}
      (hcall : Tool.Params.toolCall? params = some call) :
      TooLate limits now sentence "tools/call" params ("error", errorObject (-32603) sentence)
  | listResources {params : Option Json} {till : Instant}
      (hclock : Clock.after? now limits.resourcesList = some till) :
      TooLate limits now sentence "resources/list" params ("error", errorObject (-32603) sentence)
  | readResource {params : Option Json} {uri : String} (huri : Tool.Params.uri? params = some uri) :
      TooLate limits now sentence "resources/read" params ("error", errorObject (-32603) sentence)
  | listPrompts {params : Option Json} :
      TooLate limits now sentence "prompts/list" params ("error", errorObject (-32603) sentence)
  | getPrompt {params : Option Json} {name : String} (hname : promptName? params = some name) :
      TooLate limits now sentence "prompts/get" params ("error", errorObject (-32603) sentence)
  | connect {params : Option Json} {version : Version} (hgreets : Greets params version) :
      TooLate limits now sentence "initialize" params ("result", greeting version false "")
  | ping {params : Option Json} :
      TooLate limits now sentence "ping" params ("result", .object [])
  | listTools {params : Option Json} :
      TooLate limits now sentence "tools/list" params ("result", listTools)

/-- A request whose method is over at once with a result or an error. -/
theorem dispatch_of_over {services : Services} {request : Request} {id : RequestId} {method : Method}
    {world : World} {result : Except CallError Json} (hid : request.id = some id)
    (hfind : (registry services limits).find? request.method = some (handler services method))
    (hover : (method context request.params).OverAt world.now (.returned result)) :
    (dispatch (registry services limits) context request world).EndsIn world
      (.reply ⟨request.spelling, id, .told result⟩) := by
  rw [← ofOutcome_eq_told hid]
  exact dispatch_endsIn hfind ((hover.endsIn services).conclude _)

/-- **A request that must stop** is replied to as the table says. Five of the methods are stopped by
the store, with one sentence for all; the others do not need it. -/
theorem dispatch_of_tooLate {world : World} (h : context.MustStop world.now) (services : Services)
    {request : Request} {id : RequestId} {member : String × Json} (hid : request.id = some id)
    (hlate : TooLate limits world.now context.stopSentence request.method request.params member) :
    ∃ outcome : Outcome, outcome.member = member ∧
      (dispatch (registry services limits) context request world).EndsIn world
        (.reply ⟨request.spelling, id, outcome⟩) := by
  obtain ⟨stop, hstop, hsentence⟩ := h.stop?
  -- the two ways in which a row of the table can end
  have hfailed {method : Method}
      (hfind : (registry services limits).find? request.method = some (handler services method))
      (hfail : (method context request.params).atTime world.now = .fail (.failed stop.failure)) :
      ∃ outcome : Outcome, outcome.member = ("error", errorObject (-32603) context.stopSentence) ∧
        (dispatch (registry services limits) context request world).EndsIn world
          (.reply ⟨request.spelling, id, outcome⟩) := by
    refine ⟨_, ?_, dispatch_of_over hid hfind (.fail hfail)⟩
    rw [Outcome.told, Error.ofCallError, hsentence]
    rfl
  have hsucceeded {method : Method} {value : Json}
      (hfind : (registry services limits).find? request.method = some (handler services method))
      (hdone : (method context request.params).atTime world.now = .done value) :
      ∃ outcome : Outcome, outcome.member = ("result", value) ∧
        (dispatch (registry services limits) context request world).EndsIn world
          (.reply ⟨request.spelling, id, outcome⟩) :=
    ⟨_, rfl, dispatch_of_over hid hfind (.done hdone)⟩
  generalize hmethod : request.method = method at hlate
  cases hlate with
  | callTool hcall => exact hfailed (by rw [hmethod]; rfl) (callTool_atTime hstop hcall)
  | listResources hclock =>
    exact hfailed (by rw [hmethod]; rfl) (listResources_atTime hstop hclock)
  | readResource huri => exact hfailed (by rw [hmethod]; rfl) (readResource_atTime hstop huri)
  | listPrompts => exact hfailed (by rw [hmethod]; rfl) (listPrompts_atTime hstop)
  | getPrompt hname => exact hfailed (by rw [hmethod]; rfl) (getPrompt_atTime hstop hname)
  | connect hgreets => exact hsucceeded (by rw [hmethod]; rfl) (connect_atTime hstop hgreets)
  | ping => exact hsucceeded (by rw [hmethod]; rfl) rfl
  | listTools => exact hsucceeded (by rw [hmethod]; rfl) rfl

/-- **A listing of resources whose own time limit ends beyond the clock** breaks off, whether its
request must stop or not. For the limit is set before anything else is looked at. -/
theorem dispatch_of_unreached (context : Context) {world : World} (services : Services)
    {request : Request} (hmethod : request.method = "resources/list")
    (hclock : Clock.after? world.now limits.resourcesList = none) :
    (dispatch (registry services limits) context request world).EndsIn world
      (.aborted .clockOverflow) := by
  let method : Method := fun context _ => listResources limits context
  have hfind : (registry services limits).find? request.method = some (handler services method) := by
    rw [hmethod]
    rfl
  have hover : (method context request.params).OverAt world.now (.aborted .clockOverflow) :=
    .abort (listResources_atTime_of_none hclock)
  exact dispatch_endsIn hfind ((hover.endsIn services).conclude _)

/-- **Requests that come too late** do nothing. Let a request be cancelled, or its deadline have passed.
Then a body, whatever it is, leaves the world as it was, and the store in it. So does a batch in
whatever order its elements have their turns, however far they have come; and the reply to it is made of
what each element comes to alone. Every request with an identifier comes to what the table says, whoever
serves the store: alone in a body it is replied to with that, and in a batch this is its response, which
stands among those of the other elements.

The table leaves out one kind of request that can be answered at other times: to list the resources where
the clock does not reach to the end of the time limit for that. Such a request breaks off. Alone there is no
reply to it, and in a batch its response is that of a handler that died, which does not even have its
identifier. -/
theorem too_late_requests_do_nothing (services : Services) (limits : Limits) {context : Context}
    {world : World} (h : context.MustStop world.now) :
    let registry := registry services limits
    let responses := responsesIn registry context world
    (∀ body, (process registry context body world).state = world) ∧
      (∀ elements trace strands final,
        SideBySide (batchStrands registry context elements) world trace strands final →
          final = world) ∧
      (∀ elements trace answers final, BatchRun registry context elements world trace answers final →
        Reply.ofBatch answers elements.length = .ofResponses (responses elements)) ∧
      (∀ tree request id member, Request.ofTree tree = .ok request → request.id = some id →
        TooLate limits world.now context.stopSentence request.method request.params member →
        ∃ response : Response,
          response.toJson = .object [(request.spelling.name, .string "2.0"), ("id", id.toJson),
            member] ∧
          (∀ body, treeOfBody body = some tree →
            (process registry context body world).reply = .single response) ∧
          ∀ body before after, treeOfBody body = some (.array (before ++ tree :: after)) →
            (process registry context body world).reply =
              .batch (responses before ++ response :: responses after)) ∧
      (Clock.after? world.now limits.resourcesList = none →
        ∀ tree request, Request.ofTree tree = .ok request → request.method = "resources/list" →
          (∀ body, treeOfBody body = some tree →
            (process registry context body world).reply = .aborted .clockOverflow) ∧
          ∀ body before after, treeOfBody body = some (.array (before ++ tree :: after)) →
            (process registry context body world).reply =
              .batch (responses before ++ .died :: responses after)) := by
  intro registry responses
  obtain ⟨stop, hstop, -⟩ := h.stop?
  have hidle : registry.IdleIn context world := registry_idleIn hstop rfl services
  refine ⟨hidle.process, ?_, ?_, ?_, ?_⟩
  · intro elements trace strands final hturns
    exact (hidle.sideBySide hturns).1
  · intro elements trace answers final hrun
    exact hidle.reply hrun
  · intro tree request id member hrequest hid hlate
    obtain ⟨outcome, rfl, hends⟩ := dispatch_of_tooLate h services hid hlate
    obtain ⟨halone, hbatch⟩ := hidle.reply_of_request hrequest hends
    exact ⟨⟨request.spelling, id, outcome⟩, Response.toJson_eq _, halone, hbatch _ rfl⟩
  · intro hclock tree request hrequest hmethod
    have hends := dispatch_of_unreached context services hmethod hclock
    obtain ⟨halone, hbatch⟩ := hidle.reply_of_request hrequest hends
    exact ⟨halone, hbatch .died rfl⟩

/-- Somebody who has cancelled what was asked for, which had a deadline, too, that has passed. -/
def givingUp : Context :=
  { alice .user with limits := ⟨true, some 0⟩ }

/-- The same body by which she creates an epic otherwise does nothing, and she is told that it was
cancelled. -/
theorem too_late_requests_do_nothing_creating :
    givingUp.MustStop beginning.now ∧
      (process (registry (.ofStore .nth) ⟨1000, 1000⟩) givingUp creatingEpic.toUTF8
        beginning).state = beginning ∧
      (process (registry (.ofStore .nth) ⟨1000, 1000⟩) givingUp creatingEpic.toUTF8
        beginning).reply.toJson? = some (.object [("jsonrpc", .string "2.0"), ("id", .number (.int 1)),
          ("error", .object [("code", .number (.int (-32603))),
            ("message", .string "Operation canceled")])]) := by
  have hstop : givingUp.MustStop beginning.now := .inl rfl
  obtain ⟨hkept, -, -, hreplies, -⟩ :=
    too_late_requests_do_nothing (.ofStore .nth) ⟨1000, 1000⟩ hstop
  have hread : ((treeOfBody creatingEpic.toUTF8).bind fun tree =>
      (Request.ofTree tree).toOption.map fun request =>
        (request.id, request.method, request.spelling,
          (Tool.Params.toolCall? request.params).isSome)) =
      some (some (.number (.int 1)), "tools/call", .jsonrpc, true) := by decide +kernel
  obtain ⟨tree, hbody, hparts⟩ := Option.bind_eq_some_iff.1 hread
  obtain ⟨request, hrequest, hparts⟩ := exists_answer_of_map hparts
  simp only [Prod.mk.injEq] at hparts
  obtain ⟨hid, hmethod, hspelling, hcall⟩ := hparts
  obtain ⟨call, hcall⟩ := Option.isSome_iff_exists.1 hcall
  have hlate : TooLate ⟨1000, 1000⟩ beginning.now givingUp.stopSentence request.method
      request.params ("error", errorObject (-32603) "Operation canceled") := by
    rw [hmethod]
    exact .callTool hcall
  obtain ⟨response, hdata, halone, -⟩ := hreplies tree request _ _ hrequest hid hlate
  refine ⟨hstop, hkept _, ?_⟩
  rw [halone _ hbody, Reply.toJson?, hdata, hspelling]
  rfl

/-- The elements of a batch. -/
def elements? : Json.Tree → Option (List Json.Tree)
  | .array elements => some elements
  | .null | .bool _ | .number _ | .string _ | .object _ => none

theorem eq_array_of_elements? {tree : Json.Tree} {elements : List Json.Tree}
    (h : elements? tree = some elements) : tree = .array elements := by
  cases tree with
  | array items =>
    cases h
    rfl
  | _ => cases h

/-- A request to list the resources. -/
def listingText : String :=
  "\x7b\"jsonrpc\":\"2.0\",\"id\":1,\"method\":\"resources/list\"\x7d"

/-- The longest time limit that can be set for listing the resources: as many seconds as have 64 bits. -/
def patientListing : Limits :=
  ⟨1000, 18446744073709551615 * 1000⟩

/-- **A listing that was cancelled is not told so** under this time limit. Alone there is no reply to it. In
a batch it is told that something went wrong inside, under the identifier null, which is not its own. -/
theorem canceled_listing_breaks_off :
    givingUp.MustStop beginning.now ∧
      (process (registry (.ofStore .nth) patientListing) givingUp listingText.toUTF8
        beginning).reply = .aborted .clockOverflow ∧
      (process (registry (.ofStore .nth) patientListing) givingUp ("[" ++ listingText ++ "]").toUTF8
        beginning).reply.toJson? = some (.array [.object [("version", .string "2.0"), ("id", .null),
          ("error", .object [("code", .number (.int (-32603))),
            ("message", .string "Internal server error")])]]) := by
  have hstop : givingUp.MustStop beginning.now := .inl rfl
  obtain ⟨stop, hstops, -⟩ := hstop.stop?
  have hidle : (registry (.ofStore .nth) patientListing).IdleIn givingUp beginning :=
    registry_idleIn hstops rfl _
  have hclock : Clock.after? beginning.now patientListing.resourcesList = none := by decide +kernel
  have hreplies {tree : Json.Tree} {request : Request} (hrequest : Request.ofTree tree = .ok request)
      (hmethod : request.method = "resources/list") :=
    hidle.reply_of_request hrequest (dispatch_of_unreached givingUp (.ofStore .nth) hmethod hclock)
  refine ⟨hstop, ?_, ?_⟩
  · have hread : ((treeOfBody listingText.toUTF8).bind fun tree =>
        (Request.ofTree tree).toOption.map (·.method)) = some "resources/list" := by decide +kernel
    obtain ⟨tree, hbody, hparts⟩ := Option.bind_eq_some_iff.1 hread
    obtain ⟨request, hrequest, hmethod⟩ := exists_answer_of_map hparts
    exact (hreplies hrequest hmethod).1 _ hbody
  · have hread : (((treeOfBody ("[" ++ listingText ++ "]").toUTF8).bind elements?).map fun elements =>
        elements.map fun tree => (Request.ofTree tree).toOption.map (·.method)) =
        some [some "resources/list"] := by decide +kernel
    obtain ⟨elements, helements, hmethods⟩ := Option.map_eq_some_iff.1 hread
    obtain ⟨batch, hbody, hbatch⟩ := Option.bind_eq_some_iff.1 helements
    obtain ⟨tree, rfl, hparts⟩ := List.map_eq_singleton_iff.1 hmethods
    obtain ⟨request, hrequest, hmethod⟩ := exists_answer_of_map hparts
    obtain rfl := eq_array_of_elements? hbatch
    rw [(hreplies hrequest hmethod).2 .died rfl _ [] [] hbody]
    rfl

end Server

end Planroom
