import Planroom.Proofs.Rpc.Single
import Planroom.Proofs.Work.Logging

/-!
# What is told of a body in the log

Every request of a known method leaves its trace in the log, be it a notification or not and whatever
comes of it: that it was received, how it ended and, for a call of a tool, its audit. Nothing else that
stands in a body does.

* **Under a name** — `Audit.Event.caller?`: the events that are logged under the name of a user.
* **One message** — `Life`: what is logged of a message before its handler begins and after it has
  ended. `dispatchTree_chronicle`: this and what the handler itself logs in between is all.
* **A body** — `Chronicled`: so it is for each message of a body, and nothing else is logged, in whatever
  order the messages have their turns (`chronicled_of_run`). The body as it is worked off is one of these
  orders (`exists_run_process`).
* **Discretion** — `Registry.Discreet`: where no handler logs anything under a name, whatever is logged
  under one is told by `Life` alone (`Chronicled.named`).
-/

namespace Planroom

/-! ## Under a name -/

namespace Audit.Event

/-- **Under whose name is an event logged**, if it is one of a request? Events of the server itself
have no name. -/
def caller? : Event → Option Caller
  | .received caller .. | .completed caller .. | .failed caller .. | .rejected caller ..
  | .audited caller .. | .slow caller .. => some caller
  | _ => none

/-- Only these events tell of a user. No other event has a field for one. -/
theorem exists_caller_of_user {event : Event} {user : Json} (h : ("user_id", user) ∈ event.fields) :
    ∃ caller, event.caller? = some caller ∧ user = .string caller.user := by
  cases event <;> simp_all [fields, callerFields, exchangeFields, caller?]

end Audit.Event

namespace Rpc

variable {σ : Type} {registry : Registry σ} {context : Context} {tree : Json.Tree} {states : List σ}

/-! ## One message -/

/-- **How a request is told to have ended.** Only the two failures from inside are told as failures,
which an operator has to look into. All other errors are told as rejections, under the message of
the error. -/
inductive Closes (caller : Audit.Caller) (method : String) (elapsed : Span) :
    Except CallError Json → Audit.Event → Prop where
  | completed (value : Json) :
      Closes caller method elapsed (.ok value) (.completed caller method elapsed)
  | internal (text : String) :
      Closes caller method elapsed (.error (.failed (.internal text)))
        (.failed caller method elapsed ("internal: " ++ text))
  | unavailable (text : String) :
      Closes caller method elapsed (.error (.failed (.unavailable text)))
        (.failed caller method elapsed ("storage unavailable: " ++ text))
  | rejected {error : CallError} (hinternal : ∀ text, error ≠ .failed (.internal text))
      (hunavailable : ∀ text, error ≠ .failed (.unavailable text)) :
      Closes caller method elapsed (.error error) (.rejected caller method elapsed error.message)

/-- Every result of a call is told in one of these ways. -/
theorem closes_ofOutcome (context : Context) (method : String) (elapsed : Span)
    (result : Except CallError Json) :
    Closes (.ofContext context) method elapsed result
      (.ofOutcome context method elapsed (result.map fun _ => ())) := by
  cases result with
  | ok value => exact .completed value
  | error error =>
    by_cases herror : error.isInternal = true
    · cases error with
      | failed failure =>
        cases failure with
        | internal text => exact .internal text
        | unavailable text => exact .unavailable text
        | _ => cases herror
      | _ => cases herror
    · -- any other error is the client's affair, and it is logged under the message that the client
      -- reads
      have hevent : Audit.Event.ofOutcome context method elapsed (.error error) =
          .rejected (.ofContext context) method elapsed error.message := if_neg herror
      change Closes _ _ _ _ (Audit.Event.ofOutcome context method elapsed (.error error))
      rw [hevent]
      refine .rejected ?_ ?_
      · rintro text rfl
        exact herror rfl
      · rintro text rfl
        exact herror rfl

/-- **What is logged of a message**, before its handler begins and after it has ended. Identifiers
play no part in it, so a notification leaves the same trace as any request. -/
inductive Life (registry : Registry σ) (context : Context) (tree : Json.Tree) (states : List σ) :
    List Audit.Event → List Audit.Event → Prop where
  /-- A request of a known method, whose handler came to this result. -/
  | known {request : Request} {handler : Handler σ} {result : Except CallError Json}
      {elapsed : Span} {closing : Audit.Event} (hrequest : Request.ofTree tree = .ok request)
      (hfind : registry.find? request.method = some handler)
      (hended : (Strand.ready (handler context request.params)).through states =
        some (.ended ⟨.returned result, elapsed⟩))
      (hclosing : Closes (.ofContext context) request.method elapsed result closing) :
      Life registry context tree states
        [.received (.ofContext context) request.method request.id
          (Audit.redactParams request.params)]
        (closing ::
          (if request.method = "tools/call" then
            [.audited (.ofContext context) (.ofParams request.params) result.toBool] else []) ++
          if registry.slowThreshold < elapsed then
            [.slow (.ofContext context) request.method elapsed registry.slowThreshold] else [])
  /-- Anything else. -/
  | other (hother : ∀ request, Request.ofTree tree = .ok request →
      registry.find? request.method = none) :
      Life registry context tree states [] []

/-- **What the handler of a message logs** itself, taken through the states in which the message had
its turns. -/
def handlerEvents (registry : Registry σ) (context : Context) (tree : Json.Tree) (states : List σ) :
    List Audit.Event :=
  match Request.ofTree tree with
  | .error _ => []
  | .ok request =>
    match registry.find? request.method with
    | none => []
    | some handler => (Strand.ready (handler context request.params)).logged states

/-- **All that is logged of a message**, in this order: what comes before the handler, what the
handler logs, what comes after it. -/
def Chronicle (registry : Registry σ) (context : Context) (tree : Json.Tree) (states : List σ)
    (log : List Audit.Event) : Prop :=
  ∃ before after, Life registry context tree states before after ∧
    log = before ++ handlerEvents registry context tree states ++ after

/-- Work that is over at once and logs nothing. -/
theorem logged_of_done (answer : Answer) (states : List σ) :
    (Strand.ready fun state : σ => Turn.done state [] answer).logged states = [] := by
  cases states with
  | nil => rfl
  | cons state states =>
    rw [Strand.logged_ready, Turn.left, Strand.logged_ended]
    rfl

/-- A request is answered, or passed over in silence, because its handler has returned. One that
died or hung would have brought neither. -/
theorem Handled.exists_returned {handled : Handled} {request : Request}
    (h : (handled.answer request).Suits tree) : ∃ result, handled.fate = .returned result := by
  rw [Handled.answer] at h
  cases hfate : handled.fate with
  | returned result => exact ⟨result, rfl⟩
  | aborted reason =>
    rw [hfate, Answer.Suits] at h
    split at h
    · cases h
    · obtain ⟨response, hresponse⟩ := h
      cases hresponse
  | hung =>
    rw [hfate] at h
    exact absurd rfl h.not_hung

theorem dispatchTree_of_found {request : Request} {handler : Handler σ}
    (hrequest : Request.ofTree tree = .ok request)
    (hfind : registry.find? request.method = some handler) :
    dispatchTree registry context tree = fun state =>
      ((handler context request.params state).conclude fun _ handled =>
        handled.close registry context request).log
          [.ofRequest context request.method request.id request.params] := by
  funext state
  simp only [dispatchTree, hrequest, dispatch, hfind]

/-- A message that no handler is called for is over at once, and nothing is logged. -/
theorem dispatchTree_of_other (context : Context)
    (hother : ∀ request, Request.ofTree tree = .ok request → registry.find? request.method = none) :
    ∃ answer, dispatchTree registry context tree = fun state => .done state [] answer := by
  cases hrequest : Request.ofTree tree with
  | error rejection =>
    refine ⟨.reply rejection, funext fun state => ?_⟩
    rw [dispatchTree, hrequest]
  | ok request =>
    refine ⟨.ofOutcome request (.error (.methodNotFound ("Method not found: " ++ request.method))),
      funext fun state => ?_⟩
    simp only [dispatchTree, hrequest, dispatch, hother request hrequest]

theorem handlerEvents_of_found {request : Request} {handler : Handler σ}
    (hrequest : Request.ofTree tree = .ok request)
    (hfind : registry.find? request.method = some handler) :
    handlerEvents registry context tree states =
      (Strand.ready (handler context request.params)).logged states := by
  simp only [handlerEvents, hrequest, hfind]

theorem handlerEvents_of_other
    (hother : ∀ request, Request.ofTree tree = .ok request → registry.find? request.method = none) :
    handlerEvents registry context tree states = [] := by
  rw [handlerEvents]
  split
  · rfl
  · next request hrequest => rw [hother request hrequest]

/-- **A request of a known method** that has come to its end. Its handler has returned, since the
answer is one that suits the message. -/
theorem chronicle_of_found {request : Request} {handler : Handler σ} {answer : Answer}
    (hrequest : Request.ofTree tree = .ok request)
    (hfind : registry.find? request.method = some handler) (hsuits : answer.Suits tree)
    (h : (Strand.ready (dispatchTree registry context tree)).through states = some (.ended answer)) :
    Chronicle registry context tree states
      ((Strand.ready (dispatchTree registry context tree)).logged states) := by
  rw [dispatchTree_of_found hrequest hfind] at h ⊢
  obtain ⟨hconcluded, hfront⟩ := Strand.logged_log h
  obtain ⟨final, handled, hended, hanswer, hlogged⟩ := Strand.of_concluded hconcluded
  -- the handler has returned, and so the end of the request is told
  rw [hanswer, Handled.close_answer] at hsuits
  obtain ⟨result, hfate⟩ := Handled.exists_returned hsuits
  obtain ⟨fate, elapsed⟩ := handled
  obtain rfl : fate = .returned result := hfate
  refine ⟨_, _, .known hrequest hfind hended (closes_ofOutcome context _ elapsed result), ?_⟩
  rw [hfront, hlogged, handlerEvents_of_found hrequest hfind, List.append_assoc]
  rfl

/-- **One message** that has come to its end, be it a request or not. -/
theorem dispatchTree_chronicle {answer : Answer} (hsuits : answer.Suits tree)
    (h : (Strand.ready (dispatchTree registry context tree)).through states = some (.ended answer)) :
    Chronicle registry context tree states
      ((Strand.ready (dispatchTree registry context tree)).logged states) := by
  by_cases hother : ∀ request, Request.ofTree tree = .ok request →
      registry.find? request.method = none
  · obtain ⟨early, hdone⟩ := dispatchTree_of_other context hother
    refine ⟨[], [], .other hother, ?_⟩
    rw [hdone, logged_of_done, handlerEvents_of_other hother]
    rfl
  · push Not at hother
    obtain ⟨request, hrequest, hfind⟩ := hother
    obtain ⟨handler, hhandler⟩ := Option.ne_none_iff_exists'.1 hfind
    exact chronicle_of_found hrequest hhandler hsuits h

/-! ## A body -/

/-- **The messages of a body**: its elements if it is an array, and itself if it is anything else
that can be read. A body that cannot be read has none, and so an empty log is what is asked of it.
-/
def messagesOf (body : ByteArray) : List Json.Tree :=
  match treeOfBody body with
  | none => []
  | some (.array elements) => elements
  | some tree => [tree]

/-- **Is all that is logged told by the messages**, each taken through these states? The events are
those of the messages, with their positions. The events of one message keep their order; how those
of different messages are mixed is left open. -/
structure Chronicled (registry : Registry σ) (context : Context) (messages : List Json.Tree)
    (states : Nat → List σ) (log : List (Nat × Audit.Event)) : Prop where
  positions : ∀ entry ∈ log, entry.1 < messages.length
  each : ∀ {i : Nat} {tree : Json.Tree}, messages[i]? = some tree →
    Chronicle registry context tree (states i) (partOf log i)

theorem batchStrands_getElem? (registry : Registry σ) (context : Context)
    {messages : List Json.Tree} {i : Nat} (h : messages[i]? = some tree) :
    (batchStrands registry context messages)[i]? =
      some ((Strand.ready (dispatchTree registry context tree)).map fun answer => (i, answer)) := by
  rw [batchStrands, List.getElem?_map, List.getElem?_zipIdx, h, Option.map_some, Option.map_some,
    Nat.zero_add]

/-- Each message of a batch that has been worked off has come to an answer, alone. -/
theorem exists_answersAlone {messages : List Json.Tree} {state final : σ}
    {trace : List (TurnTaken σ)} {answers : Answers}
    (hrun : BatchRun registry context messages state trace answers final) {i : Nat}
    (h : messages[i]? = some tree) :
    ∃ answer, AnswersAlone registry context trace (tree, i) answer := by
  obtain ⟨hlength, hall⟩ := List.forall₂_iff_get.1 (batch_answers hrun)
  obtain ⟨hlt, rfl⟩ := List.getElem?_eq_some_iff.1 h
  have hi : i < messages.zipIdx.length := by rwa [List.length_zipIdx]
  obtain ⟨-, halone⟩ := hall i hi (hlength ▸ hi)
  rw [List.get_eq_getElem, List.getElem_zipIdx, Nat.zero_add] at halone
  exact ⟨_, halone⟩

/-- **A batch in any order.** Part by part the log is that of one message, so it is enough to know
what a message logs when it is alone. -/
theorem chronicled_of_run (hreturns : registry.Returns) {messages : List Json.Tree}
    {state final : σ} {trace : List (TurnTaken σ)} {answers : Answers}
    (hrun : BatchRun registry context messages state trace answers final) :
    Chronicled registry context messages (statesOf trace)
      (logOf (batchStrands registry context messages) trace) := by
  refine ⟨fun entry hentry => ?_, fun {i tree} htree => ?_⟩
  · have hlt := lt_of_mem_logOf hentry
    rwa [batchStrands, List.length_map, List.length_zipIdx] at hlt
  · obtain ⟨answer, halone⟩ := exists_answersAlone hrun htree
    rw [SideBySide.partOf_logOf hrun (batchStrands_getElem? registry context htree),
      Strand.logged_map]
    exact dispatchTree_chronicle (halone.suits hreturns) halone

/-- **A body as it is worked off** is one of the orders in which its messages can have their turns,
and what is logged is what is logged then. A single message is treated as a batch of one. -/
theorem exists_run_process (registry : Registry σ) (context : Context) (body : ByteArray) (state : σ) :
    ∃ trace answers,
      BatchRun registry context (messagesOf body) state trace answers
        (process registry context body state).state ∧
      (process registry context body state).events =
        eventsOf (batchStrands registry context (messagesOf body)) trace := by
  cases body_cases body with
  | unreadable hbody =>
    rw [process_of_unreadable hbody, messagesOf, hbody]
    exact ⟨[], [], .rest [] state, rfl⟩
  | @single tree hbody hsingle =>
    have hmessages : messagesOf body = [tree] := by
      rw [messagesOf, hbody]
      cases tree with
      | array elements => exact absurd rfl (hsingle elements)
      | _ => rfl
    -- nobody else has turns, so its turns come one after the other
    obtain ⟨trace, hturns, hevents⟩ := Turn.all_sideBySide
      [fun state => (dispatchTree registry context tree state).map fun answer => (0, answer)] state
    rw [Turn.finish_all_singleton, Turn.finish_map] at hturns hevents
    rw [hmessages, process_of_single hbody hsingle]
    exact ⟨trace, [(0, (dispatchTree registry context tree state).finish.value)], hturns, hevents⟩
  | @batch elements hbody =>
    have hmessages : messagesOf body = elements := by rw [messagesOf, hbody]
    rw [hmessages, process_of_batch hbody]
    by_cases hne : elements = []
    · rw [hne]
      exact ⟨[], [], .rest [] state, rfl⟩
    · obtain ⟨trace, answers, hrun, -, hevents⟩ := processBatch_logged registry context hne state
      exact ⟨trace, answers, hrun, hevents⟩

/-! ## Discretion -/

/-- **Does no handler log anything under a name?** What it logs besides is its own affair. -/
def Registry.Discreet (registry : Registry σ) : Prop :=
  ∀ method handler, registry.find? method = some handler →
    ∀ context params state, (handler context params state).Logs fun event => event.caller? = none

/-- Whatever is logged of a message is logged under the name of the user of its context, also where
the message names somebody else. -/
theorem Life.caller {before after : List Audit.Event}
    (h : Life registry context tree states before after) :
    ∀ event ∈ before ++ after, event.caller? = some (.ofContext context) := by
  cases h with
  | other => exact List.forall_mem_nil _
  | known hrequest hfind hended hclosing =>
    refine List.forall_mem_append.2 ⟨List.forall_mem_singleton.2 rfl, ?_⟩
    refine List.forall_mem_append.2 ⟨List.forall_mem_cons.2 ⟨?_, ?_⟩, ?_⟩
    · cases hclosing <;> rfl
    · split
      · exact List.forall_mem_singleton.2 rfl
      · exact List.forall_mem_nil _
    · split
      · exact List.forall_mem_singleton.2 rfl
      · exact List.forall_mem_nil _

theorem caller?_of_mem_handlerEvents (hdiscreet : registry.Discreet) :
    ∀ event ∈ handlerEvents registry context tree states, event.caller? = none := by
  rw [handlerEvents]
  split
  · exact List.forall_mem_nil _
  · next request hrequest =>
    split
    · exact List.forall_mem_nil _
    · next handler hfind =>
      have hlogs : (Strand.ready (handler context request.params)).Logs
          fun event => event.caller? = none :=
        hdiscreet request.method handler hfind context request.params
      exact hlogs.logged states

/-- **Under a name** there is nothing but what is told of the message. So whoever reads the log for
a user reads one beginning and one end for each request. -/
theorem Chronicle.named (hdiscreet : registry.Discreet) {log : List Audit.Event}
    (h : Chronicle registry context tree states log) :
    ∃ before after, Life registry context tree states before after ∧
      log.filter (·.caller?.isSome) = before ++ after := by
  obtain ⟨before, after, hlife, rfl⟩ := h
  refine ⟨before, after, hlife, ?_⟩
  obtain ⟨hbefore, hafter⟩ := List.forall_mem_append.1 hlife.caller
  have hown : (handlerEvents registry context tree states).filter (·.caller?.isSome) = [] :=
    List.filter_eq_nil_iff.2 fun event hevent => by
      rw [caller?_of_mem_handlerEvents hdiscreet event hevent]
      exact Bool.false_ne_true
  rw [List.filter_append, List.filter_append, hown, List.append_nil,
    List.filter_eq_self.2 fun event hevent => by rw [hbefore event hevent, Option.isSome_some],
    List.filter_eq_self.2 fun event hevent => by rw [hafter event hevent, Option.isSome_some]]

/-- No other user is told of. -/
theorem Chronicle.user (hdiscreet : registry.Discreet) {log : List Audit.Event}
    (h : Chronicle registry context tree states log) {event : Audit.Event} (hevent : event ∈ log)
    {user : Json} (huser : ("user_id", user) ∈ event.fields) :
    user = .string context.userLabel := by
  obtain ⟨caller, hcaller, rfl⟩ := Audit.Event.exists_caller_of_user huser
  obtain ⟨before, after, hlife, hnamed⟩ := h.named hdiscreet
  have hmem : event ∈ before ++ after := by
    rw [← hnamed]
    exact List.mem_filter.2 ⟨hevent, by rw [hcaller, Option.isSome_some]⟩
  rw [hlife.caller event hmem] at hcaller
  cases hcaller
  rfl

/-- **The log is complete.** Let every handler return. Then whatever body is sent, and in whatever order
its messages have their turns, what is logged of a message is that it was received, how its handler has
ended and, exactly if it is a call of a tool, its audit, if the message is a request of a known method;
and nothing if it is anything else. Only the handler itself can have logged something in between. Where
no handler logs anything under a name, this is all that is logged under any, and it is logged under that
of the user. The body as it is worked off is one of these orders. -/
theorem log_complete (hreturns : registry.Returns) (context : Context) (body : ByteArray) (state : σ) :
    (∀ trace answers final,
      BatchRun registry context (messagesOf body) state trace answers final →
        Chronicled registry context (messagesOf body) (statesOf trace)
          (logOf (batchStrands registry context (messagesOf body)) trace)) ∧
    (registry.Discreet → ∀ states log, Chronicled registry context (messagesOf body) states log →
      (∀ i tree, (messagesOf body)[i]? = some tree →
        ∃ before after, Life registry context tree (states i) before after ∧
          (partOf log i).filter (·.caller?.isSome) = before ++ after) ∧
      ∀ entry ∈ log, ∀ user, ("user_id", user) ∈ entry.2.fields →
        user = .string context.userLabel) ∧
    ∃ trace answers,
      BatchRun registry context (messagesOf body) state trace answers
        (process registry context body state).state ∧
      (process registry context body state).events =
        (logOf (batchStrands registry context (messagesOf body)) trace).map (·.2) := by
  refine ⟨fun trace answers final hrun => chronicled_of_run hreturns hrun, ?_,
    exists_run_process registry context body state⟩
  intro hdiscreet states log hlog
  refine ⟨fun i tree htree => (hlog.each htree).named hdiscreet, ?_⟩
  rintro ⟨i, event⟩ hentry user huser
  have htree := List.getElem?_eq_getElem (hlog.positions _ hentry)
  exact (hlog.each htree).user hdiscreet (mem_partOf_iff.2 hentry) huser

/-! ### A call that fails, beside others -/

/-- Two methods, one of which fails whenever it is called. -/
def failing : Registry Nat :=
  ⟨[("tools/call", fun _ _ calls => .done calls [] ⟨.returned (.error (.failed (.internal "x"))), 0⟩),
    ("ping", fun _ _ calls => .done calls [] ⟨.returned (.ok .null), 0⟩)], 1000⟩

theorem failing_cases {method : String} {handler : Handler Nat}
    (hfind : failing.find? method = some handler) (context : Context) (params : Option Json)
    (calls : Nat) :
    ∃ result, handler context params calls = .done calls [] ⟨.returned result, 0⟩ := by
  obtain ⟨entry, hentry, rfl⟩ := Option.map_eq_some_iff.1 hfind
  obtain rfl | hother := List.mem_cons.1 (List.mem_of_find?_eq_some hentry)
  · exact ⟨_, rfl⟩
  · obtain rfl := List.mem_singleton.1 hother
    exact ⟨_, rfl⟩

theorem failing_returns : failing.Returns := by
  intro method handler hfind context params calls
  obtain ⟨result, hdone⟩ := failing_cases hfind context params calls
  rw [hdone]
  exact ⟨result, rfl⟩

theorem failing_discreet : failing.Discreet := by
  intro method handler hfind context params calls
  obtain ⟨result, hdone⟩ := failing_cases hfind context params calls
  rw [hdone]
  exact List.forall_mem_nil _

/-- A call of a tool, as a notification and without parameters; a request; one of an unknown method; and
something that is no message. -/
def mixedBody : String :=
  "[\x7b\"jsonrpc\":\"2.0\",\"method\":\"tools/call\"\x7d," ++
    "\x7b\"jsonrpc\":\"2.0\",\"id\":1,\"method\":\"ping\"\x7d," ++
    "\x7b\"jsonrpc\":\"2.0\",\"id\":2,\"method\":\"nope\"\x7d,3]"

/-- The call is audited although nobody is told of it, and the last two leave no trace. -/
theorem log_complete_mixed :
    (process failing anonymous mixedBody.toUTF8 0).events.map Audit.Event.message =
        ["mcp request received", "mcp request failed", "mcp action audited",
          "mcp request received", "mcp request completed"] ∧
      ∃ states log, Chronicled failing anonymous (messagesOf mixedBody.toUTF8) states log ∧
        (process failing anonymous mixedBody.toUTF8 0).events = log.map (·.2) ∧
        ∀ entry ∈ log, ∀ user, ("user_id", user) ∈ entry.2.fields →
          user = .string "anonymous" := by
  refine ⟨by decide +kernel, ?_⟩
  obtain ⟨hany, hnamed, trace, answers, hrun, hevents⟩ :=
    log_complete failing_returns anonymous mixedBody.toUTF8 0
  have hlog := hany trace answers _ hrun
  obtain ⟨-, husers⟩ := hnamed failing_discreet _ _ hlog
  exact ⟨_, _, hlog, hevents, husers⟩

end Rpc

end Planroom
