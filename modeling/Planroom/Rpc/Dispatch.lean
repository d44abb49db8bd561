import Planroom.Rpc.Envelope
import Planroom.Work.Run

/-!
# Dispatching requests

A registry knows a handler for each method. The state `σ` that handlers work on is left open: a
handler takes a context, parameters and a state, and works in turns until it says what came of the
call.

* **One request** — an unknown method is answered without any event. A known one leaves a trace in the
  log: received, then completed, failed or rejected, then, for a call of a tool, audited, then, where
  it took too long, slow. A notification is never answered.
* **A batch** — the elements are worked off side by side, beginning in any order; the replies come in
  the order of the elements. An element whose handler dies is answered all the same.
* **A body** — one message or an array of them. A body that is not JSON is answered at once.
-/

namespace Planroom.Rpc

/-- **What came of a call**: how it ended, and how long it took. The time comes with it, since
dispatching has no clock of its own. -/
structure Handled where
  fate : Fate CallError Json
  elapsed : Span
  deriving Repr

/-- **A handler** of a method. It sees the request's context and parameters, and leaves the state as
it likes. -/
abbrev Handler (σ : Type) := Context → Option Json → σ → Turn σ Handled

/-- **The methods that are known**, each with its handler, and how long a call may take before that
is logged. It is put together when the program starts and does not change. -/
structure Registry (σ : Type) where
  handlers : List (String × Handler σ)
  slowThreshold : Span

namespace Registry

variable {σ : Type}

/-- No methods. -/
def empty (slowThreshold : Span) : Registry σ := ⟨[], slowThreshold⟩

/-- The handler of a method, whose name must be spelled exactly so. -/
def find? (registry : Registry σ) (method : String) : Option (Handler σ) :=
  (registry.handlers.find? (·.1 == method)).map (·.2)

/-- Is the method known? -/
def has (registry : Registry σ) (method : String) : Bool :=
  (registry.find? method).isSome

/-- **Add a method**, which must not be known already. A second handler would never be found, so it
is a mistake of the program and stops it. -/
def register (registry : Registry σ) (method : String) (handler : Handler σ) :
    Except Abort (Registry σ) :=
  if registry.has method then
    .error (.other ("JSON-RPC method " ++ method ++ " registered twice"))
  else .ok { registry with handlers := registry.handlers ++ [(method, handler)] }

end Registry

/-- The method whose calls are audited: the one by which artifacts are changed. -/
def auditedMethod : String := "tools/call"

/-- **What came of one element**: a reply or none, and whether it came to an end at all. The last
two are told apart because a reply may be made for a handler that died, but not for one that is
still at it. -/
inductive Answer where
  | reply (response : Response)
  | silent
  | aborted (reason : Abort)
  | hung
  deriving Repr

section

variable {σ : Type}

/-- The reply to a request with an identifier; a notification has none, not even when it failed. -/
def Answer.ofOutcome (request : Request) (result : Except CallError Json) : Answer :=
  match request.id with
  | none => .silent
  | some id =>
    match result with
    | .ok value => .reply (.success request.spelling id value)
    | .error error => .reply (.failure request.spelling id (.ofCallError error))

/-- What is logged after a call that returned. Slowness comes last and does not depend on how the
call ended. -/
def closingEvents (registry : Registry σ) (context : Context) (request : Request) (elapsed : Span)
    (result : Except CallError Json) : List Audit.Event :=
  [.ofOutcome context request.method elapsed (result.map fun _ => ())] ++
  (if request.method = auditedMethod then
    [.ofCall context request.params result.toBool] else []) ++
  (if registry.slowThreshold < elapsed then
    [.slow (.ofContext context) request.method elapsed registry.slowThreshold] else [])

/-- What is logged at the end of a call, and the answer to it. Only a call that returned leaves a
trace of its end. -/
def Handled.close (registry : Registry σ) (context : Context) (request : Request)
    (handled : Handled) : List Audit.Event × Answer :=
  match handled.fate with
  | .returned result =>
    (closingEvents registry context request handled.elapsed result, .ofOutcome request result)
  | .aborted reason => ([], .aborted reason)
  | .hung => ([], .hung)

/-- **Work off a request.** That a request came in is logged before the handler begins, so it is
there even if nothing else ever is. -/
def dispatch (registry : Registry σ) (context : Context) (request : Request) (state : σ) :
    Turn σ Answer :=
  match registry.find? request.method with
  | none =>
    .done state []
      (.ofOutcome request (.error (.methodNotFound ("Method not found: " ++ request.method))))
  | some handler =>
    ((handler context request.params state).conclude fun _ handled =>
      handled.close registry context request).log
        [.ofRequest context request.method request.id request.params]

/-- **Work off one message.** One that is not a request is answered with its rejection, and neither
state nor log learn of it. -/
def dispatchTree (registry : Registry σ) (context : Context) (tree : Json.Tree) (state : σ) :
    Turn σ Answer :=
  match Request.ofTree tree with
  | .error rejection => .done state [] (.reply rejection)
  | .ok request => dispatch registry context request state

/-! ## Batches -/

/-- What came of the elements of a batch, each by its position. -/
abbrev Answers := List (Nat × Answer)

/-- **Work off the elements at the given positions** side by side, beginning in this order. Turn by
turn, what one of them did to the state is what the next one finds. -/
def runBatch (registry : Registry σ) (context : Context) (elements : List Json.Tree)
    (order : List Nat) (state : σ) : Turn σ Answers :=
  Turn.all
    (order.filterMap fun position =>
      elements[position]?.map fun element => fun state =>
        (dispatchTree registry context element state).map fun answer => (position, answer))
    state

/-- The reply that an answer puts into a batch. One for an element that died is there even if the
element was a notification. -/
def Answer.inBatch? : Answer → Option Response
  | .reply response => some response
  | .silent => none
  | .aborted _ => some .died
  | .hung => none

/-- Did an element hang? Then the batch waits for it, and nobody gets a reply. -/
def Answer.isHung : Answer → Bool
  | .hung => true
  | _ => false

/-- The replies of a batch of `n` elements, in the order of the elements. The answers may be in any
order: each is found by its position. -/
def Answers.replies (answers : Answers) (n : Nat) : List Response :=
  -- The positions are gone through in order, whatever the order of the answers.
  (List.range n).filterMap fun position =>
    (answers.find? (·.1 == position)).bind fun answer => answer.2.inBatch?

/-- **The reply to a body.** -/
inductive Reply where
  /-- There is nothing to say. -/
  | nothing
  /-- One reply. -/
  | single (response : Response)
  /-- The replies of a batch. -/
  | batch (responses : List Response)
  /-- The only handler died. -/
  | aborted (reason : Abort)
  /-- There never is a reply. -/
  | hung
  deriving Repr

/-- A reply in data. Where there is none, there is no body either. -/
def Reply.toJson? : Reply → Option Json
  | .single response => some response.toJson
  | .batch responses => some (.array (responses.map Response.toJson))
  | _ => none

/-- The reply of a batch: nothing where no element has one. An empty array is never sent. -/
def Reply.ofBatch (answers : Answers) (n : Nat) : Reply :=
  if answers.any fun answer => answer.2.isHung then .hung
  else match answers.replies n with
    | [] => .nothing
    | responses => .batch responses

/-- The reply of a message that stands alone. There is nobody to answer for it if its handler dies.
-/
def Reply.ofAnswer : Answer → Reply
  | .reply response => .single response
  | .silent => .nothing
  | .aborted reason => .aborted reason
  | .hung => .hung

/-! ## Bodies -/

/-- **A body that has been worked off.** The state and the events are there for whatever came of it.
-/
structure Processed (σ : Type) where
  reply : Reply
  /-- Was the body no JSON at all? -/
  parseFailed : Bool
  state : σ
  events : List Audit.Event

/-- Work off a batch, beginning in the given order. An empty one is answered by a single error in an
array. -/
def processBatch (registry : Registry σ) (context : Context) (elements : List Json.Tree)
    (order : List Nat) (state : σ) : Processed σ :=
  match elements with
  | [] =>
    ⟨.batch [.invalidRequest .version .null "batch must not be empty"], false, state, []⟩
  | _ =>
    let ended := (runBatch registry context elements order state).finish
    ⟨.ofBatch ended.value elements.length, false, ended.state, ended.events⟩

/-- Work off a body whose syntax is known, the elements of a batch in their order. An array is
always a batch, whatever is in it. -/
def processTree (registry : Registry σ) (context : Context) (tree : Json.Tree) (state : σ) :
    Processed σ :=
  -- A single message is not a batch of one: its reply is not put into an array.
  match tree with
  | .array elements =>
    processBatch registry context elements (List.range elements.length) state
  | _ =>
    let ended := (dispatchTree registry context tree state).finish
    ⟨.ofAnswer ended.value, false, ended.state, ended.events⟩

/-- The syntax of a body, which is JSON in UTF-8. Whether its numbers and texts have values does not
matter yet. -/
def treeOfBody (body : ByteArray) : Option Json.Tree :=
  (String.fromUTF8? body).bind fun text => Json.Tree.parse text.toList

/-- **Work off a body.** This is the way in for everything that is sent over the protocol. -/
def process (registry : Registry σ) (context : Context) (body : ByteArray) (state : σ) :
    Processed σ :=
  match treeOfBody body with
  | none => ⟨.single .parseError, true, state, []⟩
  | some tree => processTree registry context tree state

end

end Planroom.Rpc
