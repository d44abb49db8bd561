import Planroom.Proofs.Rpc.Batch
import Planroom.Proofs.Rpc.Envelope
import Planroom.Proofs.Rpc.Errors

/-!
# A request that stands alone

A body that is one request is replied to by one object, or by nothing at all.

* **Alone** — a body is no JSON, one message, or a batch (`body_cases`). A message that is no batch is
  worked off by itself (`process_of_single`), and a request is no batch (`process_of_request`).
* **What comes of it** — `OutcomeOf`: what the reply holds where a method is not known, where its handler
  has succeeded, and where it has failed.
* **The reply** — it has the version as it was spelled, the identifier as it was given and what came
  of the request (`dispatch_of_id`). Where no identifier was given there is no reply
  (`dispatch_of_notification`).

All of this is said of the data of the reply and not of the values from which the data is made, since
the data is what a client gets.
-/

namespace Planroom.Rpc

variable {σ : Type} {registry : Registry σ} {context : Context} {body : ByteArray}
  {tree : Json.Tree} {request : Request} {state : σ}

/-! ## Alone -/

/-- **What is done with a body**, when its working off has come to an end. -/
def Processed.ofEnded (ended : Ended σ Answer) : Processed σ :=
  ⟨.ofAnswer ended.value, false, ended.state, ended.events⟩

/-- **What a body can be**: no JSON, one message, or a batch. The third is told from the second by
its brackets alone, so an empty array is a batch. -/
inductive BodyIs (body : ByteArray) : Prop where
  | unreadable (hbody : treeOfBody body = none)
  | single {tree : Json.Tree} (hbody : treeOfBody body = some tree)
      (hsingle : ∀ elements, tree ≠ .array elements)
  | batch {elements : List Json.Tree} (hbody : treeOfBody body = some (.array elements))

theorem body_cases (body : ByteArray) : BodyIs body := by
  cases hbody : treeOfBody body with
  | none => exact .unreadable hbody
  | some tree =>
    cases tree with
    | array elements => exact .batch hbody
    | _ => exact .single hbody nofun

/-- A body that is no JSON. -/
theorem process_of_unreadable (hbody : treeOfBody body = none) :
    process registry context body state = ⟨.single .parseError, true, state, []⟩ := by
  rw [process, hbody]

/-- A message that stands alone. -/
theorem process_of_single (hbody : treeOfBody body = some tree)
    (hsingle : ∀ elements, tree ≠ .array elements) :
    process registry context body state =
      .ofEnded (dispatchTree registry context tree state).finish := by
  rw [process, hbody]
  cases tree with
  | array elements => exact absurd rfl (hsingle elements)
  | _ => rfl

/-- An array is no request. Requests are objects, and nothing that is written as an array stands for
one. -/
theorem ofTree_array (elements : List Json.Tree) :
    ∃ rejection, Request.ofTree (.array elements) = .error rejection := by
  have hwritten : (Json.Tree.array elements).written =
      (Json.Tree.writtenItems (Json.maxDepth - 1) elements).map .array := by
    simp only [Json.Tree.written, Json.maxDepth, Json.Tree.writtenWithin]
  rw [Request.ofTree, hwritten]
  cases Json.Tree.writtenItems (Json.maxDepth - 1) elements with
  | none => exact ⟨_, rfl⟩
  | some items =>
    have hexpand : (Json.array items).expand = (Json.expandItems Json.parse items).map .array := by
      rw [Json.expand, Json.expandWith]
    rw [Option.map_some]
    simp only [Request.ofWritten, hexpand]
    cases Json.expandItems Json.parse items <;> exact ⟨_, rfl⟩

/-- **A request that stands alone** is worked off without looking at its syntax again. -/
theorem process_of_request (hbody : treeOfBody body = some tree)
    (hrequest : Request.ofTree tree = .ok request) :
    process registry context body state =
      .ofEnded (dispatch registry context request state).finish := by
  have hsingle (elements : List Json.Tree) : tree ≠ .array elements := by
    rintro rfl
    obtain ⟨rejection, hrejected⟩ := ofTree_array elements
    rw [hrejected] at hrequest
    cases hrequest
  rw [process_of_single hbody hsingle, dispatchTree, hrequest]

/-! ## What comes of a request -/

/-- **What comes of a request** that is worked off alone, as the member of the reply that tells it. There
is one name for a result and another one for an error, and a request comes to one of the two. -/
inductive OutcomeOf (registry : Registry σ) (context : Context) (request : Request) (state : σ) :
    String × Json → Prop where
  /-- A method that is not known. -/
  | unknown (hunknown : registry.find? request.method = none) :
      OutcomeOf registry context request state
        ("error", errorObject (-32601) ("Method not found: " ++ request.method))
  /-- The handler has said what the result is. -/
  | succeeded {handler : Handler σ} {value : Json}
      (hfound : registry.find? request.method = some handler)
      (hfate : (handler context request.params state).finish.value.fate = .returned (.ok value)) :
      OutcomeOf registry context request state ("result", value)
  /-- The handler has said what went wrong. -/
  | failed {handler : Handler σ} {error : CallError} {code : Int} {sentence : String}
      (hfound : registry.find? request.method = some handler)
      (hfate : (handler context request.params state).finish.value.fate =
        .returned (.error error))
      (htold : error.ToldBy code sentence) :
      OutcomeOf registry context request state ("error", errorObject code sentence)

/-- The member of a reply that tells what came of the request: one for a result, another for an
error. -/
def Outcome.member : Outcome → String × Json
  | .result value => ("result", value)
  | .error failure => ("error", failure.toJson)

/-- The answer to a request with an identifier. -/
theorem ofOutcome_of_id {id : RequestId} (hid : request.id = some id)
    (result : Except CallError Json) :
    Answer.ofOutcome request result = .reply ⟨request.spelling, id, match result with
      | .ok value => .result value
      | .error error => .error (.ofCallError error)⟩ := by
  rw [Answer.ofOutcome, hid]
  cases result <;> rfl

/-- **A request with an identifier** is replied to with what comes of it. An identifier of null
counts as one. -/
theorem dispatch_of_id (hreturns : registry.Returns) (context : Context) {id : RequestId}
    (hid : request.id = some id) (state : σ) :
    ∃ outcome : Outcome, OutcomeOf registry context request state outcome.member ∧
      (dispatch registry context request state).finish.value =
        .reply ⟨request.spelling, id, outcome⟩ := by
  rw [dispatch]
  cases hfind : registry.find? request.method with
  | none =>
    let failure : CallError := .methodNotFound ("Method not found: " ++ request.method)
    exact ⟨.error (.ofCallError failure), .unknown hfind, ofOutcome_of_id hid (.error failure)⟩
  | some handler =>
    obtain ⟨result, hfate⟩ :=
      (hreturns request.method handler hfind context request.params state).finish
    simp only [Turn.finish_log, Turn.finish_conclude, Handled.close, hfate, ofOutcome_of_id hid]
    cases result with
    | ok value => exact ⟨.result value, .succeeded hfind hfate, rfl⟩
    | error error =>
      -- the object that stands in the reply is known from the failure, without looking at how it is
      -- made
      obtain ⟨code, sentence, htold, hdata⟩ := exists_toldBy error
      refine ⟨.error (.ofCallError error), ?_, rfl⟩
      rw [Outcome.member, hdata]
      exact .failed hfind hfate htold

/-- **A notification** is not answered, whatever comes of it: not where its method is not known, and
not where it fails. -/
theorem dispatch_of_notification (hreturns : registry.Returns) (hid : request.id = none)
    (state : σ) : (dispatch registry context request state).finish.value = .silent := by
  have hsilent : ∀ result, Answer.ofOutcome request result = .silent := by
    intro result
    rw [Answer.ofOutcome, hid]
  rw [dispatch]
  cases hfind : registry.find? request.method with
  | none => exact hsilent (.error _)
  | some handler =>
    obtain ⟨result, hfate⟩ :=
      (hreturns request.method handler hfind context request.params state).finish
    simp only [Turn.finish_log, Turn.finish_conclude, Handled.close, hfate, hsilent]

/-! ## The reply -/

theorem Response.toJson_eq (response : Response) :
    response.toJson = .object [(response.spelling.name, .string protocolVersion),
      ("id", response.id.toJson), response.outcome.member] := by
  rw [Response.toJson]
  cases response.outcome <;> rfl

/-- **The reply to a request that stands alone.** Let every handler return, and let a body be one
request. If it has no identifier, there is no reply, whatever the method and whatever comes of it.
Otherwise the reply is one object with three members: the version, under the only one of its two names
that the request has; the value that the identifier has in the request, be it null; and either the
result or the error that has come of the request. The error is an object with a code and a sentence.
Which ones they are depends on the failure alone; a method that is not known has a code of its own. -/
theorem single_reply (hreturns : registry.Returns) (context : Context) (state : σ)
    (hbody : treeOfBody body = some tree) (hrequest : Request.ofTree tree = .ok request) :
    ∃ members, tree.written = some (.object members) ∧ Request.Says members request ∧
      ("id" ∉ members.map (·.1) → (process registry context body state).reply = .nothing) ∧
      ∀ item, ("id", item) ∈ members → ∃ id member, request.id = some id ∧
        item.expand = some id.toJson ∧ OutcomeOf registry context request state member ∧
        (process registry context body state).reply.toJson? =
          some (.object [(request.spelling.name, .string "2.0"), ("id", id.toJson), member]) := by
  obtain ⟨members, hwritten, hstated⟩ := Request.says_of_ofTree hrequest
  refine ⟨members, hwritten, hstated, fun hmissing => ?_, fun item hmember => ?_⟩
  · rw [process_of_request hbody hrequest, Processed.ofEnded,
      dispatch_of_notification hreturns (hstated.notification hmissing)]
    rfl
  · obtain ⟨id, hid, hexpand⟩ := hstated.identified item hmember
    obtain ⟨outcome, houtcome, hvalue⟩ := dispatch_of_id hreturns context hid state
    have hreply : (process registry context body state).reply =
        .single ⟨request.spelling, id, outcome⟩ := by
      rw [process_of_request hbody hrequest, Processed.ofEnded, hvalue]
      rfl
    refine ⟨id, outcome.member, hid, hexpand, houtcome, ?_⟩
    rw [hreply, Reply.toJson?, Response.toJson_eq]
    rfl

/-- A request for a method that nobody knows, whose identifier is null. -/
def nullRequest : String :=
  "\x7b\"version\":\"2.0\",\"id\":null,\"method\":\"guess\"\x7d"

/-- Null is an identifier like another: the request is no notification, and it is told that its method
is not known. -/
theorem single_reply_null :
    (process counting anonymous nullRequest.toUTF8 7).reply.toJson? =
      some (.object [("version", .string "2.0"), ("id", .null),
        ("error", .object [("code", .number (.int (-32601))),
          ("message", .string "Method not found: guess")])]) := by
  have hread : ((treeOfBody nullRequest.toUTF8).bind fun tree =>
      (Request.ofTree tree).toOption.map fun request =>
        (request.id, request.method, request.spelling)) =
      some (some .null, "guess", .version) := by decide +kernel
  obtain ⟨tree, hbody, hparts⟩ := Option.bind_eq_some_iff.1 hread
  cases hrequest : Request.ofTree tree with
  | error rejection =>
    rw [hrequest] at hparts
    cases hparts
  | ok request =>
    rw [hrequest] at hparts
    obtain ⟨hid, hmethod, hspelling⟩ : request.id = some .null ∧ request.method = "guess" ∧
        request.spelling = .version := by simpa [Except.toOption] using hparts
    have hunknown : counting.find? request.method = none := by
      rw [hmethod]
      rfl
    obtain ⟨members, -, hstated, -, hreply⟩ :=
      single_reply counting_returns anonymous 7 hbody hrequest
    have hmember : "id" ∈ members.map (·.1) := by
      by_contra hmissing
      rw [hstated.notification hmissing] at hid
      cases hid
    obtain ⟨member, hitem, hname⟩ := List.mem_map.1 hmember
    obtain ⟨id, told, hsame, -, houtcome, hdata⟩ := hreply member.2 (hname ▸ hitem)
    obtain rfl := Option.some.inj (hid.symm.trans hsame)
    rw [hdata, hspelling]
    cases houtcome with
    | unknown =>
      rw [hmethod]
      rfl
    | succeeded hfound | failed hfound =>
      rw [hunknown] at hfound
      cases hfound

end Planroom.Rpc
