import Planroom.Proofs.Rpc.Single

/-!
# Where a parse error is told of

A body is read twice. The first reading only looks for its syntax, and a body that has none is reported
as one that could not be parsed. The second one looks for the value of each message. A message can have
a syntax and no value: a number that is out of range, half a surrogate pair, too much nesting. It is told
that it could not be parsed, but the body is not reported as such.

* **Numbers** — `Reply.errorCode?`: the number of the error that a single reply carries. Nothing that
  goes wrong in a handler has the number of a parse error (`Error.code_ofCallError_ne`).
* **Messages** — `dispatchTree_tells`: a message is told that it could not be parsed exactly when it
  has no value.
* **Bodies** — `process_parseFailed_iff` and `process_parseError_iff`, for the two readings.
-/

namespace Planroom.Rpc

variable {σ : Type} {registry : Registry σ} {context : Context}

/-! ## Numbers -/

/-- The number of the error that a reply to one request carries, if it carries one. -/
def Response.errorCode? (response : Response) : Option Int :=
  match response.outcome with
  | .error error => some error.code.value
  | .result _ => none

/-- **The number of the error** that a reply to a body carries, if it is a single one. The reply to
a batch has a number for each element at most and none as a whole. -/
def Reply.errorCode? : Reply → Option Int
  | .single response => response.errorCode?
  | _ => none

/-- **What the number of a parse error stands for.** No other code is written as this number, so a
client that reads it knows. -/
theorem Code.value_eq_iff {code : Code} : code.value = -32700 ↔ code = .parseError := by
  cases code <;> decide

theorem Error.code_ofFailure_ne (failure : Failure) :
    (Error.ofFailure failure).code ≠ .parseError := by
  intro hcode
  cases failure with
  | internal text =>
    rw [Error.ofFailure] at hcode
    split at hcode <;> cases hcode
  | _ => cases hcode

/-- **What goes wrong in a handler** is no parse error. So the number is left to the readers of
bodies. -/
theorem Error.code_ofCallError_ne (error : CallError) :
    (Error.ofCallError error).code ≠ .parseError := by
  cases error with
  | failed failure => exact Error.code_ofFailure_ne failure
  | _ => exact nofun

/-- The reply to a request that has come to a result is no parse error. -/
theorem errorCode_ofOutcome (request : Request) (result : Except CallError Json) :
    (Reply.ofAnswer (.ofOutcome request result)).errorCode? ≠ some (-32700) := by
  unfold Answer.ofOutcome
  cases request.id with
  | none => exact nofun
  | some id =>
    cases result with
    | ok value => exact nofun
    | error error =>
      intro hcode
      exact Error.code_ofCallError_ne error (Code.value_eq_iff.1 (Option.some.inj hcode))

/-! ## Messages -/

/-- A message that has no value. The reader of requests gives up on it before it looks for members.
-/
theorem ofTree_of_undecodable {tree : Json.Tree} (h : tree.decode = none) :
    Request.ofTree tree = .error .parseError := by
  rw [Json.Tree.decode, Option.bind_eq_none_iff] at h
  unfold Request.ofTree
  cases hwritten : tree.written with
  | none => rfl
  | some written => simp only [Request.ofWritten, h written hwritten]

/-- **A message is told** that it could not be parsed exactly when it has no value. Every other way
in which a message can fail has another number. -/
theorem dispatchTree_tells (hreturns : registry.Returns) (context : Context) (tree : Json.Tree)
    (state : σ) :
    (dispatchTree registry context tree state).Ends fun answer =>
      ((Reply.ofAnswer answer).errorCode? = some (-32700) ↔ tree.decode = none) := by
  -- a request has a value, and whatever comes of it is told in another way
  have htells {request : Request} (htree : Request.ofTree tree = .ok request)
      (result : Except CallError Json) :
      (Reply.ofAnswer (.ofOutcome request result)).errorCode? = some (-32700) ↔
        tree.decode = none := by
    refine iff_of_false (errorCode_ofOutcome request result) fun hdecode => ?_
    rw [ofTree_of_undecodable hdecode] at htree
    cases htree
  refine dispatchTree_ends_of hreturns ?_ ?_ ?_ context state
  · intro rejection htree
    cases hdecode : tree.decode with
    | none =>
      obtain rfl := Except.error.inj (htree.symm.trans (ofTree_of_undecodable hdecode))
      exact ⟨fun _ => rfl, fun _ => rfl⟩
    | some value =>
      -- what has a value is rejected as an invalid request
      obtain ⟨detail, rfl⟩ := Request.rejection_of_decode hdecode htree
      exact ⟨nofun, nofun⟩
  · intro request error htree
    exact htells htree (.error error)
  · rintro request handled htree ⟨result, hresult⟩
    rw [Handled.answer, hresult]
    exact htells htree result

/-! ## Bodies -/

/-- **Has a body a syntax and no value?** It is no batch then: the messages of a batch are told one
by one. The number `1e400` is such a body. -/
def IsUndecodable (body : ByteArray) : Prop :=
  ∃ tree, treeOfBody body = some tree ∧ (∀ elements, tree ≠ .array elements) ∧ tree.decode = none

theorem isUndecodable_iff {body : ByteArray} {tree : Json.Tree}
    (hbody : treeOfBody body = some tree) :
    IsUndecodable body ↔ (∀ elements, tree ≠ .array elements) ∧ tree.decode = none := by
  refine ⟨?_, fun h => ⟨tree, hbody, h⟩⟩
  rintro ⟨other, hother, h⟩
  obtain rfl := Option.some.inj (hbody.symm.trans hother)
  exact h

/-- The reply to a batch is not a single one, and the batch was parsed, whatever its elements are.
-/
theorem errorCode_processBatch (registry : Registry σ) (context : Context)
    (elements : List Json.Tree) (order : List Nat) (state : σ) :
    (processBatch registry context elements order state).reply.errorCode? = none ∧
      (processBatch registry context elements order state).parseFailed = false := by
  unfold processBatch
  cases elements with
  | nil => exact ⟨rfl, rfl⟩
  | cons =>
    refine ⟨?_, rfl⟩
    dsimp only
    unfold Reply.ofBatch
    split
    · rfl
    · split <;> rfl

/-- **The first reading** decides what is reported. It looks at nothing but the syntax. -/
theorem process_parseFailed_iff (registry : Registry σ) (context : Context) (body : ByteArray)
    (state : σ) :
    (process registry context body state).parseFailed = true ↔ treeOfBody body = none := by
  cases body_cases body with
  | unreadable hbody =>
    rw [process_of_unreadable hbody]
    exact iff_of_true rfl hbody
  | single hbody hsingle =>
    rw [process_of_single hbody hsingle, hbody]
    exact iff_of_false Bool.false_ne_true nofun
  | batch hbody =>
    rw [process_of_batch hbody, (errorCode_processBatch registry context _ _ state).2, hbody]
    exact iff_of_false Bool.false_ne_true nofun

/-- **Both readings** decide what is told. The difference between this and the report is exactly the
bodies with a syntax and no value. -/
theorem process_parseError_iff (hreturns : registry.Returns) (context : Context) (body : ByteArray)
    (state : σ) :
    (process registry context body state).reply.errorCode? = some (-32700) ↔
      treeOfBody body = none ∨ IsUndecodable body := by
  cases body_cases body with
  | unreadable hbody =>
    rw [process_of_unreadable hbody]
    exact iff_of_true rfl (.inl hbody)
  | single hbody hsingle =>
    rw [process_of_single hbody hsingle, Processed.ofEnded,
      (dispatchTree_tells hreturns context _ state).finish, isUndecodable_iff hbody, hbody]
    exact ⟨fun h => .inr ⟨hsingle, h⟩, fun h => (h.resolve_left (Option.some_ne_none _)).2⟩
  | @batch elements hbody =>
    rw [process_of_batch hbody, (errorCode_processBatch registry context _ _ state).1,
      isUndecodable_iff hbody, hbody]
    refine iff_of_false (Option.some_ne_none _).symm ?_
    rintro (h | ⟨hnot, -⟩)
    · cases h
    · exact hnot elements rfl

/-- **Is there a reply or nothing to say?** A reply that never comes is neither, and neither is a
request that takes its server down with it. -/
def Reply.Comes : Reply → Prop
  | .nothing | .single _ | .batch _ => True
  | .aborted _ | .hung => False

/-- **Every body is replied to**, be it with nothing, where every handler returns. A body that is no
request at all never reaches a handler and is told so. -/
theorem process_comes (hreturns : registry.Returns) (context : Context) (body : ByteArray)
    (state : σ) : (process registry context body state).reply.Comes := by
  cases body_cases body with
  | unreadable hbody =>
    rw [process_of_unreadable hbody]
    exact trivial
  | @single tree hbody hsingle =>
    have hsuits := (dispatchTree_ends hreturns context tree state).finish
    rw [process_of_single hbody hsingle, Processed.ofEnded]
    unfold Answer.Suits at hsuits
    split at hsuits
    · rw [hsuits]
      exact trivial
    · obtain ⟨response, hresponse⟩ := hsuits
      rw [hresponse]
      exact trivial
  | @batch elements hbody =>
    rw [process_of_batch hbody]
    by_cases hne : elements = []
    · subst hne
      exact trivial
    · obtain ⟨trace, answers, hrun, hreply⟩ := processBatch_sideBySide registry context hne state
      -- no element hangs, so the reply is put together from whatever responses there are
      obtain ⟨responses, hresponses, -⟩ := reply_of_run hreturns hrun
      rw [hreply, hresponses]
      cases responses <;> exact trivial

end Planroom.Rpc
