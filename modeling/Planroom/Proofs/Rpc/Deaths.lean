import Mathlib.Data.List.ReduceOption
import Planroom.Proofs.Rpc.Alike

/-!
# Handlers that die in a batch

A handler may die instead of returning. In a batch this concerns its own element and no other: the
elements after it keep their places, and their replies are what they would be if it had lived.

What its element puts into the reply is always the same: one error, whose identifier is null. The
request is not looked at again, and so the identifier that it has is not repeated, and a notification
is replied to as well.

* **Owed** — `IsOwed`: what an element should put into the reply.
* **Concluding** — `Registry.Concludes`: every handler returns or dies.
* **One element** — `Told`: the answer that a message comes to, and what that puts into the reply of
  a batch. Every message comes to such an answer (`dispatchTree_ends_told`), and `Told.isOwed_iff` says
  when this is what it should.
* **Others** — `Handled.Spared`: a second call goes as a first one did, unless the first one died.
* **A batch** — `contributions_of_run`: the reply is put together from what each element puts into it.
  There is an example of an identifier that is lost.
-/

namespace Planroom.Rpc

variable {σ : Type} {registry : Registry σ}

/-! ## One element -/

/-- **Does an element put into the reply what it should?** A request with an identifier is replied
to under this identifier, a notification is not replied to. Of what is no request nothing is asked.
-/
def IsOwed (tree : Json.Tree) (contribution : Option Response) : Prop :=
  ∀ request, Request.ofTree tree = .ok request → contribution.map (·.id) = request.id

/-- **Is the identifier null**, if the message is a request? It is the one identifier that is not
lost, as the error that is put in its place has the same. -/
def HasNullId (tree : Json.Tree) : Prop :=
  ∀ request, Request.ofTree tree = .ok request → request.id = some .null

/-- **Does every handler come to an end**, be it that it returns or that it dies? Only those that
hang are left out, for a batch with one of them is never replied to. -/
def Registry.Concludes (registry : Registry σ) : Prop :=
  ∀ method handler, registry.find? method = some handler →
    ∀ context params state, (handler context params state).Ends fun handled => handled.fate ≠ .hung

/-- **What a message may come to**: its answer, and what that puts into the reply of a batch. There
is one way for each end that a message can have. -/
inductive Told (tree : Json.Tree) : Answer → Option Response → Prop where
  /-- It is no request. -/
  | rejected {rejection : Response} (htree : Request.ofTree tree = .error rejection) :
      Told tree (.reply rejection) (some rejection)
  /-- It has an identifier, which the reply repeats. -/
  | replied {request : Request} {id : RequestId} (htree : Request.ofTree tree = .ok request)
      (hid : request.id = some id) (outcome : Outcome) :
      Told tree (.reply ⟨request.spelling, id, outcome⟩) (some ⟨request.spelling, id, outcome⟩)
  /-- It is a notification. -/
  | silent {request : Request} (htree : Request.ofTree tree = .ok request)
      (hid : request.id = none) : Told tree .silent none
  /-- Its handler died, whether it has an identifier or not. -/
  | died {request : Request} (htree : Request.ofTree tree = .ok request) (reason : Abort) :
      Told tree (.aborted reason) (some .died)

namespace Told

variable {tree : Json.Tree} {answer : Answer} {contribution : Option Response}

theorem inBatch?_eq (h : Told tree answer contribution) : answer.inBatch? = contribution := by
  cases h <;> rfl

theorem not_hung (h : Told tree answer contribution) : ¬ answer.isHung = true := by
  cases h <;> exact Bool.false_ne_true

/-- **What should be put into the reply** is put into it, unless the handler died and the identifier
is not null by itself. A death is thus the only thing that can lose an identifier. -/
theorem isOwed_iff (h : Told tree answer contribution) :
    IsOwed tree contribution ↔ ∀ reason, answer = .aborted reason → HasNullId tree := by
  cases h with
  | rejected htree =>
    refine iff_of_true (fun request hrequest => ?_) nofun
    rw [htree] at hrequest
    cases hrequest
  | replied htree hid | silent htree hid =>
    refine iff_of_true (fun request hrequest => ?_) nofun
    obtain rfl := Except.ok.inj (htree.symm.trans hrequest)
    exact hid.symm
  | died htree reason =>
    constructor
    · -- the one error stands there in any case, and it is right exactly for a request under null
      intro howed _ _ request hrequest
      exact (howed request hrequest).symm
    · intro hnull request hrequest
      exact (hnull reason rfl request hrequest).symm

/-- The answer to a request that has come to a result. -/
theorem ofOutcome {request : Request} (htree : Request.ofTree tree = .ok request)
    (result : Except CallError Json) :
    ∃ contribution, Told tree (.ofOutcome request result) contribution := by
  unfold Answer.ofOutcome
  cases hid : request.id with
  | none => exact ⟨none, .silent htree hid⟩
  | some id =>
    cases result with
    | ok value => exact ⟨_, .replied htree hid (.result value)⟩
    | error error => exact ⟨_, .replied htree hid (.error (.ofCallError error))⟩

end Told

/-- **Every message comes to an answer** of this kind, as long as no handler hangs. -/
theorem dispatchTree_ends_told (hconcludes : registry.Concludes) (context : Context)
    (tree : Json.Tree) (state : σ) :
    (dispatchTree registry context tree state).Ends fun answer =>
      ∃ contribution, Told tree answer contribution := by
  refine dispatchTree_ends_of hconcludes ?_ ?_ ?_ context state
  · intro rejection htree
    exact ⟨some rejection, .rejected htree⟩
  · intro request error htree
    exact Told.ofOutcome htree (.error error)
  · intro request handled htree hended
    unfold Handled.answer
    cases hfate : handled.fate with
    | returned result => exact Told.ofOutcome htree result
    | aborted reason => exact ⟨some .died, .died htree reason⟩
    | hung => exact absurd hfate hended

/-! ## Others -/

/-- **Does a second call go as the first one did**, unless the first one died? In place of a death
anything may come. How long a call takes does not matter. -/
inductive Handled.Spared : Handled → Handled → Prop where
  | same (fate : Fate CallError Json) (elapsed instead : Span) :
      Spared ⟨fate, elapsed⟩ ⟨fate, instead⟩
  | died (reason : Abort) (elapsed : Span) (other : Handled) :
      Spared ⟨.aborted reason, elapsed⟩ other

/-- **Is a second answer the same as the first one**, unless that is that the handler died? This is
how the replies of two registries are compared. -/
def Answer.Spared (answer other : Answer) : Prop :=
  answer = other ∨ ∃ reason, answer = .aborted reason

theorem Handled.Spared.answer {handled other : Handled} (h : handled.Spared other)
    (request : Request) : (handled.answer request).Spared (other.answer request) := by
  cases h with
  | same fate elapsed instead => exact .inl rfl
  | died reason => exact .inr ⟨reason, rfl⟩

/-! ## A batch -/

/-- **What an element puts into the reply**: what comes of it alone, in the states in which it had
its turns. A death among the other elements can show in it only through these states. -/
def Contributes (registry : Registry σ) (context : Context) (trace : List (TurnTaken σ))
    (entry : Json.Tree × Nat) (contribution : Option Response) : Prop :=
  ∃ answer, AnswersAlone registry context trace entry answer ∧ Told entry.1 answer contribution

/-- An element comes to one answer only. -/
theorem AnswersAlone.unique {context : Context} {trace : List (TurnTaken σ)}
    {entry : Json.Tree × Nat} {answer other : Answer}
    (h : AnswersAlone registry context trace entry answer)
    (hother : AnswersAlone registry context trace entry other) : answer = other :=
  Strand.ended.inj (Option.some.inj (h.symm.trans hother))

theorem Contributes.isOwed_iff {context : Context} {trace : List (TurnTaken σ)}
    {entry : Json.Tree × Nat} {contribution : Option Response}
    (h : Contributes registry context trace entry contribution) :
    IsOwed entry.1 contribution ↔
      ∀ reason, AnswersAlone registry context trace entry (.aborted reason) →
        HasNullId entry.1 := by
  obtain ⟨answer, halone, htold⟩ := h
  rw [htold.isOwed_iff]
  constructor
  · intro hnull reason hdied
    exact hnull reason (halone.unique hdied)
  · rintro hnull reason rfl
    exact hnull reason halone

/-- What is true of everything beside what stands there is true of all of it. -/
theorem forall₂_iff_of_forall₂ {α β : Type} {R P : α → β → Prop} {Q : α → Prop} {l : List α}
    {m : List β} (h : List.Forall₂ R l m) (hiff : ∀ a b, R a b → (P a b ↔ Q a)) :
    List.Forall₂ P l m ↔ ∀ a ∈ l, Q a := by
  induction h with
  | nil => simp
  | cons hab _ ih => rw [List.forall₂_cons, hiff _ _ hab, ih, List.forall_mem_cons]

/-- **The reply to a batch**, put together from what its elements put into it. Each element is asked
for its own part, so no death can move a reply to another place. -/
theorem contributions_of_run (hconcludes : registry.Concludes) {context : Context}
    {elements : List Json.Tree} {state final : σ} {trace : List (TurnTaken σ)} {answers : Answers}
    (hrun : BatchRun registry context elements state trace answers final) :
    ∃ contributions,
      List.Forall₂ (Contributes registry context trace) elements.zipIdx contributions ∧
      Reply.ofBatch answers elements.length = .ofResponses contributions.reduceOption := by
  have hanswers := batch_answers hrun
  have htold {entry : Json.Tree × Nat} {answer : Answer}
      (halone : AnswersAlone registry context trace entry answer) :
      ∃ contribution, Told entry.1 answer contribution :=
    Strand.value_of_through (dispatchTree_ends_told hconcludes context entry.1) halone
  refine ⟨answers.map fun positioned => positioned.2.inBatch?, ?_, ?_⟩
  · rw [List.forall₂_map_right_iff]
    refine hanswers.imp ?_
    rintro entry positioned ⟨-, halone⟩
    obtain ⟨contribution, hcontribution⟩ := htold halone
    exact ⟨positioned.2, halone, hcontribution.inBatch?_eq ▸ hcontribution⟩
  · -- no answer hangs, so nothing keeps the parts from being put together
    rw [List.reduceOption, List.filterMap_map]
    refine ofBatch_of_answers hanswers fun entry answer halone => ?_
    obtain ⟨contribution, hcontribution⟩ := htold halone
    exact hcontribution.not_hung

/-- **Deaths in a batch.** Let every handler return or die. Then in whatever order the elements of a
batch have their turns, the reply is made, in the order of the elements, of what comes of each of them
alone: the rejection of what is no request; for a request whose handler has returned, a reply with its
identifier, or nothing where it has none; and for every request whose handler has died, with an
identifier or without, the one error that has the identifier null. All elements put into the reply what
they should exactly when none has died but requests whose identifier is null. Where all handlers that
have died are spared, all else being alike, the elements can have their turns in the same order, and
every element whose handler has not died comes to the same. What is done with a body that is such a
batch is one of these orders. -/
theorem batch_reply_with_deaths (hconcludes : registry.Concludes) (context : Context)
    {elements : List Json.Tree} (hne : elements ≠ []) (state : σ) :
    (∀ trace answers final, BatchRun registry context elements state trace answers final →
      (∃ contributions,
        List.Forall₂ (Contributes registry context trace) elements.zipIdx contributions ∧
        Reply.ofBatch answers elements.length = .ofResponses contributions.reduceOption ∧
        (List.Forall₂ (fun entry contribution => IsOwed entry.1 contribution) elements.zipIdx
            contributions ↔
          ∀ entry ∈ elements.zipIdx, ∀ reason,
            AnswersAlone registry context trace entry (.aborted reason) → HasNullId entry.1)) ∧
      ∀ spared : Registry σ, registry.Alike Handled.Spared spared →
        ∃ others, BatchRun spared context elements state trace others final ∧
          List.Forall₂ (fun answer other => answer.1 = other.1 ∧ answer.2.Spared other.2)
            answers others) ∧
    ∀ body, treeOfBody body = some (.array elements) →
      ∃ trace answers,
        BatchRun registry context elements state trace answers
          (process registry context body state).state ∧
        (process registry context body state).reply = .ofBatch answers elements.length := by
  constructor
  · intro trace answers final hrun
    obtain ⟨contributions, hcontributions, hreply⟩ := contributions_of_run hconcludes hrun
    refine ⟨⟨contributions, hcontributions, hreply, ?_⟩, fun spared halike => ?_⟩
    · exact forall₂_iff_of_forall₂ hcontributions fun _ _ hcontributes => hcontributes.isOwed_iff
    · exact halike.batchRun (fun request _ _ hhandled => hhandled.answer request)
        (fun _ => .inl rfl) hrun
  · intro body hbody
    rw [process_of_batch hbody]
    obtain ⟨trace, answers, hrun, hreply⟩ := processBatch_sideBySide registry context hne state
    exact ⟨trace, answers, hrun, hreply⟩

/-! ### Two methods, one of which dies -/

/-- Two methods that tell how often they were called before. What comes of the second one is left
open. -/
def mortal (fate : Fate CallError Json) : Registry Nat :=
  ⟨[("count", fun _ _ calls => .done (calls + 1) [] ⟨.returned (.ok (.ofNat calls)), 0⟩),
    ("boom", fun _ _ calls => .done (calls + 1) [] ⟨fate, 0⟩)], 1000⟩

/-- It dies. -/
def death : Fate CallError Json := .aborted (.other "boom")

theorem mortal_concludes : (mortal death).Concludes := by
  intro method handler hfind context params state
  obtain ⟨entry, hentry, rfl⟩ := Option.map_eq_some_iff.1 hfind
  obtain rfl | hentry := List.mem_cons.1 (List.mem_of_find?_eq_some hentry)
  · exact nofun
  · obtain rfl := List.mem_singleton.1 hentry
    exact nofun

/-- Whatever else comes of the second method, it is spared. Both count the call before they come to
their end, so the states are the same. -/
theorem mortal_alike (fate : Fate CallError Json) :
    (mortal death).Alike Handled.Spared (mortal fate) := by
  intro method
  unfold Registry.find? mortal
  simp only [List.find?_cons]
  cases "count" == method with
  | true => exact .some fun _ _ state => .done _ _ _ (.same _ 0 0)
  | false =>
    cases "boom" == method with
    | true => exact .some fun _ _ state => .done _ _ _ (.died _ 0 _)
    | false => exact .none

/-- One request that is replied to and two whose handlers die, the second of them a notification. -/
def mortalBatch : List Json.Tree :=
  [messageOf [("jsonrpc", "2.0"), ("id", "a"), ("method", "count")],
    messageOf [("jsonrpc", "2.0"), ("id", "b"), ("method", "boom")],
    messageOf [("jsonrpc", "2.0"), ("method", "boom")]]

/-- In whatever order they have their turns, each of the three puts something into the reply, and they
could have had them in the same order with nobody dying. -/
theorem batch_reply_with_deaths_mortal :
    (∃ trace answers final,
      BatchRun (mortal death) anonymous mortalBatch 0 trace answers final) ∧
    ∀ trace answers final, BatchRun (mortal death) anonymous mortalBatch 0 trace answers final →
      (∃ contributions,
        List.Forall₂ (Contributes (mortal death) anonymous trace) mortalBatch.zipIdx contributions ∧
        Reply.ofBatch answers 3 = .ofResponses contributions.reduceOption) ∧
      ∃ others,
        BatchRun (mortal (.returned (.ok .null))) anonymous mortalBatch 0 trace others final := by
  have hne : mortalBatch ≠ [] := List.cons_ne_nil _ _
  obtain ⟨hruns, -⟩ := batch_reply_with_deaths mortal_concludes anonymous hne 0
  refine ⟨?_, fun trace answers final hrun => ?_⟩
  · obtain ⟨trace, answers, final, hrun⟩ :=
      SideBySide.complete (batchStrands (mortal death) anonymous mortalBatch) 0
    exact ⟨trace, answers, final, hrun⟩
  · obtain ⟨⟨contributions, hcontributions, hreply, -⟩, hspared⟩ := hruns trace answers final hrun
    obtain ⟨others, hothers, -⟩ := hspared _ (mortal_alike (.returned (.ok .null)))
    exact ⟨⟨contributions, hcontributions, hreply⟩, others, hothers⟩

/-- The identifiers of the requests in a batch. -/
def requestIds : Json.Tree → List (Option RequestId)
  | .array elements => elements.filterMap fun element => (Request.ofTree element).toOption.map (·.id)
  | _ => []

/-- The identifiers in the reply to a batch. -/
def Reply.ids : Reply → List RequestId
  | .batch responses => responses.map (·.id)
  | _ => []

/-- A request and a notification whose handlers die. -/
def dyingBatch : String :=
  "[\x7b\"version\":\"2.0\",\"id\":7,\"method\":\"boom\"\x7d," ++
    "\x7b\"version\":\"2.0\",\"method\":\"boom\"\x7d]"

/-- **The identifier is lost.** A request with an identifier whose handler dies is replied to without
it, and a notification whose handler dies is replied to as well. -/
theorem dying_request_loses_its_identifier :
    (treeOfBody dyingBatch.toUTF8).map requestIds = some [some (.number (.int 7)), none] ∧
      (process (mortal death) anonymous dyingBatch.toUTF8 0).reply.ids = [.null, .null] := by
  decide +kernel

end Planroom.Rpc
