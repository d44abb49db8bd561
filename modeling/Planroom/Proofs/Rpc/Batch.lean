import Mathlib.Data.List.Forall2
import Planroom.Proofs.Keys
import Planroom.Proofs.Work.Interleaving
import Planroom.Rpc.Dispatch

/-!
# Batches in any order

The elements of a batch are worked off side by side, on one state. Whatever order their turns come
in, the reply to the batch is put together from what each element comes to by itself.

* **Notifications** — `isNotification` tells the elements to which nothing is said. Everything else
  in a batch, down to a bare number, is told something.
* **Returning** — `Registry.Returns`: every handler says what came of a call, whatever that is and
  whatever others do to the state meanwhile.
* **One element** — `dispatchTree_ends_of`: how a message is worked off, whatever is to be shown of the
  answer. A notification ends in silence, all else with a reply (`dispatchTree_ends`).
* **All elements** — `batch_answers`: each answer is that of its element alone, in the states in
  which it was its turn.
-/

namespace Planroom.Rpc

variable {σ : Type}

/-! ## One element -/

/-- **Is the message a notification**: a request, and one without an identifier? What is no request
at all is not one, and is told so. -/
def isNotification (tree : Json.Tree) : Bool :=
  match Request.ofTree tree with
  | .ok request => request.isNotification
  | .error _ => false

/-- **Does every handler return**, with a result or an error? It is asked for whatever others do
between its turns. -/
def Registry.Returns (registry : Registry σ) : Prop :=
  ∀ method handler, registry.find? method = some handler →
    ∀ context params state, (handler context params state).Ends fun handled =>
      ∃ result, handled.fate = .returned result

/-- **Is this the sort of answer that a message gets?** Silence for a notification, a reply for all
else. -/
def Answer.Suits (tree : Json.Tree) (answer : Answer) : Prop :=
  if isNotification tree then answer = .silent else ∃ response, answer = .reply response

/-- An answer that suits a message is not one that never comes. -/
theorem Answer.Suits.not_hung {tree : Json.Tree} {answer : Answer} (h : answer.Suits tree) :
    ¬ answer.isHung = true := by
  unfold Answer.Suits at h
  split at h
  · rw [h]
    exact Bool.false_ne_true
  · obtain ⟨response, rfl⟩ := h
    exact Bool.false_ne_true

/-- The answer to a request that has come to a result. Whether it is a reply or silence is decided
by the identifier and not by the result. -/
theorem suits_ofOutcome {tree : Json.Tree} {request : Request}
    (htree : Request.ofTree tree = .ok request) (result : Except CallError Json) :
    (Answer.ofOutcome request result).Suits tree := by
  obtain ⟨id, method, params, spelling⟩ := request
  rw [Answer.Suits, isNotification, htree]
  cases id with
  | none => exact rfl
  | some id =>
    cases result with
    | ok value => exact ⟨_, rfl⟩
    | error error => exact ⟨_, rfl⟩

/-- **The answer to a request** of which this has come. What was logged on the way is left out. -/
def Handled.answer (request : Request) (handled : Handled) : Answer :=
  match handled.fate with
  | .returned result => .ofOutcome request result
  | .aborted reason => .aborted reason
  | .hung => .hung

theorem Handled.close_answer (registry : Registry σ) (context : Context) (request : Request)
    (handled : Handled) : (handled.close registry context request).2 = handled.answer request := by
  unfold Handled.close Handled.answer
  cases handled.fate <;> rfl

/-- **How a message is worked off.** It ends with its rejection, with what is answered where the
method is not known, or with the answer that the handler has come to. Each way has a premise of its
own, so that one proof serves whatever is to be shown of the answer. -/
theorem dispatchTree_ends_of {registry : Registry σ} {tree : Json.Tree} {P : Answer → Prop}
    {Q : Handled → Prop}
    (hhandlers : ∀ method handler, registry.find? method = some handler →
      ∀ context params state, (handler context params state).Ends Q)
    (hrejected : ∀ rejection, Request.ofTree tree = .error rejection → P (.reply rejection))
    (hunknown : ∀ request error, Request.ofTree tree = .ok request →
      P (.ofOutcome request (.error error)))
    (hhandled : ∀ request handled, Request.ofTree tree = .ok request → Q handled →
      P (handled.answer request))
    (context : Context) (state : σ) : (dispatchTree registry context tree state).Ends P := by
  unfold dispatchTree
  cases htree : Request.ofTree tree with
  | error rejection => exact hrejected rejection htree
  | ok request =>
    simp only [dispatch]
    cases hfind : registry.find? request.method with
    | none => exact hunknown request _ htree
    | some handler =>
      rw [Turn.ends_log]
      have hhandler := hhandlers request.method handler hfind context request.params state
      refine hhandler.conclude fun _ handled hended => ?_
      rw [Handled.close_answer]
      exact hhandled request handled htree hended

/-- **An element ends** in silence if it is a notification, and with a reply if it is anything else.
-/
theorem dispatchTree_ends {registry : Registry σ} (hreturns : registry.Returns) (context : Context)
    (tree : Json.Tree) (state : σ) :
    (dispatchTree registry context tree state).Ends (Answer.Suits tree) := by
  refine dispatchTree_ends_of hreturns ?_ ?_ ?_ context state
  · intro rejection htree
    rw [Answer.Suits, isNotification, htree]
    exact ⟨rejection, rfl⟩
  · intro request error htree
    exact suits_ofOutcome htree (.error error)
  · rintro request handled htree ⟨result, hresult⟩
    rw [Handled.answer, hresult]
    exact suits_ofOutcome htree result

/-! ## All elements -/

/-- **The elements of a batch before their first turns**, each with its position. The position goes
along with the answer, since answers come in the order in which elements end. -/
def batchStrands (registry : Registry σ) (context : Context) (elements : List Json.Tree) :
    List (Strand σ (Nat × Answer)) :=
  elements.zipIdx.map fun entry =>
    (Strand.ready (dispatchTree registry context entry.1)).map fun answer => (entry.2, answer)

/-- **A batch that is worked off**: its elements have come to these answers, in the order of turns
that the trace tells. Nothing is said about which order that is. -/
def BatchRun (registry : Registry σ) (context : Context) (elements : List Json.Tree) (state : σ)
    (trace : List (TurnTaken σ)) (answers : Answers) (final : σ) : Prop :=
  SideBySide (batchStrands registry context elements) state trace (answers.map .ended) final

/-- **Does an answer come from an element alone**, taken through the states in which it had its
turn? The other elements show in those states and nowhere else. -/
def AnswersAlone (registry : Registry σ) (context : Context) (trace : List (TurnTaken σ))
    (entry : Json.Tree × Nat) (answer : Answer) : Prop :=
  (Strand.ready (dispatchTree registry context entry.1)).through (statesOf trace entry.2) =
    some (.ended answer)

/-- **The answers of a batch** stand in the order of its elements, whatever order their turns came
in, and each of them comes from its element alone. -/
theorem batch_answers {registry : Registry σ} {context : Context} {elements : List Json.Tree}
    {state final : σ} {trace : List (TurnTaken σ)} {answers : Answers}
    (hrun : BatchRun registry context elements state trace answers final) :
    List.Forall₂ (fun entry positioned => positioned.1 = entry.2 ∧
      AnswersAlone registry context trace entry positioned.2) elements.zipIdx answers := by
  have hlength : elements.zipIdx.length = answers.length := by
    have hsame := SideBySide.length_eq hrun
    rw [batchStrands, List.length_map, List.length_map] at hsame
    exact hsame.symm
  refine List.forall₂_iff_get.2 ⟨hlength, fun i hi hanswer => ?_⟩
  have hstrand : (batchStrands registry context elements)[i]? =
      some ((Strand.ready (dispatchTree registry context elements.zipIdx[i].1)).map
        fun answer => (elements.zipIdx[i].2, answer)) := by
    rw [batchStrands, List.getElem?_map, List.getElem?_eq_getElem hi]
    rfl
  -- what an element does in the batch, it does alone when it is given the states of its own turns
  have hthrough := SideBySide.through_statesOf hrun hstrand
  rw [Strand.through_map, List.getElem?_map, List.getElem?_eq_getElem hanswer] at hthrough
  -- the element alone has come to an end too, and to the same one
  obtain ⟨strand, hstates, hended⟩ := Option.map_eq_some_iff.1 hthrough.symm
  have hposition : elements.zipIdx[i].2 = i := by simp
  cases strand with
  | ready next => cases hended
  | ended answer =>
    have hpair : (elements.zipIdx[i].2, answer) = answers[i] := Strand.ended.inj hended
    change answers[i].1 = elements.zipIdx[i].2 ∧
      AnswersAlone registry context trace elements.zipIdx[i] answers[i].2
    rw [← hpair, AnswersAlone, hposition]
    exact ⟨rfl, hstates⟩

/-- Each answer is of the sort that its element gets. -/
theorem AnswersAlone.suits {registry : Registry σ} (hreturns : registry.Returns) {context : Context}
    {trace : List (TurnTaken σ)} {entry : Json.Tree × Nat} {answer : Answer}
    (h : AnswersAlone registry context trace entry answer) : answer.Suits entry.1 :=
  Strand.value_of_through (dispatchTree_ends hreturns context entry.1) h

/-! ## The reply -/

/-- **The reply that is made of responses.** -/
def Reply.ofResponses : List Response → Reply
  | [] => .nothing
  | responses => .batch responses

/-- Answers that stand in the order of their positions are put together as they stand. Sorting them
by position changes nothing then. -/
theorem replies_of_positions {answers : Answers} {n : Nat}
    (hpositions : answers.map (·.1) = List.range n) :
    answers.replies n = answers.filterMap fun positioned => positioned.2.inBatch? := by
  have hnodup : (answers.map (·.1)).Nodup := by
    rw [hpositions]
    exact List.nodup_range
  rw [Answers.replies, ← hpositions, List.filterMap_map]
  refine List.filterMap_congr fun positioned hmem => ?_
  rw [Function.comp_apply, (find?_key_eq_some_iff hnodup).2 ⟨hmem, rfl⟩]
  rfl

/-- What is true of whatever stands beside something. -/
theorem forall_of_forall₂ {α β : Type} {R : α → β → Prop} {P : β → Prop} {l : List α} {m : List β}
    (himp : ∀ a b, R a b → P b) (h : List.Forall₂ R l m) : ∀ b ∈ m, P b := by
  have hback : List.Forall₂ (fun b a => P b ∧ R a b) m l :=
    List.Forall₂.flip (h.imp fun a b hab => ⟨himp a b hab, hab⟩)
  exact ((List.forall₂_and_left m l).1 hback).1

/-- What stands beside the elements that are kept, when something is kept of each of them alone.
What is dropped on the one side is dropped on the other. -/
theorem forall₂_filter_filterMap {α β γ : Type} {R : α → β → Prop} {Q : α → γ → Prop}
    {keep : α → Bool} {f : β → Option γ} {l : List α} {m : List β}
    (hkeep : ∀ a b, R a b → keep a = true → ∃ c, f b = some c ∧ Q a c)
    (hdrop : ∀ a b, R a b → keep a = false → f b = none) (h : List.Forall₂ R l m) :
    List.Forall₂ Q (l.filter keep) (m.filterMap f) := by
  induction h with
  | nil => exact .nil
  | @cons a b l m hab _ ih =>
    cases hk : keep a with
    | true =>
      obtain ⟨c, hc, hq⟩ := hkeep a b hab hk
      rw [List.filter_cons_of_pos hk, List.filterMap_cons_some hc]
      exact .cons hq ih
    | false =>
      rw [List.filter_cons_of_neg (by rw [hk]; exact Bool.false_ne_true),
        List.filterMap_cons_none (hdrop a b hab hk)]
      exact ih

/-- The positions of the answers are those of the elements. -/
theorem positions_of_answers {registry : Registry σ} {context : Context}
    {trace : List (TurnTaken σ)} {elements : List Json.Tree} {answers : Answers}
    (h : List.Forall₂ (fun entry positioned => positioned.1 = entry.2 ∧
      AnswersAlone registry context trace entry positioned.2) elements.zipIdx answers) :
    answers.map (·.1) = List.range elements.length := by
  have hsame : elements.zipIdx.map Prod.snd = answers.map (·.1) := by
    rw [← List.forall₂_eq_eq_eq, List.forall₂_map_left_iff, List.forall₂_map_right_iff]
    exact h.imp fun _ _ hpair => hpair.1.symm
  rw [← hsame, List.zipIdx_map_snd, List.range_eq_range']

/-- **The reply to a batch** of which no element hangs is made of what its answers put into it. One
that hung would keep all the others from being told. -/
theorem ofBatch_of_answers {registry : Registry σ} {context : Context}
    {trace : List (TurnTaken σ)} {elements : List Json.Tree} {answers : Answers}
    (h : List.Forall₂ (fun entry positioned => positioned.1 = entry.2 ∧
      AnswersAlone registry context trace entry positioned.2) elements.zipIdx answers)
    (hended : ∀ entry answer, AnswersAlone registry context trace entry answer →
      ¬ answer.isHung = true) :
    Reply.ofBatch answers elements.length =
      .ofResponses (answers.filterMap fun positioned => positioned.2.inBatch?) := by
  have hhung : answers.any (fun positioned => positioned.2.isHung) = false := by
    rw [List.any_eq_false]
    refine forall_of_forall₂ ?_ h
    rintro entry positioned ⟨-, halone⟩
    exact hended entry positioned.2 halone
  rw [Reply.ofBatch, hhung, if_neg Bool.false_ne_true,
    replies_of_positions (positions_of_answers h)]
  cases answers.filterMap fun positioned => positioned.2.inBatch? <;> rfl

/-- Where every handler returns, there is one response for each element that is not a notification.
It stands where its element stands among those that are told something. -/
theorem reply_of_run {registry : Registry σ} (hreturns : registry.Returns) {context : Context}
    {elements : List Json.Tree} {state final : σ} {trace : List (TurnTaken σ)} {answers : Answers}
    (hrun : BatchRun registry context elements state trace answers final) :
    ∃ responses, Reply.ofBatch answers elements.length = .ofResponses responses ∧
      List.Forall₂
        (fun entry response => AnswersAlone registry context trace entry (.reply response))
        (elements.zipIdx.filter fun entry => !isNotification entry.1) responses := by
  have hanswers := batch_answers hrun
  refine ⟨answers.filterMap fun positioned => positioned.2.inBatch?, ?_, ?_⟩
  · exact ofBatch_of_answers hanswers fun _ _ halone => (halone.suits hreturns).not_hung
  · refine forall₂_filter_filterMap ?_ ?_ hanswers
    · rintro entry positioned ⟨-, halone⟩ hkeep
      have hsuits := halone.suits hreturns
      rw [Answer.Suits, if_neg (by simpa using hkeep)] at hsuits
      obtain ⟨response, hresponse⟩ := hsuits
      rw [hresponse] at halone ⊢
      exact ⟨response, rfl, halone⟩
    · rintro entry positioned ⟨-, halone⟩ hdrop
      have hsuits := halone.suits hreturns
      rw [Answer.Suits, if_pos (by simpa using hdrop)] at hsuits
      rw [hsuits]
      rfl

/-- What a list holds at its positions is the list. -/
theorem filterMap_range_getElem? {α β : Type} (f : Nat → α → β) (l : List α) :
    (List.range l.length).filterMap (fun i => l[i]?.map (f i)) =
      l.zipIdx.map fun entry => f entry.2 entry.1 := by
  have hrange : List.range l.length = l.zipIdx.map Prod.snd := by
    rw [List.zipIdx_map_snd, List.range_eq_range']
  rw [hrange, List.filterMap_map, ← List.filterMap_eq_map]
  refine List.filterMap_congr fun entry hentry => ?_
  rw [Function.comp_apply, List.mem_zipIdx_iff_getElem?.1 hentry]
  rfl

/-- **What is done with a batch** is one of the orders in which the turns can come, and what is
logged is what is logged then. So what is proved of every order is true of the program. -/
theorem processBatch_logged (registry : Registry σ) (context : Context)
    {elements : List Json.Tree} (hne : elements ≠ []) (state : σ) :
    ∃ trace answers,
      BatchRun registry context elements state trace answers
        (processBatch registry context elements (List.range elements.length) state).state ∧
      (processBatch registry context elements (List.range elements.length) state).reply =
        .ofBatch answers elements.length ∧
      (processBatch registry context elements (List.range elements.length) state).events =
        eventsOf (batchStrands registry context elements) trace := by
  obtain ⟨trace, hturns, hevents⟩ := Turn.all_sideBySide
    (elements.zipIdx.map fun entry => fun state =>
      (dispatchTree registry context entry.1 state).map fun answer => (entry.2, answer)) state
  rw [List.map_map] at hturns hevents
  have hworks := filterMap_range_getElem? (fun position element => fun state =>
    (dispatchTree registry context element state).map fun answer => (position, answer)) elements
  cases elements with
  | nil => exact absurd rfl hne
  | cons first rest =>
    refine ⟨trace, _, ?_, rfl, ?_⟩
    · simp only [BatchRun, processBatch, runBatch, hworks]
      exact hturns
    · simp only [processBatch, runBatch, hworks]
      exact hevents

theorem processBatch_sideBySide (registry : Registry σ) (context : Context)
    {elements : List Json.Tree} (hne : elements ≠ []) (state : σ) :
    ∃ trace answers,
      BatchRun registry context elements state trace answers
        (processBatch registry context elements (List.range elements.length) state).state ∧
      (processBatch registry context elements (List.range elements.length) state).reply =
        .ofBatch answers elements.length := by
  obtain ⟨trace, answers, hrun, hreply, -⟩ := processBatch_logged registry context hne state
  exact ⟨trace, answers, hrun, hreply⟩

/-- A body that is a batch. -/
theorem process_of_batch {registry : Registry σ} {context : Context} {body : ByteArray}
    {elements : List Json.Tree} (hbody : treeOfBody body = some (.array elements)) (state : σ) :
    process registry context body state =
      processBatch registry context elements (List.range elements.length) state := by
  rw [process, hbody]
  rfl

theorem ofResponses_eq_nothing_iff {responses : List Response} :
    Reply.ofResponses responses = .nothing ↔ responses = [] := by
  cases responses with
  | nil => exact ⟨fun _ => rfl, fun _ => rfl⟩
  | cons => exact ⟨nofun, nofun⟩

/-- Nothing is kept of a batch exactly when all of it is notifications. -/
theorem kept_eq_nil_iff {elements : List Json.Tree} :
    (elements.zipIdx.filter fun entry => !isNotification entry.1) = [] ↔
      ∀ element ∈ elements, isNotification element = true := by
  rw [List.filter_eq_nil_iff]
  constructor
  · intro h element hmem
    obtain ⟨i, hi⟩ := List.getElem?_of_mem hmem
    simpa using h (element, i) (List.mem_zipIdx_iff_getElem?.2 hi)
  · intro h entry hentry
    simpa using h entry.1 (List.fst_mem_of_mem_zipIdx hentry)

/-- **The reply to a batch in any order.** Let every handler return. Then in whatever order the
elements of a batch have their turns, the batch is replied to in the order of its elements, with one
response for each element that is not a notification: the response that the element alone is given,
in the states in which it had its turns. There is no reply at all exactly when all elements are
notifications. However far the elements have come, the batch can be brought to its end; and what is
done with a body that is such a batch is one of these orders. -/
theorem batch_reply_in_any_order {registry : Registry σ} (hreturns : registry.Returns)
    (context : Context) {elements : List Json.Tree} (hne : elements ≠ []) (state : σ) :
    (∀ trace answers final, BatchRun registry context elements state trace answers final →
      ∃ responses, Reply.ofBatch answers elements.length = .ofResponses responses ∧
        List.Forall₂
          (fun entry response => AnswersAlone registry context trace entry (.reply response))
          (elements.zipIdx.filter fun entry => !isNotification entry.1) responses ∧
        (Reply.ofBatch answers elements.length = .nothing ↔
          ∀ element ∈ elements, isNotification element = true)) ∧
    (∀ trace strands between,
      SideBySide (batchStrands registry context elements) state trace strands between →
      ∃ later answers final,
        BatchRun registry context elements state (trace ++ later) answers final) ∧
    ∀ body, treeOfBody body = some (.array elements) →
      ∃ trace answers,
        BatchRun registry context elements state trace answers
          (process registry context body state).state ∧
        (process registry context body state).reply = .ofBatch answers elements.length := by
  refine ⟨?_, ?_, ?_⟩
  · intro trace answers final hrun
    obtain ⟨responses, hreply, hkept⟩ := reply_of_run hreturns hrun
    refine ⟨responses, hreply, hkept, ?_⟩
    rw [hreply, ofResponses_eq_nothing_iff, ← kept_eq_nil_iff, ← List.length_eq_zero_iff,
      ← List.length_eq_zero_iff, hkept.length_eq]
  · intro trace strands between hsoFar
    -- no element waits for another one, so those that are left can always be taken to their ends
    obtain ⟨later, answers, final, hlater⟩ := SideBySide.complete strands between
    exact ⟨later, answers, final, hsoFar.trans hlater⟩
  · intro body hbody
    obtain ⟨trace, answers, hrun, hreply⟩ :=
      processBatch_sideBySide registry context hne state
    have hprocess : process registry context body state =
        processBatch registry context elements (List.range elements.length) state := by
      rw [process, hbody]
      rfl
    rw [hprocess]
    exact ⟨trace, answers, hrun, hreply⟩

/-! ### A batch of three -/

/-- One method, which tells how often it was called before. Its replies show the order of the turns.
-/
def counting : Registry Nat :=
  ⟨[("count", fun _ _ calls => .done (calls + 1) [] ⟨.returned (.ok (.ofNat calls)), 0⟩)], 1000⟩

theorem counting_returns : counting.Returns := by
  intro method handler hfind context params state
  obtain ⟨entry, hentry, rfl⟩ := Option.map_eq_some_iff.1 hfind
  obtain rfl := List.mem_singleton.1 (List.mem_of_find?_eq_some hentry)
  exact ⟨_, rfl⟩

/-- A message whose members are all texts. -/
def messageOf (members : List (String × String)) : Json.Tree :=
  .object (members.map fun member =>
    (member.1.toList.map .char, .string (member.2.toList.map .char)))

/-- A request, a notification, and something that is neither. -/
def countingBatch : List Json.Tree :=
  [messageOf [("jsonrpc", "2.0"), ("id", "a"), ("method", "count")],
    messageOf [("jsonrpc", "2.0"), ("method", "count")],
    .bool true]

/-- A context without a user. -/
def anonymous : Context := ⟨"c", none, .none⟩

/-- In whatever order they have their turns, the first and the last are replied to. -/
theorem batch_reply_in_any_order_counting :
    (∃ trace answers final, BatchRun counting anonymous countingBatch 0 trace answers final) ∧
      ∀ trace answers final, BatchRun counting anonymous countingBatch 0 trace answers final →
        ∃ first last, Reply.ofBatch answers 3 = .batch [first, last] := by
  have hne : countingBatch ≠ [] := List.cons_ne_nil _ _
  obtain ⟨hany, hcomplete, -⟩ := batch_reply_in_any_order counting_returns anonymous hne 0
  refine ⟨?_, fun trace answers final hrun => ?_⟩
  · obtain ⟨later, answers, final, hrun⟩ := hcomplete [] _ 0 (.rest _ 0)
    exact ⟨later, answers, final, hrun⟩
  · obtain ⟨responses, hreply, hkept, -⟩ := hany trace answers final hrun
    have hlength :
        (countingBatch.zipIdx.filter fun entry => !isNotification entry.1).length = 2 := by
      decide +kernel
    rw [hkept.length_eq] at hlength
    obtain ⟨first, last, rfl⟩ := List.length_eq_two.1 hlength
    exact ⟨first, last, hreply⟩

end Planroom.Rpc
