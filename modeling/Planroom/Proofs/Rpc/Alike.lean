import Planroom.Proofs.Rpc.Single
import Planroom.Proofs.Work.Alike

/-!
# Registries that behave alike

Two registries behave alike when they know the same methods and the handlers of each method go on
alike, up to what they say at the end. What a client can tell apart is then decided by what the
handlers say and by nothing else.

* **One message** — `Registry.Alike.dispatchTree`: messages are worked off alike.
* **A batch** — `Registry.Alike.batchRun`: in whatever order the elements had their turns, with the
  other registry they can have them in the same order.
* **A body** — `Registry.Alike.process_eq`: where all answers are the same, so is what is done with a
  body.
-/

namespace Planroom.Rpc

variable {σ : Type} {R : Handled → Handled → Prop} {S : Answer → Answer → Prop}
  {first second : Registry σ}

/-- **Do two registries behave alike?** They know the same methods, and handlers of one method leave
the same states at the same turns, whatever they are called with. They may log different things, and
what they come to need only be related by `R`. -/
def Registry.Alike (R : Handled → Handled → Prop) (first second : Registry σ) : Prop :=
  ∀ method, Option.Rel
    (fun handler other => ∀ context params state,
      (handler context params state).Alike R (other context params state))
    (first.find? method) (second.find? method)

/-- Answers that are the same one by one. -/
theorem answers_eq {answers others : Answers}
    (h : List.Forall₂ (fun answer other => answer.1 = other.1 ∧ answer.2 = other.2) answers others) :
    answers = others := by
  have hpairs := h.imp fun answer other hsame => Prod.ext hsame.1 hsame.2
  rwa [List.forall₂_eq_eq_eq] at hpairs

namespace Registry.Alike

theorem symm (h : first.Alike R second)
    (hsymm : ∀ handled other, R handled other → R other handled) : second.Alike R first := by
  intro method
  have hfound := h method
  generalize first.find? method = handler at hfound ⊢
  generalize second.find? method = other at hfound ⊢
  cases hfound with
  | none => exact .none
  | some hhandler =>
    exact .some fun context params state => (hhandler context params state).symm hsymm

/-- **One message.** A message that is rejected, or whose method is not known, never reaches a
handler and is answered the same by both. -/
theorem dispatchTree (h : first.Alike R second)
    (hanswer : ∀ request handled other, R handled other →
      S (handled.answer request) (other.answer request))
    (hsame : ∀ answer, S answer answer) (context : Context) (tree : Json.Tree) (state : σ) :
    (dispatchTree first context tree state).Alike S (dispatchTree second context tree state) := by
  unfold Rpc.dispatchTree
  cases Request.ofTree tree with
  | error rejection => exact .done state _ _ (hsame _)
  | ok request =>
    have hfound := h request.method
    simp only [dispatch]
    generalize first.find? request.method = handler at hfound ⊢
    generalize second.find? request.method = other at hfound ⊢
    cases hfound with
    | none => exact .done state _ _ (hsame _)
    | some hhandler =>
      refine ((hhandler context request.params state).conclude ?_).log _ _
      intro state handled other hhandled
      rw [Handled.close_answer, Handled.close_answer]
      exact hanswer request handled other hhandled

/-- **A batch** can be worked off in the same order, with answers that are related one by one. Since
the states are the same at every turn, no element can notice which registry the others were given
to. -/
theorem batchRun (h : first.Alike R second)
    (hanswer : ∀ request handled other, R handled other →
      S (handled.answer request) (other.answer request))
    (hsame : ∀ answer, S answer answer) {context : Context} {elements : List Json.Tree}
    {state final : σ} {trace : List (TurnTaken σ)} {answers : Answers}
    (hrun : BatchRun first context elements state trace answers final) :
    ∃ others, BatchRun second context elements state trace others final ∧
      List.Forall₂ (fun answer other => answer.1 = other.1 ∧ S answer.2 other.2) answers others := by
  have hstrands : List.Forall₂
      (Strand.Alike fun answer other => answer.1 = other.1 ∧ S answer.2 other.2)
      (batchStrands first context elements) (batchStrands second context elements) := by
    rw [batchStrands, batchStrands, List.forall₂_map_left_iff, List.forall₂_map_right_iff,
      List.forall₂_same]
    intro entry _
    exact .ready fun state =>
      (h.dispatchTree hanswer hsame context entry.1 state).map fun _ _ hvalue => ⟨rfl, hvalue⟩
  obtain ⟨strands, hother, hended⟩ := SideBySide.alike hrun hstrands
  obtain ⟨others, rfl, hothers⟩ := exists_ended_of_alike hended
  exact ⟨others, hother, hothers⟩

/-- A batch, its elements beginning in the given order. -/
theorem runBatch (h : first.Alike R second)
    (hanswer : ∀ request handled other, R handled other →
      S (handled.answer request) (other.answer request))
    (hsame : ∀ answer, S answer answer) (context : Context) (elements : List Json.Tree)
    (order : List Nat) (state : σ) :
    (runBatch first context elements order state).Alike
      (List.Forall₂ fun answer other => answer.1 = other.1 ∧ S answer.2 other.2)
      (runBatch second context elements order state) := by
  refine Turn.all_alike (List.rel_filterMap (R := Eq) ?_ (List.forall₂_refl order)) state
  rintro position _ rfl
  dsimp only
  cases elements[position]? with
  | none => exact .none
  | some element =>
    exact .some fun state =>
      (h.dispatchTree hanswer hsame context element state).map fun _ _ hvalue => ⟨rfl, hvalue⟩

/-- **A body.** The reply, whether it could be read at all, and the state that is left are the same
where the answers are. -/
theorem process_eq (h : first.Alike R second)
    (hanswer : ∀ request handled other, R handled other →
      handled.answer request = other.answer request)
    (context : Context) (body : ByteArray) (state : σ) :
    (process first context body state).reply = (process second context body state).reply ∧
      (process first context body state).parseFailed =
        (process second context body state).parseFailed ∧
      (process first context body state).state = (process second context body state).state := by
  cases body_cases body with
  | unreadable hbody =>
    rw [process_of_unreadable hbody, process_of_unreadable hbody]
    exact ⟨rfl, rfl, rfl⟩
  | @single tree hbody hsingle =>
    obtain ⟨hanswer, hstate⟩ :=
      (h.dispatchTree (S := Eq) hanswer (fun _ => rfl) context tree state).finish
    rw [process_of_single hbody hsingle, process_of_single hbody hsingle]
    exact ⟨congrArg Reply.ofAnswer hanswer, rfl, hstate⟩
  | @batch elements hbody =>
    -- the elements begin in the order in which they stand, with both registries
    obtain ⟨hanswers, hstate⟩ := (h.runBatch (S := Eq) hanswer (fun _ => rfl) context elements
      (List.range elements.length) state).finish
    rw [process_of_batch hbody, process_of_batch hbody]
    cases elements with
    | nil => exact ⟨rfl, rfl, rfl⟩
    | cons =>
      refine ⟨?_, rfl, hstate⟩
      simp only [processBatch, answers_eq hanswers]

end Registry.Alike

end Planroom.Rpc
