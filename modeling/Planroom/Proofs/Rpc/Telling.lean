import Planroom.Proofs.Rpc.Alike

/-!
# What a client is told of a failure

Some failures carry a text that is none of the client's business. What the client is told is chosen by
the kind of the failure alone, except that the text of an internal one is asked whether it is about a
lost connection.

* **Failures** — `ToldAlike`: failures that may differ in such a text. The client is told the same of
  them (`ToldAlike.ofFailure_eq`).
* **Handlers** — `Handled.ToldAlike`: what has come of two calls may differ in such a text, and in how
  long they took. The requests are answered alike (`Handled.ToldAlike.answer_eq`).
-/

namespace Planroom.Rpc

/-- **Is a client told the same of two failures?** They may differ in texts that are kept back. Two
internal failures have to agree in one thing, which is whether they look like a lost connection. -/
inductive ToldAlike : Failure → Failure → Prop where
  | same (failure : Failure) : ToldAlike failure failure
  | internal {text other : String}
      (h : Error.isConnectivityFailure text = Error.isConnectivityFailure other) :
      ToldAlike (.internal text) (.internal other)
  | unavailable (text other : String) : ToldAlike (.unavailable text) (.unavailable other)
  | unauthorized (text other : String) : ToldAlike (.unauthorized text) (.unauthorized other)
  | forbidden (denial other : Denial) : ToldAlike (.forbidden denial) (.forbidden other)

theorem ToldAlike.symm {failure other : Failure} (h : ToldAlike failure other) :
    ToldAlike other failure := by
  cases h with
  | same => exact .same _
  | internal h => exact .internal h.symm
  | unavailable => exact .unavailable _ _
  | unauthorized => exact .unauthorized _ _
  | forbidden => exact .forbidden _ _

theorem ToldAlike.ofFailure_eq {failure other : Failure} (h : ToldAlike failure other) :
    Error.ofFailure failure = Error.ofFailure other := by
  cases h with
  | same | unavailable | unauthorized | forbidden => rfl
  | internal h => simp only [Error.ofFailure, h]

/-- **Has the same come of two calls**, as far as a client is told? How long they took is told to
the log only. -/
inductive Handled.ToldAlike : Handled → Handled → Prop where
  | same (fate : Fate CallError Json) (elapsed instead : Span) :
      ToldAlike ⟨fate, elapsed⟩ ⟨fate, instead⟩
  | failed {failure other : Failure} (h : Rpc.ToldAlike failure other) (elapsed instead : Span) :
      ToldAlike ⟨.returned (.error (.failed failure)), elapsed⟩
        ⟨.returned (.error (.failed other)), instead⟩

theorem Handled.ToldAlike.symm {handled other : Handled} (h : handled.ToldAlike other) :
    other.ToldAlike handled := by
  cases h with
  | same => exact .same _ _ _
  | failed h => exact .failed h.symm _ _

theorem Handled.ToldAlike.answer_eq {request : Request} {handled other : Handled}
    (h : handled.ToldAlike other) : handled.answer request = other.answer request := by
  cases h with
  | same => rfl
  | failed h =>
    simp only [Handled.answer, Answer.ofOutcome, Error.ofCallError, h.ofFailure_eq]

/-- **A batch**: in whatever order the elements have their turns, the answers are the same. So no
order could be found in which the difference would show. -/
theorem Registry.Alike.batchRun_iff {σ : Type} {first second : Registry σ}
    (h : first.Alike Handled.ToldAlike second) {context : Context} {elements : List Json.Tree}
    {state final : σ} {trace : List (TurnTaken σ)} {answers : Answers} :
    BatchRun first context elements state trace answers final ↔
      BatchRun second context elements state trace answers final := by
  have hrun {first second : Registry σ} (h : first.Alike Handled.ToldAlike second)
      (hrun : BatchRun first context elements state trace answers final) :
      BatchRun second context elements state trace answers final := by
    obtain ⟨others, hother, hsame⟩ :=
      h.batchRun (S := Eq) (fun _ _ _ hhandled => hhandled.answer_eq) (fun _ => rfl) hrun
    rwa [answers_eq hsame]
  exact ⟨hrun h, hrun (h.symm fun _ _ hhandled => hhandled.symm)⟩

end Planroom.Rpc
