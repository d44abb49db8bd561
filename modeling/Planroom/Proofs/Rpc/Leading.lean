import Planroom.Proofs.Rpc.Single
import Planroom.Proofs.Work.Asking

/-!
# What a body leads to

What becomes of the state when a body is worked off is put together from what the handlers of its
messages do. If each of them leads to a related state in each of its turns, so does the body, alone as
well as in whatever order the messages of a batch have their turns.

* **Messages** — `Request.StandsIn`: a request that is the body, or an element of the batch that the
  body is.
* **Handlers** — `Registry.Leads`: the handler of a request, if there is one, leads to related states.
* **Bodies** — `process_leads`, from `dispatchTree_leads` for a message and `batch_leads` for a batch.
-/

namespace Planroom.Rpc

/-- **Does a request stand in a body**, alone or in a batch? A handler is called for these requests
and for no others. -/
def Request.StandsIn (body : ByteArray) (request : Request) : Prop :=
  ∃ tree, treeOfBody body = some tree ∧ (Request.ofTree tree = .ok request ∨
    ∃ elements, tree = .array elements ∧ ∃ element ∈ elements, Request.ofTree element = .ok request)

variable {σ : Type} {R : σ → σ → Prop} {registry : Registry σ} {context : Context}

/-- **Does the handler of the request**, if there is one, lead to related states? It is asked for
each stretch between two turns, since others may have left another state in between. -/
def Registry.Leads (registry : Registry σ) (context : Context) (R : σ → σ → Prop)
    (request : Request) : Prop :=
  ∀ handler, registry.find? request.method = some handler →
    ∀ state, (handler context request.params state).Leads R state

section

variable (hrefl : ∀ state, R state state)

include hrefl

theorem dispatch_leads {request : Request} (h : registry.Leads context R request) (state : σ) :
    (dispatch registry context request state).Leads R state := by
  rw [dispatch]
  cases hfind : registry.find? request.method with
  | none => exact hrefl state
  | some handler =>
    rw [Turn.leads_log]
    exact (h handler hfind state).conclude _

/-- A message that is no request leaves the state as it is. -/
theorem dispatchTree_leads {tree : Json.Tree}
    (h : ∀ request, Request.ofTree tree = .ok request → registry.Leads context R request)
    (state : σ) : (dispatchTree registry context tree state).Leads R state := by
  rw [dispatchTree]
  cases htree : Request.ofTree tree with
  | error rejection => exact hrefl state
  | ok request => exact dispatch_leads hrefl (h request htree) state

variable (htrans : ∀ {first second third : σ}, R first second → R second third → R first third)

include htrans

/-- **A batch** leads to a related state, in whatever order its elements have their turns. The
relation is carried from turn to turn, so nothing has to be known about the order; nor has the batch
to be at its end. -/
theorem batch_leads {elements : List Json.Tree}
    (h : ∀ element ∈ elements, ∀ request, Request.ofTree element = .ok request →
      registry.Leads context R request)
    {state final : σ} {trace : List (TurnTaken σ)} {left : List (Strand σ (Nat × Answer))}
    (hturns : SideBySide (batchStrands registry context elements) state trace left final) :
    R state final := by
  refine hturns.leads hrefl htrans fun strand hmem => ?_
  obtain ⟨entry, hentry, rfl⟩ := List.mem_map.1 hmem
  have helement := h entry.1 (List.fst_mem_of_mem_zipIdx hentry)
  exact fun state => (dispatchTree_leads hrefl helement state).map _

/-- **A body** leads to a related state. It is enough to look at the requests that stand in it. -/
theorem process_leads {body : ByteArray}
    (h : ∀ request : Request, request.StandsIn body → registry.Leads context R request)
    (state : σ) : R state (process registry context body state).state := by
  cases hbody : treeOfBody body with
  | none =>
    rw [process_of_unreadable hbody]
    exact hrefl state
  | some tree =>
    by_cases hbatch : ∃ elements, tree = .array elements
    · obtain ⟨elements, rfl⟩ := hbatch
      rw [process_of_batch hbody]
      cases elements with
      | nil => exact hrefl state
      | cons first rest =>
        -- working the batch off is one of the orders that its turns can come in
        obtain ⟨trace, answers, hrun, -⟩ :=
          processBatch_sideBySide registry context (List.cons_ne_nil first rest) state
        exact batch_leads hrefl htrans (fun element hmem request hrequest =>
          h request ⟨_, hbody, .inr ⟨_, rfl, element, hmem, hrequest⟩⟩) hrun
    · rw [process_of_single hbody fun elements htree => hbatch ⟨elements, htree⟩]
      exact (dispatchTree_leads hrefl (fun request hrequest =>
        h request ⟨tree, hbody, .inl hrequest⟩) state).finish htrans

end

end Planroom.Rpc
