import Planroom.Proofs.Work.Interleaving

/-!
# What work logs

Work that is taken through the states in which its turns begin logs the events of one turn after those
of the other.

* **In front and at the end** — work with something logged in front, or when it is over, logs that and
  otherwise the same (`logged_log`, `Strand.of_concluded`).
* **Alone** — `Turn.finish_all_singleton`: nothing changes for work that is side by side with none.
* **Of one sort** — `Turn.Logs`: whatever the work is resumed with, it logs nothing but events of one
  sort (`Strand.Logs.logged`).
* **Side by side** — what is logged by strands is made of the parts of each (`mem_partOf_iff`), and there
  are no others (`lt_of_mem_logOf`).
-/

namespace Planroom

variable {σ α β : Type}

/-! ## In front and at the end -/

namespace Turn

/-- What is logged in front is logged first. -/
@[simp] theorem events_log (before : List Audit.Event) (turn : Turn σ α) :
    (turn.log before).events = before ++ turn.events := by
  cases turn <;> rfl

/-- It does not change what is left of the work. -/
@[simp] theorem left_log (before : List Audit.Event) (turn : Turn σ α) :
    (turn.log before).left = turn.left := by
  cases turn <;> rfl

end Turn

namespace Strand

variable {next : σ → Turn σ α}

/-- A strand that is over logs nothing. -/
@[simp] theorem logged_ended (value : α) (states : List σ) :
    (ended value : Strand σ α).logged states = [] := by
  cases states <;> rfl

/-- The events of the first turn come first. -/
theorem logged_ready (next : σ → Turn σ α) (state : σ) (states : List σ) :
    (ready next).logged (state :: states) =
      (next state).events ++ (next state).left.logged states := rfl

/-- And the first turn is taken first. -/
theorem through_ready (next : σ → Turn σ α) (state : σ) (states : List σ) :
    (ready next).through (state :: states) = (next state).left.through states := rfl

/-- **Something logged in front** does not change how the work ends. It is logged once, in the first
turn. -/
theorem logged_log {before : List Audit.Event} {states : List σ} {value : α}
    (h : (ready fun state => (next state).log before).through states = some (.ended value)) :
    (ready next).through states = some (.ended value) ∧
      (ready fun state => (next state).log before).logged states =
        before ++ (ready next).logged states := by
  cases states with
  | nil => cases h
  | cons state states =>
    rw [through_ready, Turn.left_log] at h
    refine ⟨h, ?_⟩
    rw [logged_ready, Turn.events_log, Turn.left_log, List.append_assoc]
    rfl

/-- **Something logged at the end** depends on how the work has ended. By induction on the states,
since only the last turn concludes. -/
theorem of_concluded {close : σ → α → List Audit.Event × β} {states : List σ} {value : β}
    (h : (ready fun state => (next state).conclude close).through states = some (.ended value)) :
    ∃ final first, (ready next).through states = some (.ended first) ∧
      value = (close final first).2 ∧
      (ready fun state => (next state).conclude close).logged states =
        (ready next).logged states ++ (close final first).1 := by
  induction states generalizing next with
  | nil => cases h
  | cons state states ih =>
    rw [through_ready] at h
    rw [through_ready, logged_ready, logged_ready]
    -- the work is over in this turn, and then no state may be left, or it waits
    cases hturn : next state with
    | done after events first =>
      rw [hturn] at h
      cases states with
      | nil =>
        cases h
        refine ⟨after, first, rfl, rfl, ?_⟩
        simp [Turn.conclude, Turn.events, Turn.left]
      | cons => cases h
    | wait after events till resume =>
      rw [hturn] at h
      obtain ⟨final, first, hthrough, hvalue, hlogged⟩ := ih h
      refine ⟨final, first, hthrough, hvalue, ?_⟩
      change events ++ (ready fun later => (resume later).conclude close).logged states = _
      rw [hlogged, ← List.append_assoc]
      rfl

end Strand

/-! ## Alone -/

/-- Beside work that is over at once, work goes on as it does alone. -/
theorem Turn.finish_beside_done (turn : Turn σ α) (value : β) :
    (turn.beside fun state => done state [] value).finish =
      ⟨(turn.finish.value, value), turn.finish.state, turn.finish.events⟩ := by
  induction turn with
  | done state events own => simp [beside, map]
  | wait state events till resume ih =>
    simp only [beside, besideWaiting, finish_log, finish, ih, List.nil_append]

/-- **A single piece of work** is done as it is alone. So a message by itself is no special case of
those side by side. -/
theorem Turn.finish_all_singleton (work : σ → Turn σ α) (state : σ) :
    (all [work] state).finish =
      ⟨[(work state).finish.value], (work state).finish.state, (work state).finish.events⟩ := by
  have hnone : all ([] : List (σ → Turn σ α)) = fun state => done state [] [] := by
    funext state
    rw [all]
  rw [all, hnone, finish_map, finish_beside_done]

/-! ## Of one sort -/

/-- **Does the work log nothing but events of this sort**, in whatever states it is resumed? It is
read off the work without finishing it. -/
def Turn.Logs (P : Audit.Event → Prop) : Turn σ α → Prop
  | done _ events _ => ∀ event ∈ events, P event
  | wait _ events _ resume => (∀ event ∈ events, P event) ∧ ∀ later, (resume later).Logs P

namespace Turn

variable {P : Audit.Event → Prop} {turn : Turn σ α}

/-- So it is with its first turn. -/
theorem Logs.events (h : turn.Logs P) : ∀ event ∈ turn.events, P event := by
  cases turn with
  | done => exact h
  | wait => exact h.1

/-- Something of this sort may be logged in front. -/
theorem Logs.log {before : List Audit.Event} (h : turn.Logs P)
    (hbefore : ∀ event ∈ before, P event) : (turn.log before).Logs P := by
  cases turn with
  | done => exact List.forall_mem_append.2 ⟨hbefore, h⟩
  | wait => exact ⟨List.forall_mem_append.2 ⟨hbefore, h.1⟩, h.2⟩

/-- And something of this sort may be logged at the end. -/
theorem Logs.conclude {close : σ → α → List Audit.Event × β} (h : turn.Logs P)
    (hclose : ∀ state value, ∀ event ∈ (close state value).1, P event) :
    (turn.conclude close).Logs P := by
  induction turn with
  | done state events value => exact List.forall_mem_append.2 ⟨h, hclose state value⟩
  | wait state events till resume ih => exact ⟨h.1, fun later => ih later (h.2 later)⟩

end Turn

/-- **Does a strand log nothing but events of this sort?** -/
def Strand.Logs (P : Audit.Event → Prop) : Strand σ α → Prop
  | ready next => ∀ state, (next state).Logs P
  | ended _ => True

variable {P : Audit.Event → Prop}

/-- What is left of such work is of this sort too. -/
theorem Turn.Logs.left {turn : Turn σ α} (h : turn.Logs P) : turn.left.Logs P := by
  cases turn with
  | done => exact trivial
  | wait => exact h.2

/-- Taken through any states, such a strand logs events of this sort alone. -/
theorem Strand.Logs.logged {strand : Strand σ α} (h : strand.Logs P) (states : List σ) :
    ∀ event ∈ strand.logged states, P event := by
  induction states generalizing strand with
  | nil =>
    rw [logged_nil]
    exact List.forall_mem_nil _
  | cons state states ih =>
    cases strand with
    | ended value => exact List.forall_mem_nil _
    | ready next => exact List.forall_mem_append.2 ⟨(h state).events, ih (h state).left⟩

/-! ## Side by side -/

/-- What is in the part of a strand is in the log, under its number. -/
theorem mem_partOf_iff {log : List (Nat × Audit.Event)} {i : Nat} {event : Audit.Event} :
    event ∈ partOf log i ↔ (i, event) ∈ log := by
  rw [partOf, List.mem_map]
  constructor
  · rintro ⟨entry, hentry, rfl⟩
    obtain ⟨hmem, hlabel⟩ := List.mem_filter.1 hentry
    rw [← beq_iff_eq.1 hlabel]
    exact hmem
  · intro hmem
    exact ⟨(i, event), List.mem_filter.2 ⟨hmem, beq_self_eq_true i⟩, rfl⟩

/-- Nobody else logs anything: the numbers in the log are those of the strands. -/
theorem lt_of_mem_logOf {strands : List (Strand σ α)} {trace : List (TurnTaken σ)}
    {entry : Nat × Audit.Event} (h : entry ∈ logOf strands trace) : entry.1 < strands.length := by
  induction trace generalizing strands with
  | nil => cases h
  | cons turn trace ih =>
    obtain ⟨i, state⟩ := turn
    rw [logOf] at h
    split at h
    · next next hready =>
      obtain hown | hlater := List.mem_append.1 h
      · obtain ⟨event, -, rfl⟩ := List.mem_map.1 hown
        exact (List.getElem?_eq_some_iff.1 hready).1
      · have hlt := ih hlater
        rwa [List.length_set] at hlt
    · cases h

end Planroom
