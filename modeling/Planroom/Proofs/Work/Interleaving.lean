import Planroom.Work.Turn

/-!
# Work side by side in any order

`Turn.all` does several pieces of work side by side and gives each turn to the one whose instant has
come. Nothing that is said of the result should depend on that choice. Here the strands take their
turns in **any** order, and what each of them does is told apart from what the others do.

* **Strand** — a piece of work between two of its turns: it is ready for the next one, or over.
* **Side by side** — `SideBySide`: strands take turns on one state, and a trace keeps whose turn it
  was and in which state it began.
* **Alone** — `through_statesOf`: each strand comes out as if it had been taken, alone, through the
  states in which its own turns began. Nothing else of the others matters to it.
* **Logged** — `logOf`: what is logged in all these turns, and by which strand. `partOf_logOf`: the part
  of each strand is what it logs alone.
* **To the end** — `SideBySide.complete`: however far the strands have come, they can all be brought
  to an end.
* **As it is done** — `all_sideBySide`: what `Turn.all` does, and logs, is that of one of these orders.
-/

namespace Planroom

/-- **A strand**: a piece of work between two of its turns. What it does in its next turn depends on
the state that it finds then. -/
inductive Strand (σ α : Type) where
  | ready (next : σ → Turn σ α)
  | ended (value : α)

/-- **Whose turn it was**, and the state in which it began. -/
structure TurnTaken (σ : Type) where
  strand : Nat
  state : σ

/-- The turn of the next strand. -/
def TurnTaken.next {σ : Type} (turn : TurnTaken σ) : TurnTaken σ :=
  ⟨turn.strand + 1, turn.state⟩

variable {σ α β : Type}

namespace Turn

/-- The state that a turn leaves. -/
def state : Turn σ α → σ
  | done state _ _ => state
  | wait state _ _ _ => state

/-- What was logged in a turn. -/
def events : Turn σ α → List Audit.Event
  | done _ events _ => events
  | wait _ events _ _ => events

/-- What is left of the work after a turn. -/
def left : Turn σ α → Strand σ α
  | done _ _ value => .ended value
  | wait _ _ _ resume => .ready resume

/-- **Does the work end as it should**, in whatever states it is resumed? It speaks of the value at
the end alone. -/
def Ends (P : α → Prop) : Turn σ α → Prop
  | done _ _ value => P value
  | wait _ _ _ resume => ∀ later, (resume later).Ends P

/-- What is logged does not matter for how the work ends. -/
@[simp] theorem ends_log {P : α → Prop} (before : List Audit.Event) (turn : Turn σ α) :
    (turn.log before).Ends P ↔ turn.Ends P := by
  cases turn <;> rfl

/-- Less may be said of how the work ends. -/
theorem Ends.imp {P Q : α → Prop} {turn : Turn σ α} (h : turn.Ends P)
    (himp : ∀ value, P value → Q value) : turn.Ends Q := by
  induction turn with
  | done state events value => exact himp value h
  | wait state events till resume ih => exact fun later => ih later (h later)

/-- To tell the value in another way logs nothing. -/
@[simp] theorem events_map (f : α → β) (turn : Turn σ α) : (turn.map f).events = turn.events := by
  cases turn <;> rfl

/-- Both may be done in either order. -/
theorem map_log (f : α → β) (before : List Audit.Event) (turn : Turn σ α) :
    (turn.log before).map f = (turn.map f).log before := by
  cases turn <;> rfl

/-- To tell it in another way twice is to tell it in another way once. -/
theorem map_map {γ : Type} (f : α → β) (g : β → γ) (turn : Turn σ α) :
    (turn.map f).map g = turn.map fun value => g (f value) := by
  induction turn with
  | done state events value => rfl
  | wait state events till resume ih => exact congrArg (wait state events till) (funext ih)

/-- Work that ends as it should goes on to do so when it is concluded. -/
theorem Ends.conclude {P : α → Prop} {Q : β → Prop} {close : σ → α → List Audit.Event × β}
    {turn : Turn σ α} (h : turn.Ends P)
    (hclose : ∀ state value, P value → Q (close state value).2) :
    (turn.conclude close).Ends Q := by
  induction turn with
  | done state events value => exact hclose state value h
  | wait state events till resume ih => exact fun later => ih later (h later)

/-- Work that ends as it should does so alone. -/
theorem Ends.finish {P : α → Prop} {turn : Turn σ α} (h : turn.Ends P) : P turn.finish.value := by
  induction turn with
  | done state events value => exact h
  | wait state events till resume ih => exact ih state (h state)

end Turn

namespace Strand

/-- The strand with another value at its end. -/
def map (f : α → β) : Strand σ α → Strand σ β
  | ready next => ready fun state => (next state).map f
  | ended value => ended (f value)

/-- **The strand, taken alone through the states in which its turns begin.** A strand that is over
takes no turn. The states are given, and so nothing has to be said of those who brought them about.
-/
def through : Strand σ α → List σ → Option (Strand σ α)
  | strand, [] => some strand
  | ended _, _ :: _ => none
  | ready next, state :: states => (next state).left.through states

/-- **What the strand logs, taken alone through these states.** It goes along with `through`. -/
def logged : Strand σ α → List σ → List Audit.Event
  | _, [] => []
  | ended _, _ :: _ => []
  | ready next, state :: states => (next state).events ++ (next state).left.logged states

/-- Without a turn nothing is logged. -/
@[simp] theorem logged_nil (strand : Strand σ α) : strand.logged [] = [] := by
  cases strand <;> rfl

/-- Without a turn a strand stays where it is. -/
@[simp] theorem through_nil (strand : Strand σ α) : strand.through [] = some strand := by
  cases strand <;> rfl

/-- What a turn leaves ends with the other value as well. -/
theorem left_map (f : α → β) (turn : Turn σ α) : (turn.map f).left = turn.left.map f := by
  cases turn <;> rfl

/-- Another value at the end is all that is different. -/
theorem through_map (f : α → β) (strand : Strand σ α) (states : List σ) :
    (strand.map f).through states = (strand.through states).map (Strand.map f) := by
  induction states generalizing strand with
  | nil => simp
  | cons state states ih =>
    cases strand with
    | ended value => rfl
    | ready next =>
      change (((next state).map f).left).through states = _
      rw [left_map]
      exact ih (next state).left

/-- It logs the same, whatever value it ends with. -/
theorem logged_map (f : α → β) (strand : Strand σ α) (states : List σ) :
    (strand.map f).logged states = strand.logged states := by
  induction states generalizing strand with
  | nil => simp
  | cons state states ih =>
    cases strand with
    | ended value => rfl
    | ready next =>
      change ((next state).map f).events ++ (((next state).map f).left).logged states = _
      rw [Turn.events_map, left_map, ih]
      rfl

/-- A strand that was taken to its end has ended as it should. By induction on the states, for only
the last turn has a value. -/
theorem value_of_through {P : α → Prop} {next : σ → Turn σ α} (hends : ∀ state, (next state).Ends P)
    {states : List σ} {value : α} (h : (ready next).through states = some (ended value)) :
    P value := by
  induction states generalizing next with
  | nil => cases h
  | cons state states ih =>
    have hturn := hends state
    change (next state).left.through states = some (ended value) at h
    cases hnext : next state with
    | done after events found =>
      rw [hnext] at h hturn
      cases states with
      | nil =>
        cases h
        exact hturn
      | cons => cases h
    | wait after events till resume =>
      rw [hnext] at h hturn
      exact ih hturn h

end Strand

/-! ## Turns in any order -/

/-- **Strands side by side**: in each turn one of those that are ready goes on, whichever it is.
There is no rule of fairness, and so no order is left out. -/
inductive SideBySide :
    List (Strand σ α) → σ → List (TurnTaken σ) → List (Strand σ α) → σ → Prop where
  | rest (strands : List (Strand σ α)) (state : σ) : SideBySide strands state [] strands state
  | turn {strands after : List (Strand σ α)} {state final : σ} {trace : List (TurnTaken σ)}
      {i : Nat} {next : σ → Turn σ α} (hready : strands[i]? = some (.ready next))
      (hlater : SideBySide (strands.set i (next state).left) (next state).state trace after final) :
      SideBySide strands state (⟨i, state⟩ :: trace) after final

/-- **The states in which the turns of one strand began**, in order. -/
def statesOf (trace : List (TurnTaken σ)) (i : Nat) : List σ :=
  (trace.filter (·.strand == i)).map (·.state)

/-- **What is logged** when strands take these turns, each event with the strand that has logged it.
It is read off the turns, in their order. -/
def logOf : List (Strand σ α) → List (TurnTaken σ) → List (Nat × Audit.Event)
  | _, [] => []
  | strands, ⟨i, state⟩ :: trace =>
    match strands[i]? with
    | some (.ready next) =>
      (next state).events.map (fun event => (i, event)) ++
        logOf (strands.set i (next state).left) trace
    | _ => []

/-- **The part of one strand** in what is logged. -/
def partOf (log : List (Nat × Audit.Event)) (i : Nat) : List Audit.Event :=
  (log.filter (·.1 == i)).map (·.2)

/-- The part of a strand in two logs is its part in the one, and then in the other. -/
theorem partOf_append (log more : List (Nat × Audit.Event)) (i : Nat) :
    partOf (log ++ more) i = partOf log i ++ partOf more i := by
  rw [partOf, List.filter_append, List.map_append]
  rfl

/-- What a turn logs is in the part of its strand, and in no other one. -/
theorem partOf_events (events : List Audit.Event) (i j : Nat) :
    partOf (events.map fun event => (i, event)) j = if i = j then events else [] := by
  rw [partOf, List.filter_map, List.map_map]
  split
  · next hsame =>
    simp [hsame, Function.comp_def]
  · next hother =>
    simp [hother, Function.comp_def]

/-- The first turn is that of a strand which is ready. -/
theorem logOf_turn {strands : List (Strand σ α)} {i : Nat} {next : σ → Turn σ α}
    (hready : strands[i]? = some (.ready next)) (state : σ) (trace : List (TurnTaken σ)) :
    logOf strands (⟨i, state⟩ :: trace) =
      (next state).events.map (fun event => (i, event)) ++
        logOf (strands.set i (next state).left) trace := by
  rw [logOf, hready]

namespace SideBySide

variable {strands middle after : List (Strand σ α)} {start between final : σ}
  {trace later : List (TurnTaken σ)}

/-- Going on. -/
theorem trans (h : SideBySide strands start trace middle between)
    (hlater : SideBySide middle between later after final) :
    SideBySide strands start (trace ++ later) after final := by
  induction h with
  | rest => exact hlater
  | turn hready _ ih => exact .turn hready (ih hlater)

/-- What is logged later comes after what was logged before. -/
theorem logOf_append (h : SideBySide strands start trace middle between)
    (later : List (TurnTaken σ)) :
    logOf strands (trace ++ later) = logOf strands trace ++ logOf middle later := by
  induction h with
  | rest => rfl
  | turn hready _ ih => rw [List.cons_append, logOf_turn hready, ih, logOf_turn hready,
      List.append_assoc]

/-- No strand is added or lost. -/
theorem length_eq (h : SideBySide strands start trace after final) :
    after.length = strands.length := by
  induction h with
  | rest => rfl
  | turn hready _ ih => rw [ih, List.length_set]

/-- **Each strand for itself.** Where a strand stands after any number of turns is where it stands
when it alone is taken through the states in which its own turns began. By this, what is shown of a
single strand holds of it among others. -/
theorem through_statesOf (h : SideBySide strands start trace after final) {i : Nat}
    {strand : Strand σ α} (hi : strands[i]? = some strand) :
    after[i]? = strand.through (statesOf trace i) := by
  induction h generalizing strand with
  | rest strands state => rw [hi, statesOf, List.filter_nil, List.map_nil, Strand.through_nil]
  | @turn strands after state final trace j next hready _ ih =>
    by_cases hij : j = i
    · -- its own turn, the first of the states that it is taken through
      subst hij
      rw [hi] at hready
      cases hready
      have hlt := (List.getElem?_eq_some_iff.1 hi).1
      rw [ih (List.getElem?_set_self hlt)]
      simp only [statesOf, List.filter_cons, beq_self_eq_true, if_true, List.map_cons]
      rfl
    · -- the turn of another strand
      have hne : (j == i) = false := by simpa using hij
      rw [ih ((List.getElem?_set_ne hij).trans hi)]
      simp only [statesOf, List.filter_cons, hne, Bool.false_eq_true, if_false]

/-- **Each strand logs for itself** what it logs when it alone is taken through those states. By the
same induction on the turns. -/
theorem partOf_logOf (h : SideBySide strands start trace after final) {i : Nat}
    {strand : Strand σ α} (hi : strands[i]? = some strand) :
    partOf (logOf strands trace) i = strand.logged (statesOf trace i) := by
  induction h generalizing strand with
  | rest strands state => rw [statesOf, List.filter_nil, List.map_nil, Strand.logged_nil]; rfl
  | @turn strands after state final trace j next hready _ ih =>
    -- the first turn is its own, or it adds nothing to its part
    rw [logOf_turn hready, partOf_append, partOf_events]
    by_cases hij : j = i
    · subst hij
      rw [hi] at hready
      cases hready
      have hlt := (List.getElem?_eq_some_iff.1 hi).1
      rw [if_pos rfl, ih (List.getElem?_set_self hlt)]
      simp only [statesOf, List.filter_cons, beq_self_eq_true, if_true, List.map_cons]
      rfl
    · have hne : (j == i) = false := by simpa using hij
      rw [if_neg hij, List.nil_append, ih ((List.getElem?_set_ne hij).trans hi)]
      simp only [statesOf, List.filter_cons, hne, Bool.false_eq_true, if_false]

/-- Another strand in front takes no turn. -/
theorem cons (strand : Strand σ α) (h : SideBySide strands start trace after final) :
    SideBySide (strand :: strands) start (trace.map .next) (strand :: after) final := by
  induction h with
  | rest strands state => exact .rest _ state
  | turn hready _ ih => exact .turn hready ih

/-- Work that has had a turn can be brought to its end while the others wait. -/
theorem exists_ended (turn : Turn σ α) (others : List (Strand σ α)) :
    ∃ trace value final,
      SideBySide (turn.left :: others) turn.state trace (.ended value :: others) final := by
  induction turn with
  | done state events value => exact ⟨[], value, state, .rest _ state⟩
  | wait state events till resume ih =>
    -- nobody else has a turn, so that it goes on in the state that it left
    obtain ⟨trace, value, final, hlater⟩ := ih state
    exact ⟨⟨0, state⟩ :: trace, value, final, .turn (i := 0) rfl hlater⟩

/-- **To the end.** Wherever the strands stand, they can all be brought to an end, for instance one
after the other. -/
theorem complete (strands : List (Strand σ α)) (state : σ) :
    ∃ (trace : List (TurnTaken σ)) (values : List α) (final : σ),
      SideBySide strands state trace (values.map .ended) final := by
  induction strands generalizing state with
  | nil => exact ⟨[], [], state, .rest _ state⟩
  | cons strand others ih =>
    cases strand with
    | ended value =>
      obtain ⟨trace, values, final, hothers⟩ := ih state
      exact ⟨trace.map .next, value :: values, final, hothers.cons (.ended value)⟩
    | ready next =>
      obtain ⟨own, value, between, hown⟩ := exists_ended (next state) others
      obtain ⟨trace, values, final, hothers⟩ := ih between
      exact ⟨⟨0, state⟩ :: (own ++ trace.map .next), value :: values, final,
        .turn (i := 0) rfl (hown.trans (hothers.cons (.ended value)))⟩

end SideBySide

/-! ## The order in which it is done -/

/-- **All that is logged**, whichever strand has logged it. -/
def eventsOf (strands : List (Strand σ α)) (trace : List (TurnTaken σ)) : List Audit.Event :=
  (logOf strands trace).map (·.2)

/-- What is logged in two runs of turns, one after the other. -/
theorem SideBySide.eventsOf_append {strands middle : List (Strand σ α)} {start between : σ}
    {trace : List (TurnTaken σ)} (h : SideBySide strands start trace middle between)
    (later : List (TurnTaken σ)) :
    eventsOf strands (trace ++ later) = eventsOf strands trace ++ eventsOf middle later := by
  rw [eventsOf, h.logOf_append, List.map_append]
  rfl

theorem eventsOf_first (next : σ → Turn σ α) (others : List (Strand σ α)) (state : σ) :
    eventsOf (.ready next :: others) [⟨0, state⟩] = (next state).events := by
  simp [eventsOf, logOf, Function.comp_def]

/-- Another strand in front logs nothing. -/
theorem eventsOf_cons (strand : Strand σ α) (strands : List (Strand σ α))
    (trace : List (TurnTaken σ)) :
    eventsOf (strand :: strands) (trace.map .next) = eventsOf strands trace := by
  induction trace generalizing strands with
  | nil => rfl
  | cons turn trace ih =>
    obtain ⟨i, state⟩ := turn
    have hnext : (strand :: strands)[i + 1]? = strands[i]? := rfl
    rw [List.map_cons, TurnTaken.next, eventsOf, eventsOf, logOf, logOf, hnext]
    rcases strands[i]? with _ | next | value
    · rfl
    · simp only [List.map_append, List.map_map, List.set_cons_succ]
      exact congrArg _ (ih (strands.set i (next state).left))
    · rfl

namespace Turn

/-- **Does work on several values follow these strands?** Whenever it is over, or waits, some turns
of the strands have led to where it is, and it follows what is left of them from any state on. What it
has logged, after what was there `before`, is what these turns have logged. -/
def Follows (before : List Audit.Event) : Turn σ (List α) → List (Strand σ α) → σ → Prop
  | done after events values, strands, state =>
    ∃ trace, SideBySide strands state trace (values.map .ended) after ∧
      events = before ++ eventsOf strands trace
  | wait after events _ resume, strands, state =>
    ∃ trace left, SideBySide strands state trace left after ∧
      events = before ++ eventsOf strands trace ∧
      ∀ later, (resume later).Follows [] left later

variable {turn : Turn σ (List α)} {strands middle : List (Strand σ α)} {start between : σ}
  {before : List Audit.Event}

/-- What follows the strands after some turns follows them from the beginning. The turns are put in
front of its own. -/
theorem Follows.after (before : List Audit.Event) {trace : List (TurnTaken σ)}
    (h : turn.Follows (before ++ eventsOf strands trace) middle between)
    (hbefore : SideBySide strands start trace middle between) : turn.Follows before strands start := by
  cases turn with
  | done after events values =>
    obtain ⟨later, hlater, hevents⟩ := h
    refine ⟨trace ++ later, hbefore.trans hlater, ?_⟩
    rw [hevents, hbefore.eventsOf_append, List.append_assoc]
  | wait after events till resume =>
    obtain ⟨later, left, hlater, hevents, hrest⟩ := h
    refine ⟨trace ++ later, left, hbefore.trans hlater, ?_, hrest⟩
    rw [hevents, hbefore.eventsOf_append, List.append_assoc]

/-- Something may be logged in front. -/
theorem Follows.log (events : List Audit.Event) (h : turn.Follows [] strands start) :
    (turn.log events).Follows events strands start := by
  cases turn with
  | done after own values =>
    obtain ⟨trace, hturns, rfl⟩ := h
    exact ⟨trace, hturns, rfl⟩
  | wait after own till resume =>
    obtain ⟨trace, left, hturns, rfl, hrest⟩ := h
    exact ⟨trace, left, hturns, rfl, hrest⟩

/-- **All at once.** Work that follows strands is one of the orders in which they can take turns,
when it is done to its end. -/
theorem Follows.finish (h : turn.Follows before strands start) :
    ∃ trace, SideBySide strands start trace (turn.finish.value.map .ended) turn.finish.state ∧
      turn.finish.events = before ++ eventsOf strands trace := by
  induction turn generalizing strands start before with
  | done after events values => exact h
  | wait after events till resume ih =>
    obtain ⟨trace, left, hbefore, hevents, hrest⟩ := h
    obtain ⟨later, hlater, hown⟩ := ih after (hrest after)
    refine ⟨trace ++ later, hbefore.trans hlater, ?_⟩
    rw [Turn.finish, hevents, hown, hbefore.eventsOf_append, List.nil_append, List.append_assoc]

/-- Beside a strand that is over the others go on as they do, and its value is put in front of
theirs. -/
theorem Follows.cons_ended (value : α) (h : turn.Follows before strands start) :
    (turn.map fun values => value :: values).Follows before (.ended value :: strands) start := by
  induction turn generalizing strands start before with
  | done after events values =>
    obtain ⟨trace, hturns, hevents⟩ := h
    exact ⟨trace.map .next, hturns.cons (.ended value), by rw [hevents, eventsOf_cons]⟩
  | wait after events till resume ih =>
    obtain ⟨trace, left, hbefore, hevents, hrest⟩ := h
    exact ⟨trace.map .next, _, hbefore.cons (.ended value), by rw [hevents, eventsOf_cons],
      fun later => ih later (hrest later)⟩

/-- The first value in front of the others. -/
def consValue (values : α × List α) : List α :=
  values.1 :: values.2

/-- **Beside a strand that waits** the others go on until it is due. `hgo` says that from then on
the strand goes on beside what is left of the others. By induction on the others. -/
theorem Follows.besideWaiting {till : Instant} {resume : σ → Turn σ α}
    {go : σ → (σ → Turn σ (List α)) → Turn σ (α × List α)}
    (hgo : ∀ later left (rest : σ → Turn σ (List α)),
      (∀ state, (rest state).Follows [] left state) →
      ((go later rest).map consValue).Follows [] (.ready resume :: left) later)
    (h : turn.Follows before strands start) :
    ((turn.besideWaiting till go).map consValue).Follows before (.ready resume :: strands) start := by
  induction turn generalizing strands start before with
  | done after events values =>
    obtain ⟨trace, hturns, hevents⟩ := h
    refine ⟨trace.map .next, _, hturns.cons (.ready resume), by rw [hevents, eventsOf_cons], ?_⟩
    exact fun later => hgo later _ _ fun state => ⟨[], .rest _ state, rfl⟩
  | wait after events due others ih =>
    obtain ⟨trace, left, hbefore, hevents, hrest⟩ := h
    have hshifted := hbefore.cons (.ready resume)
    rw [← eventsOf_cons (.ready resume)] at hevents
    rw [Turn.besideWaiting]
    split
    · -- the first one is due, and what is left of the others waits as it did
      refine ⟨_, _, hshifted, hevents, fun later => hgo later left _ fun state => ?_⟩
      exact ⟨[], left, .rest _ state, rfl, hrest⟩
    · exact ⟨_, _, hshifted, hevents, fun later => ih later (hrest later)⟩

/-- **Side by side with one that has had its turn.** It is over, or it waits; in the second case it
goes on when it is due. -/
theorem follows_beside (first : Turn σ α) {strands : List (Strand σ α)}
    {others : σ → Turn σ (List α)} (h : ∀ state, (others state).Follows [] strands state) :
    ((first.beside others).map consValue).Follows first.events (first.left :: strands)
      first.state := by
  induction first generalizing strands others with
  | done after events value =>
    rw [beside, map_log, map_map]
    exact ((h after).cons_ended value).log events
  | wait after events till resume ih =>
    -- when it is due, it has a turn and is then beside what is left of the others
    rw [beside, map_log]
    refine Follows.log events (Follows.besideWaiting ?_ (h after))
    intro later left rest hrest
    have hnext := ih later hrest
    rw [← eventsOf_first resume left later] at hnext
    exact Follows.after [] hnext (.turn (i := 0) rfl (.rest _ _))

/-- **The running order.** Several strands of work that are done side by side follow them. By
induction on the strands. -/
theorem follows_all (works : List (σ → Turn σ α)) (state : σ) :
    (all works state).Follows [] (works.map .ready) state := by
  induction works generalizing state with
  | nil => exact ⟨[], .rest _ state, rfl⟩
  | cons work others ih =>
    have hfirst : SideBySide ((work :: others).map Strand.ready) state [⟨0, state⟩]
        ((work state).left :: others.map .ready) (work state).state :=
      .turn (i := 0) rfl (.rest _ _)
    have hall := follows_beside (work state) ih
    rw [← eventsOf_first work (others.map .ready) state] at hall
    exact Follows.after [] hall hfirst

/-- **As it is done.** What comes of several pieces of work done side by side comes of them when
they take turns in one of the possible orders, and they have logged the same. -/
theorem all_sideBySide (works : List (σ → Turn σ α)) (state : σ) :
    ∃ trace, SideBySide (works.map .ready) state trace
        ((all works state).finish.value.map .ended) (all works state).finish.state ∧
      (all works state).finish.events = eventsOf (works.map .ready) trace :=
  (follows_all works state).finish

end Turn

end Planroom
