import Planroom.Audit.Event

/-!
# Turns

Work on a state that others work on too. It is done in turns: a turn leaves a state and what was
logged, and then either the work is over or it waits for an instant, so that others may work meanwhile.

* **Alone** — `finish`: whenever the work waits, its next turn follows at once.
* **Side by side** — `beside` and `all`: every piece of work takes its first turn in the order given.
  After that, of those that wait, the one whose instant comes first is next, of several the one that
  stands first.
-/

namespace Planroom

/-- **A turn of a piece of work** on a state `σ`, which ends with a value `α`.

* `done s es a` — the work is over, with `a`.
* `wait s es t k` — the work waits until `t`, and then goes on as `k`, on the state of that time.

What others do while the work waits comes in through the argument of `k`, so nothing is said here
about who they are. -/
inductive Turn (σ α : Type) where
  | done (state : σ) (events : List Audit.Event) (value : α)
  | wait (state : σ) (events : List Audit.Event) (till : Instant) (resume : σ → Turn σ α)

/-- **Work that is over**: its value, the state that it left, and all that was logged, in the order
in which it was. -/
structure Ended (σ α : Type) where
  value : α
  state : σ
  events : List Audit.Event

namespace Turn

variable {σ α β : Type}

/-- The turn with something logged in front of it. What comes in later turns is not touched. -/
def log (before : List Audit.Event) : Turn σ α → Turn σ α
  | done state events value => done state (before ++ events) value
  | wait state events till resume => wait state (before ++ events) till resume

/-- The work with something logged when it is over, and another value. Both may depend on the state
that it leaves. -/
def conclude (close : σ → α → List Audit.Event × β) : Turn σ α → Turn σ β
  | done state events value =>
    let (more, result) := close state value
    done state (events ++ more) result
  | wait state events till resume =>
    wait state events till fun later => (resume later).conclude close

/-- The work with another value. It leaves the same states and logs the same events. -/
def map (f : α → β) : Turn σ α → Turn σ β
  | done state events value => done state events (f value)
  | wait state events till resume => wait state events till fun later => (resume later).map f

/-! ## Alone -/

/-- **Do the work alone.** Where it waits, it finds the state as it left it. -/
def finish : Turn σ α → Ended σ α
  | done state events value => ⟨value, state, events⟩
  | wait state events _ resume =>
    let later := (resume state).finish
    { later with events := events ++ later.events }

@[simp] theorem finish_done (state : σ) (events : List Audit.Event) (value : α) :
    (done state events value).finish = ⟨value, state, events⟩ := rfl

@[simp] theorem finish_log (before : List Audit.Event) (turn : Turn σ α) :
    (turn.log before).finish =
      ⟨turn.finish.value, turn.finish.state, before ++ turn.finish.events⟩ := by
  cases turn with
  | done => rfl
  | wait => simp [log, finish]

@[simp] theorem finish_map (f : α → β) (turn : Turn σ α) :
    (turn.map f).finish = ⟨f turn.finish.value, turn.finish.state, turn.finish.events⟩ := by
  induction turn with
  | done => rfl
  | wait state events till resume ih => simp [map, finish, ih]

@[simp] theorem finish_conclude (close : σ → α → List Audit.Event × β) (turn : Turn σ α) :
    (turn.conclude close).finish =
      ⟨(close turn.finish.state turn.finish.value).2, turn.finish.state,
        turn.finish.events ++ (close turn.finish.state turn.finish.value).1⟩ := by
  induction turn with
  | done => rfl
  | wait state events till resume ih => simp [conclude, finish, ih]

/-! ## Side by side -/

/-- Work that waits until `till` beside other work that has had a turn. Once the first is due, `go`
says what comes of it and the rest of the other. This recursion is on the other work, and `beside`
is one on the first, so that both are structural. -/
def besideWaiting (till : Instant) (go : σ → (σ → Turn σ β) → Turn σ (α × β)) :
    Turn σ β → Turn σ (α × β)
  | done state events value =>
    -- The other one is over: it keeps its place, and logs nothing any more.
    wait state events till fun later => go later fun state => done state [] value
  | wait state events due resume =>
    if till ≤ due then
      wait state events till fun later => go later fun state => wait state [] due resume
    -- The other one is due first. It is not over yet, so the recursion goes on with its next turn.
    else wait state events due fun later => (resume later).besideWaiting till go

/-- **Two pieces of work side by side**: the first one has had its turn, and the second one is next.
Of two that are due at one instant the first goes on first. -/
def beside : Turn σ α → (σ → Turn σ β) → Turn σ (α × β)
  | done state events value, second => ((second state).map fun other => (value, other)).log events
  | wait state events till resume, second =>
    ((second state).besideWaiting till fun later rest => (resume later).beside rest).log events

/-- **Any number of pieces of work side by side.** Their values come in the order given, whichever
is over first. -/
def all : List (σ → Turn σ α) → σ → Turn σ (List α)
  | [], state => done state [] []
  | work :: others, state =>
    ((work state).beside (all others)).map fun values => values.1 :: values.2

end Turn

end Planroom
