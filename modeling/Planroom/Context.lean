import Planroom.User

/-!
# Request contexts

Every request runs in a context: the correlation id under which it is logged, its user if it has one,
and the limits it must keep. Times are milliseconds on a clock that only moves forward.

* **Limits** — a request may be cancelled, and it may have a deadline. A limit is only ever narrowed:
  of two deadlines the earlier one counts.
* **Stops** — a request that is cancelled stops as cancelled even when its deadline has passed too.
-/

namespace Planroom

/-- A reading of the clock, in milliseconds. It is the clock of the process, which has nothing to do
with the dates that artifacts bear. -/
abbrev Instant := Nat

/-- A length of time in milliseconds. -/
abbrev Span := Nat

namespace Clock

/-- The end of time: the clock's seconds are a signed 64-bit number. No request lives to see it, but
a time limit may reach beyond it. -/
def horizon : Instant := Nat.pow 2 63 * 1000

/-- The point in time after the given span, if the clock reaches that far. Where it does not, there
is no such point, and the work that asks for it breaks off. -/
def after? (now : Instant) (span : Span) : Option Instant :=
  if now + span < horizon then some (now + span) else none

end Clock

/-- **What a request must keep.** Being cancelled is for good: nobody takes it back. -/
structure Limits where
  canceled : Bool
  deadline : Option Instant
  deriving DecidableEq, Repr

/-- **Why a request stops** before it is done. The two are told to the caller in different words. -/
inductive Stop where
  | canceled
  | expired
  deriving DecidableEq, Repr

/-- The failure of a request that stops. -/
def Stop.failure : Stop → Failure
  | .canceled => .canceled
  | .expired => .timeout

namespace Limits

/-- No limits at all. -/
def none : Limits := ⟨false, Option.none⟩

/-- Must a request stop at this time? A deadline has passed as soon as its instant is reached. -/
def stop? (limits : Limits) (now : Instant) : Option Stop :=
  if limits.canceled then some .canceled
  else match limits.deadline with
    | some deadline => if deadline ≤ now then some .expired else Option.none
    | Option.none => Option.none

/-- A deadline as well; the earlier one counts. So a part of the work may have less time than the
whole, but never more. -/
def withDeadline (limits : Limits) (deadline : Instant) : Limits :=
  { limits with deadline := some (match limits.deadline with
      | some current => min current deadline
      | Option.none => deadline) }

/-- **A time limit from now on**, if the clock reaches that far. It does not help that an earlier
deadline is there already: the sum is built in any case. -/
def withTimeout? (limits : Limits) (now : Instant) (span : Span) : Option Limits :=
  (Clock.after? now span).map limits.withDeadline

end Limits

/-- **The context of a request.** It is made once, when the request comes in, and handed on to all
that is done for it. -/
structure Context where
  correlationId : String
  user : Option User
  limits : Limits
  deriving DecidableEq, Repr

namespace Context

/-- The name of the user in the log. -/
def userLabel (context : Context) : String :=
  match context.user with
  | some user => user.id.text
  | none => "anonymous"

/-- The user, who must be known. Requests without credentials are refused before they get here,
unless there is nobody who could have some. -/
def requireUser (context : Context) : Except Failure User :=
  match context.user with
  | some user => .ok user
  | none => .error .authenticationRequired

/-- The user, who must be known and allowed to change artifacts. Whether the caller is known is
looked at first, and told in other words. -/
def requireEditor (context : Context) : Except Failure User := do
  let user ← context.requireUser
  user.requireEditor
  return user

/-- The context with a time limit from now on, if the clock reaches that far. -/
def withTimeout? (context : Context) (now : Instant) (span : Span) : Option Context :=
  (context.limits.withTimeout? now span).map fun limits => { context with limits := limits }

end Context

end Planroom
