import Planroom.Work.Job
import Planroom.Work.Turn

/-!
# Running jobs

A job is run against the world: the store, and a clock that stands still except while a job waits.

* **Services** — each access is served by the store, by an answer from elsewhere, or never.
* **Waiting** — a guarded access that is never served is waited for until its deadline, to which the
  clock moves on. Until then it is the turn of others. One without a deadline, and one that is not
  guarded, hangs.
-/

namespace Planroom

/-- **How an access is served.** With the second and the third case all that a service may do is
covered, also what no store does. -/
inductive Service (access : Access) where
  /-- The store answers. -/
  | stored
  /-- Somebody else answers. -/
  | answered (answer : Except Failure access.Result)
  /-- Nobody ever answers. -/
  | never

/-- **Who serves the accesses**, and what the store is given from outside: the stamp of each access
that it answers, by their number. So all that is random or depends on the time is fixed in advance.
-/
structure Services where
  serve : (access : Access) → Service access
  stamp : Nat → Stamp

/-- Services of which every one is the store's. This is what the program is run with. -/
def Services.ofStore (stamp : Nat → Stamp) : Services :=
  ⟨fun _ => .stored, stamp⟩

/-- **What jobs are run against**: the store, the clock, and the number of accesses that the store
has answered. The number tells which stamp is next. -/
structure World where
  store : Store
  now : Instant
  served : Nat

/-- **How a job ended.** Only the first is an end that its caller learns of. -/
inductive Fate (ε α : Type) where
  | returned (result : Except ε α)
  | aborted (reason : Abort)
  | hung
  deriving Repr

/-- The event of an anchor that has changed, if it has. One that stays where it is is not worth
logging. -/
def AnchorNote.event? (note : AnchorNote) : Option Audit.Event :=
  match note.change with
  | .unchanged => none
  | .moved old new => some (.anchorMoved note.comment old new)
  | .hidden => some (.anchorHidden note.comment)
  | .restored => some (.anchorRestored note.comment)

/-- An access that has been served: with its answer comes the world as it is afterwards. -/
structure Served (access : Access) where
  answer : Except Failure access.Result
  world : World
  events : List Audit.Event

namespace World

/-- **Serve an access**, unless nobody ever does. An answer from elsewhere leaves the store alone
and takes no stamp. -/
def serve (services : Services) (world : World) (access : Access) : Option (Served access) :=
  match services.serve access with
  | .never => none
  | .answered answer => some ⟨answer, world, []⟩
  | .stored =>
    let performed := world.store.perform (services.stamp world.served) access
    some ⟨performed.answer,
      { world with store := performed.store, served := world.served + 1 },
      performed.notes.filterMap AnchorNote.event?⟩

/-- The world when its clock has reached an instant. The clock never goes back, also where others
have moved it on further. -/
def reach (world : World) (instant : Instant) : World :=
  { world with now := max world.now instant }

end World

namespace Job

variable {ε α : Type}

/-- **Begin a job**, and run it until it is over or has to wait. This is a recursion on the job:
each access takes one of its steps. -/
def start (services : Services) (job : Job ε α) (world : World) : Turn World (Fate ε α) :=
  match job with
  | done value => .done world [] (.returned (.ok value))
  | fail error => .done world [] (.returned (.error error))
  | abort reason => .done world [] (.aborted reason)
  | clock resume => (resume world.now).start services world
  | access a resume =>
    match world.serve services a with
    | none => .done world [] .hung
    | some served => ((resume served.answer).start services served.world).log served.events
  | guarded limits a resume stopped =>
    match world.serve services a with
    | some served => ((resume served.answer).start services served.world).log served.events
    | none =>
      match limits.stop? world.now, limits.deadline with
      -- A limit that has run out already is noticed as soon as the access does not answer.
      | some stop, _ => (stopped stop).start services world
      | none, some deadline =>
        -- Others may have moved the clock beyond the deadline before it is this job's turn again.
        .wait world [] deadline fun later =>
          (stopped .expired).start services (later.reach deadline)
      | none, none => .done world [] .hung

/-- **Run a job** while nobody else runs one. Its waits then take time, but nothing happens in them.
-/
def exec (services : Services) (job : Job ε α) (world : World) : Ended World (Fate ε α) :=
  (job.start services world).finish

end Job

end Planroom
