import Planroom.CallError
import Planroom.Context
import Planroom.Store.Access

/-!
# Jobs

What a request does, written down before it is done: the free monad over two effects.

* `access` — ask the store for something and go on with the answer. This is the only way to the
  store, and between two accesses of one job those of other jobs may come.
* `clock` — read the clock.

An access is **guarded** when limits are kept while it is waited for: instead of an answer the job may
then be told to stop. `Job.within` guards a whole job by limits, and stops it before it begins when
they are used up already.
-/

namespace Planroom

/-- **Why a job breaks off** without any result. No caller is told the reason: where the reply is
still made, it says only that something went wrong inside. -/
inductive Abort where
  | clockOverflow
  | listingOverflow
  | other (text : String)
  deriving DecidableEq, Repr

/-- The wording of a break. The first two are faults of arithmetic, which are worded by whoever
finds them. -/
def Abort.message : Abort → String
  | .clockOverflow => "overflow when adding duration to instant"
  | .listingOverflow => "attempt to add with overflow"
  | .other text => text

/-- **A job** that ends with a value, with an error, or not at all.

* `done v`, `fail e` — it is over.
* `abort r` — it breaks off.
* `clock k` — read the clock, and go on with `k`.
* `access a k` — ask for `a`, and go on with `k`.
* `guarded l a k s` — ask for `a` under the limits `l`, and go on with `k`, or with `s` when it is time
  to stop. -/
inductive Job (ε α : Type) : Type where
  | done (value : α)
  | fail (error : ε)
  | abort (reason : Abort)
  | clock (resume : Instant → Job ε α)
  | access (access : Access) (resume : Except Failure access.Result → Job ε α)
  | guarded (limits : Limits) (access : Access)
      (resume : Except Failure access.Result → Job ε α) (stopped : Stop → Job ε α)

namespace Job

variable {ε ε' α β γ : Type}

/-- Go on after a job that ends with a value. What comes next is put behind every answer that the
job may get. -/
protected def bind : Job ε α → (α → Job ε β) → Job ε β
  | done value, f => f value
  | fail error, _ => fail error
  | abort reason, _ => abort reason
  | clock resume, f => clock fun now => (resume now).bind f
  | access a resume, f => access a fun answer => (resume answer).bind f
  | guarded limits a resume stopped, f =>
    guarded limits a (fun answer => (resume answer).bind f) fun stop => (stopped stop).bind f

instance : Monad (Job ε) where
  pure := done
  bind := Job.bind

@[simp] theorem pure_eq (value : α) : (pure value : Job ε α) = done value := rfl

@[simp] theorem bind_eq (job : Job ε α) (f : α → Job ε β) : job >>= f = job.bind f := rfl

@[simp] theorem done_bind (value : α) (f : α → Job ε β) : (done value).bind f = f value := rfl

@[simp] theorem fail_bind (error : ε) (f : α → Job ε β) :
    (fail error : Job ε α).bind f = fail error := rfl

@[simp] theorem abort_bind (reason : Abort) (f : α → Job ε β) :
    (abort reason : Job ε α).bind f = abort reason := rfl

@[simp] theorem bind_done (job : Job ε α) : job.bind done = job := by
  induction job with
  | done => rfl
  | fail => rfl
  | abort => rfl
  | clock resume ih => exact congrArg clock (funext ih)
  | access a resume ih => exact congrArg (access a) (funext ih)
  | guarded limits a resume stopped ih ihs =>
    simp only [Job.bind]
    exact congr (congrArg (guarded limits a) (funext ih)) (funext ihs)

/-- It does not matter how the steps of a job are put into parentheses, so a job written line by
line has one meaning. -/
theorem bind_assoc (job : Job ε α) (f : α → Job ε β) (g : β → Job ε γ) :
    (job.bind f).bind g = job.bind fun value => (f value).bind g := by
  induction job with
  | done => rfl
  | fail => rfl
  | abort => rfl
  | clock resume ih => exact congrArg clock (funext ih)
  | access a resume ih => exact congrArg (access a) (funext ih)
  | guarded limits a resume stopped ih ihs =>
    simp only [Job.bind]
    exact congr (congrArg (guarded limits a) (funext ih)) (funext ihs)

/-- The job that ends with this result at once, without a look at anything. -/
def ofExcept : Except ε α → Job ε α
  | .ok value => done value
  | .error error => fail error

/-- **A job that does not fail** but ends with its result, whatever that is. Being told to stop is a
result too; breaking off is none. -/
def attempt : Job ε α → Job ε' (Except ε α)
  | done value => done (.ok value)
  | fail error => done (.error error)
  | abort reason => abort reason
  | clock resume => clock fun now => (resume now).attempt
  | access a resume => access a fun answer => (resume answer).attempt
  | guarded limits a resume stopped =>
    guarded limits a (fun answer => (resume answer).attempt) fun stop => (stopped stop).attempt

/-- A job with its error put in other words. It asks for the same things in the same order. -/
def mapError (f : ε → ε') : Job ε α → Job ε' α
  | done value => done value
  | fail error => fail (f error)
  | abort reason => abort reason
  | clock resume => clock fun now => (resume now).mapError f
  | access a resume => access a fun answer => (resume answer).mapError f
  | guarded limits a resume stopped =>
    guarded limits a (fun answer => (resume answer).mapError f) fun stop =>
      (stopped stop).mapError f

/-- A single access; its failure is the job's. Nothing guards it, so without limits it is waited for
as long as it takes. -/
def ask (a : Access) : Job Failure a.Result :=
  access a ofExcept

/-- A job of the storage as part of a call, in which its failures count as those of the work. -/
def asCall (job : Job Failure α) : Job CallError α :=
  job.mapError .failed

/-- The job with every access guarded by the limits, ending with `stopped` when it is time to stop.
An access that is guarded already stays so: the limits inside are never wider than those around. -/
def guard (limits : Limits) (stopped : Stop → ε) : Job ε α → Job ε α
  | done value => done value
  | fail error => fail error
  | abort reason => abort reason
  | clock resume => clock fun now => (resume now).guard limits stopped
  | access a resume =>
    guarded limits a (fun answer => (resume answer).guard limits stopped) fun stop =>
      fail (stopped stop)
  | guarded inner a resume stop =>
    guarded inner a (fun answer => (resume answer).guard limits stopped) fun s =>
      (stop s).guard limits stopped

/-- **The job under the limits**: it does not begin when they are used up, and stops where they run
out. Between two accesses the clock stands still, so nothing needs to be checked there. -/
def within (limits : Limits) (stopped : Stop → ε) (job : Job ε α) : Job ε α :=
  clock fun now =>
    match limits.stop? now with
    | some stop => fail (stopped stop)
    | none => job.guard limits stopped

/-- **A call under the limits of its context.** To the caller, being stopped is a failure like
others. -/
def run (context : Context) (job : Job CallError α) : Job CallError α :=
  job.within context.limits fun stop => .failed stop.failure

/-- A context with a time limit from now on. The job breaks off where the clock does not reach that
far, before it has asked for anything. -/
def limited (context : Context) (span : Span) : Job ε Context :=
  clock fun now =>
    match context.withTimeout? now span with
    | some narrowed => done narrowed
    | none => abort .clockOverflow

end Job

end Planroom
