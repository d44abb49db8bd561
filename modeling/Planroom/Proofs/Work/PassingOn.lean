import Planroom.Proofs.Work.Alike
import Planroom.Work.Run

/-!
# Failures that are passed on

A job need not look at why an access failed: it fails then, with what is made of the failure. Where
all of a job is like that, failures that differ in a text only make for runs that differ in what is
made of this text.

* **Jobs** — `Job.PassesOn`: whenever an access fails, so does the job. Whatever jobs are put together
  with preserves this.
* **Services** — `Services.Alike`: accesses are served in the same way, up to a relation between the
  failures that come from elsewhere.
* **Runs** — `Job.PassesOn.start_alike`: against such services, such a job goes on alike.
-/

namespace Planroom

variable {ε α β : Type} {tell : Failure → ε} {R : Failure → Failure → Prop}

/-! ## Jobs -/

namespace Job

/-- **Does a job pass failures on?** `tell` is what it makes of them. It may neither go on after a
failure nor look at which one it is. -/
def PassesOn (tell : Failure → ε) : Job ε α → Prop
  | done _ | fail _ | abort _ => True
  | clock resume => ∀ now, (resume now).PassesOn tell
  | access _ resume =>
    (∀ result, (resume (.ok result)).PassesOn tell) ∧
      ∀ failure, resume (.error failure) = fail (tell failure)
  | guarded _ _ resume stopped =>
    (∀ result, (resume (.ok result)).PassesOn tell) ∧
      (∀ failure, resume (.error failure) = fail (tell failure)) ∧
      ∀ stop, (stopped stop).PassesOn tell

/-- To ask once passes on what was answered. -/
theorem passesOn_ask (tell : Failure → ε) (a : Access) :
    ((ask a).mapError tell).PassesOn tell :=
  ⟨fun _ => trivial, fun _ => rfl⟩

/-- One job may follow another: the failure of the first is that of both. -/
protected theorem PassesOn.bind {job : Job ε α} {f : α → Job ε β} (h : job.PassesOn tell)
    (hnext : ∀ value, (f value).PassesOn tell) : (job.bind f).PassesOn tell := by
  induction job with
  | done value => exact hnext value
  | fail | abort => exact trivial
  | clock resume ih => exact fun now => ih now (h now)
  | access a resume ih =>
    exact ⟨fun result => ih (.ok result) (h.1 result),
      fun failure => congrArg (Job.bind · f) (h.2 failure)⟩
  | guarded limits a resume stopped ih ihs =>
    exact ⟨fun result => ih (.ok result) (h.1 result),
      fun failure => congrArg (Job.bind · f) (h.2.1 failure),
      fun stop => ihs stop (h.2.2 stop)⟩

end Job

/-! ## Services -/

/-- **Is an access served alike?** The failures that are related come from elsewhere; what the store
answers is the same. -/
inductive Service.Alike (R : Failure → Failure → Prop) {access : Access} :
    Service access → Service access → Prop where
  | same (service : Service access) : Alike R service service
  | failed {failure other : Failure} (h : R failure other) :
      Alike R (.answered (.error failure)) (.answered (.error other))

/-- **Are all accesses served alike?** -/
structure Services.Alike (R : Failure → Failure → Prop) (first second : Services) : Prop where
  serve : ∀ access, (first.serve access).Alike R (second.serve access)
  stamp : first.stamp = second.stamp

variable {first second : Services}

/-- An access that is served alike is served the same, or fails twice. In the second case the world
stays as it is. -/
theorem Services.Alike.cases (h : first.Alike R second) (world : World) (access : Access) :
    world.serve first access = world.serve second access ∨
      ∃ failure other, R failure other ∧
        world.serve first access = some ⟨.error failure, world, []⟩ ∧
        world.serve second access = some ⟨.error other, world, []⟩ := by
  have hserve := h.serve access
  unfold World.serve
  rw [h.stamp]
  generalize first.serve access = service at hserve ⊢
  generalize second.serve access = other at hserve ⊢
  cases hserve with
  | same => exact .inl rfl
  | failed hfailure => exact .inr ⟨_, _, hfailure, rfl, rfl⟩

/-! ## Runs -/

/-- **Do two jobs end alike?** They end in the same way, or with what is made of two failures. -/
inductive Fate.Alike (tell : Failure → ε) (R : Failure → Failure → Prop) :
    Fate ε α → Fate ε α → Prop where
  | same (fate : Fate ε α) : Alike tell R fate fate
  | failed {failure other : Failure} (h : R failure other) :
      Alike tell R (.returned (.error (tell failure))) (.returned (.error (tell other)))

/-- **A job that passes failures on** goes on alike, where its accesses are served alike. By
induction on the job: up to the first access that fails in two ways both are the same, and then both
are over. -/
theorem Job.PassesOn.start_alike {job : Job ε α} (h : job.PassesOn tell)
    (hservices : first.Alike R second) (world : World) :
    (job.start first world).Alike (Fate.Alike tell R) (job.start second world) := by
  induction job generalizing world with
  | done | fail | abort => exact .done world _ _ (.same _)
  | clock resume ih => exact ih world.now (h world.now) world
  | access a resume ih =>
    unfold Job.start
    obtain hsame | ⟨failure, other, hfailure, hfirst, hsecond⟩ := hservices.cases world a
    · rw [hsame]
      cases world.serve second a with
      | none => exact .done world _ _ (.same _)
      | some served =>
        refine Turn.Alike.log ?_ _ _
        cases hanswer : served.answer with
        | ok result => exact ih (.ok result) (h.1 result) served.world
        | error failure =>
          rw [h.2 failure]
          exact .done served.world _ _ (.same _)
    · -- the first access that is not served the same is the last one of both
      rw [hfirst, hsecond]
      refine Turn.Alike.log ?_ _ _
      simp only [h.2]
      exact .done world _ _ (.failed hfailure)
  | guarded limits a resume stopped ih ihs =>
    unfold Job.start
    obtain hsame | ⟨failure, other, hfailure, hfirst, hsecond⟩ := hservices.cases world a
    · rw [hsame]
      cases world.serve second a with
      | none =>
        cases limits.stop? world.now with
        | some stop => exact ihs stop (h.2.2 stop) world
        | none =>
          cases limits.deadline with
          | none => exact .done world _ _ (.same _)
          | some deadline =>
            exact .wait world _ _ deadline fun later =>
              ihs .expired (h.2.2 .expired) (later.reach deadline)
      | some served =>
        refine Turn.Alike.log ?_ _ _
        cases hanswer : served.answer with
        | ok result => exact ih (.ok result) (h.1 result) served.world
        | error failure =>
          rw [h.2.1 failure]
          exact .done served.world _ _ (.same _)
    · rw [hfirst, hsecond]
      refine Turn.Alike.log ?_ _ _
      simp only [h.2.1]
      exact .done world _ _ (.failed hfailure)

end Planroom
