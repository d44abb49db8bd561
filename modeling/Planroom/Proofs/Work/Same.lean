import Planroom.Proofs.Work.Course
import Planroom.Proofs.Work.ReadOnly

/-!
# Jobs that come to the same

Two jobs may be written differently and still come to the same in every world with a certain store: the
same value, the same world afterwards, and the same events, whatever stamps the store is given.

* **One after the other** — `exec_bind`: what comes of a job that is made of two, when the store serves
  every access, is put together from what comes of the two.
* **The same** — `Job.SameIn`, and that it is preserved by what jobs are put together with. The first of
  two jobs must only read, so that the second one finds the store in which it is the same.
-/

namespace Planroom

/-- Work that is over, with something logged in front of it. -/
def Ended.afterLog {σ α : Type} (before : List Audit.Event) (ended : Ended σ α) : Ended σ α :=
  { ended with events := before ++ ended.events }

namespace Job

variable {ε ε' α β : Type} {store : Store} {job other : Job ε α} {f g : α → Job ε β}
  {stamp : Nat → Stamp}

/-! ## One after the other -/

/-- What comes of it when a job goes on with `f` after it has ended. What it has logged comes first.
-/
def goOn (stamp : Nat → Stamp) (first : Ended World (Fate ε α)) (f : α → Job ε β) :
    Ended World (Fate ε β) :=
  match first.value with
  | .returned (.ok value) => ((f value).exec (.ofStore stamp) first.state).afterLog first.events
  | .returned (.error error) => ⟨.returned (.error error), first.state, first.events⟩
  | .aborted reason => ⟨.aborted reason, first.state, first.events⟩
  | .hung => ⟨.hung, first.state, first.events⟩

/-- What was logged in front stays in front. -/
theorem goOn_afterLog (first : Ended World (Fate ε α)) (f : α → Job ε β)
    (before : List Audit.Event) :
    goOn stamp (first.afterLog before) f = (goOn stamp first f).afterLog before := by
  obtain ⟨value, state, events⟩ := first
  rcases value with (error | value) | reason | _
  · rfl
  · simp only [goOn, Ended.afterLog, List.append_assoc]
  · rfl
  · rfl

/-- An access, and then the rest. -/
theorem exec_access_eq (a : Access) (resume : Except Failure a.Result → Job ε α) (world : World) :
    (access a resume).exec (.ofStore stamp) world =
      ((resume (world.answered (stamp world.served) a).answer).exec (.ofStore stamp)
        (world.answered (stamp world.served) a).world).afterLog
        (world.answered (stamp world.served) a).events :=
  exec_access a resume world

/-- The store serves an access at once, so that it does not matter that it is guarded. -/
theorem exec_guarded_eq (limits : Limits) (a : Access) (resume : Except Failure a.Result → Job ε α)
    (stopped : Stop → Job ε α) (world : World) :
    (guarded limits a resume stopped).exec (.ofStore stamp) world =
      (access a resume).exec (.ofStore stamp) world := rfl

/-- **One job after the other.** By induction on the first one; each access of it is served at once.
-/
theorem exec_bind (job : Job ε α) (f : α → Job ε β) (world : World) :
    (job.bind f).exec (.ofStore stamp) world = goOn stamp (job.exec (.ofStore stamp) world) f := by
  induction job generalizing world with
  | done value => rfl
  | fail error => rfl
  | abort reason => rfl
  | clock resume ih => exact ih world.now world
  | access a resume ih => rw [Job.bind, exec_access_eq, exec_access_eq, goOn_afterLog, ih]
  | guarded limits a resume stopped ih _ =>
    rw [Job.bind, exec_guarded_eq, exec_guarded_eq, exec_access_eq, exec_access_eq, goOn_afterLog, ih]

/-! ## The same -/

/-- **Do two jobs come to the same** in every world with this store? It is an equation between what
they come to, so that everything that is told of one holds of the other. -/
def SameIn (store : Store) (job other : Job ε α) : Prop :=
  ∀ (stamp : Nat → Stamp) (world : World), world.store = store →
    job.exec (.ofStore stamp) world = other.exec (.ofStore stamp) world

/-- A job comes to the same as itself. -/
theorem SameIn.refl (store : Store) (job : Job ε α) : job.SameIn store job :=
  fun _ _ _ => rfl

/-- Jobs that are equal come to the same. -/
theorem SameIn.of_eq (h : job = other) : job.SameIn store other :=
  h ▸ .refl store job

/-- A job that only reads leaves the store as it finds it. -/
theorem OnlyReads.exec_store (h : job.OnlyReads) (services : Services) (world : World) :
    (job.exec services world).state.store = world.store :=
  (h.keeps services world).finish

/-- **Going on** after jobs that come to the same. The first part may only read, since the second
part is known to be the same in this store alone. -/
protected theorem SameIn.bind (h : job.SameIn store other) (hreads : job.OnlyReads)
    (hnext : ∀ value, (f value).SameIn store (g value)) :
    (job.bind f).SameIn store (other.bind g) := by
  rintro stamp world hworld
  rw [exec_bind, exec_bind, ← h stamp world hworld]
  have hstore : (job.exec (.ofStore stamp) world).state.store = store :=
    (hreads.exec_store _ world).trans hworld
  generalize job.exec (.ofStore stamp) world = first at hstore ⊢
  obtain ⟨value, state, events⟩ := first
  rcases value with (error | value) | reason | _
  · rfl
  · simp only [goOn, hnext value stamp state hstore]
  · rfl
  · rfl

/-- **Going on in the same way.** Here the first part may write as well. -/
theorem SameIn.followedBy (h : job.SameIn store other) (f : α → Job ε β) :
    (job.bind f).SameIn store (other.bind f) := by
  intro stamp world hworld
  rw [exec_bind, exec_bind, h stamp world hworld]

/-- An inquiry only reads, as look-ups are reads. -/
theorem Inquires.onlyReads (h : job.Inquires) : job.OnlyReads := by
  induction h with
  | refused error => exact trivial
  | ready h =>
    obtain ⟨value, rfl⟩ := h
    exact trivial
  | looksUp hlookup _ _ herror ih =>
    refine ⟨Access.isWrite_of_isLookup hlookup, fun answer => ?_⟩
    cases answer with
    | ok result => exact ih result
    | error failure =>
      obtain ⟨error, herror⟩ := herror failure
      rw [herror]
      exact trivial

/-- **After an inquiry** the same: this is the rule by which most of the tools are put together. -/
theorem SameIn.andThen (h : job.SameIn store other) (hinquires : job.Inquires)
    (hnext : ∀ value, (f value).SameIn store (g value)) :
    (job.bind f).SameIn store (other.bind g) :=
  h.bind hinquires.onlyReads hnext

/-- **Under limits** jobs come to the same as before, for the limits are the same and no time
passes. -/
theorem SameIn.within (h : job.SameIn store other) (limits : Limits) (stopped : Stop → ε) :
    (job.within limits stopped).SameIn store (other.within limits stopped) := by
  intro stamp world hworld
  cases hlimits : limits.stop? world.now with
  | some stop => rw [exec_within_of_some hlimits, exec_within_of_some hlimits]
  | none =>
    rw [exec_within_of_none hlimits, exec_within_of_none hlimits]
    exact h stamp world hworld

/-- Nothing happens to an anchor when something is read. -/
theorem notes_of_read {a : Access} (hread : a.isWrite = false) (stamp : Stamp) :
    (store.perform stamp a).notes = [] := by
  cases a <;> first | (cases hread; done) | rfl

/-- **Two reads** after whose answers jobs come to the same. The reads may be different ones. -/
theorem sameIn_access {a b : Access} {resume : Except Failure a.Result → Job ε α}
    {again : Except Failure b.Result → Job ε α} (hread : a.isWrite = false)
    (hagain : b.isWrite = false)
    (h : ∀ stamp, (resume (store.perform stamp a).answer).SameIn store
      (again (store.perform stamp b).answer)) :
    (access a resume).SameIn store (access b again) := by
  rintro stamp world rfl
  have hworld : (world.answered (stamp world.served) a).world =
      (world.answered (stamp world.served) b).world := by
    rw [World.answered_world_of_read hread, World.answered_world_of_read hagain]
  have hevents : (world.answered (stamp world.served) a).events =
      (world.answered (stamp world.served) b).events := by
    rw [World.answered, World.answered, notes_of_read hread, notes_of_read hagain]
  rw [exec_access_eq, exec_access_eq, hworld, hevents]
  exact congrArg (Ended.afterLog _)
    (h (stamp world.served) stamp _ (World.answered_of_read hagain))

end Job

end Planroom
