import Planroom.Proofs.Work.Result
import Planroom.Proofs.Work.Same

/-!
# Jobs that break off

A job may break off, and then there is no result at all. What it may break off for is seen from the job
itself, whatever it is answered.

* **Reach** — `Clock.Reaches`: the clock can show the instant at the end of a span. Where it cannot, no
  time limit can be set (`Context.withTimeout?_eq_none_iff`).
* **Reasons** — `Job.BreaksOnly`: a job breaks off for no other reasons than those that are allowed.
  Whatever jobs are put together with preserves this, and an errand does not break off at all.
* **Ends** — `BreaksOnly.ends`: where the store serves every access, such a job comes to a result unless it
  breaks off for one of these reasons.
* **In a store** — `Job.Completes`: a job that comes to a result in any world with this store.
-/

namespace Planroom

variable {ε ε' α β : Type}

/-! ## Reach -/

/-- **Does the clock reach** to the end of a span that begins now? It has a horizon, beyond which
there is no instant to wait for. -/
def Clock.Reaches (now : Instant) (span : Span) : Prop :=
  now + span < horizon

instance (now : Instant) (span : Span) : Decidable (Clock.Reaches now span) :=
  inferInstanceAs (Decidable (now + span < Clock.horizon))

/-- **No time limit** can be set exactly where the clock does not reach to its end. Whether there is
a limit already does not matter. -/
theorem Context.withTimeout?_eq_none_iff {context : Context} {now : Instant} {span : Span} :
    context.withTimeout? now span = none ↔ ¬ Clock.Reaches now span := by
  rw [withTimeout?, Option.map_eq_none_iff, Limits.withTimeout?, Option.map_eq_none_iff, Clock.after?,
    ite_eq_right_iff]
  exact forall_congr' fun _ => iff_of_false (Option.some_ne_none _) id

/-- Where the clock reaches far enough there is a limit. -/
theorem Context.exists_withTimeout? {now : Instant} {span : Span} (h : Clock.Reaches now span)
    (context : Context) : ∃ narrowed, context.withTimeout? now span = some narrowed :=
  Option.ne_none_iff_exists'.1 fun hnone => withTimeout?_eq_none_iff.1 hnone h

/-- **Does a job come to a result**, or break off for one of these reasons? To hang is neither. -/
inductive Fate.Concluded (allowed : Abort → Prop) : Fate ε α → Prop where
  | returned (result : Except ε α) : Concluded allowed (.returned result)
  | aborted {reason : Abort} (h : allowed reason) : Concluded allowed (.aborted reason)

namespace Job

variable {allowed : Abort → Prop} {stamp : Nat → Stamp} {store : Store} {job : Job ε α}

/-! ## Reasons -/

/-- **Does a job break off for no other reasons** than these, whatever it is answered and told? It
is read off the job without running it. -/
def BreaksOnly (allowed : Abort → Prop) : Job ε α → Prop
  | done _ | fail _ => True
  | abort reason => allowed reason
  | clock resume => ∀ now, (resume now).BreaksOnly allowed
  | access _ resume => ∀ answer, (resume answer).BreaksOnly allowed
  | guarded _ _ resume stopped =>
    (∀ answer, (resume answer).BreaksOnly allowed) ∧ ∀ stop, (stopped stop).BreaksOnly allowed

/-- A job that is over does not break off. -/
theorem breaksOnly_ofExcept (result : Except ε α) : (ofExcept result).BreaksOnly allowed := by
  cases result <;> exact trivial

/-- Nor does one that asks once and is over. -/
theorem breaksOnly_ask (a : Access) : (ask a).BreaksOnly allowed :=
  breaksOnly_ofExcept

/-- Every job breaks off for some reason or other. -/
theorem breaksOnly_any (job : Job ε α) : job.BreaksOnly fun _ => True := by
  induction job with
  | done | fail | abort => exact trivial
  | clock resume ih => exact ih
  | access a resume ih => exact ih
  | guarded limits a resume stopped ih ihs => exact ⟨ih, ihs⟩

namespace BreaksOnly

variable (h : job.BreaksOnly allowed)

include h

/-- One job may follow another. -/
protected theorem bind {f : α → Job ε β} (hnext : ∀ value, (f value).BreaksOnly allowed) :
    (job.bind f).BreaksOnly allowed := by
  induction job with
  | done value => exact hnext value
  | fail => exact trivial
  | abort => exact h
  | clock resume ih => exact fun now => ih now (h now)
  | access a resume ih => exact fun answer => ih answer (h answer)
  | guarded limits a resume stopped ih ihs =>
    exact ⟨fun answer => ih answer (h.1 answer), fun stop => ihs stop (h.2 stop)⟩

/-- An attempt takes the errors of a job for values, and does not keep it from breaking off. -/
theorem attempt : (job.attempt : Job ε' (Except ε α)).BreaksOnly allowed := by
  induction job with
  | done | fail => exact trivial
  | abort => exact h
  | clock resume ih => exact fun now => ih now (h now)
  | access a resume ih => exact fun answer => ih answer (h answer)
  | guarded limits a resume stopped ih ihs =>
    exact ⟨fun answer => ih answer (h.1 answer), fun stop => ihs stop (h.2 stop)⟩

/-- Errors may be put in other words. -/
theorem mapError (f : ε → ε') : (job.mapError f).BreaksOnly allowed := by
  induction job with
  | done | fail => exact trivial
  | abort => exact h
  | clock resume ih => exact fun now => ih now (h now)
  | access a resume ih => exact fun answer => ih answer (h answer)
  | guarded limits a resume stopped ih ihs =>
    exact ⟨fun answer => ih answer (h.1 answer), fun stop => ihs stop (h.2 stop)⟩

/-- A guard adds ways to be told to stop, and none to break off. -/
theorem guard (limits : Limits) (stopped : Stop → ε) : (job.guard limits stopped).BreaksOnly allowed := by
  induction job with
  | done | fail => exact trivial
  | abort => exact h
  | clock resume ih => exact fun now => ih now (h now)
  | access a resume ih => exact ⟨fun answer => ih answer (h answer), fun _ => trivial⟩
  | guarded inner a resume stop ih ihs =>
    exact ⟨fun answer => ih answer (h.1 answer), fun s => ihs s (h.2 s)⟩

/-- It is so with limits that are looked at in the beginning as well. -/
theorem within (limits : Limits) (stopped : Stop → ε) :
    (job.within limits stopped).BreaksOnly allowed := by
  intro now
  dsimp only
  cases limits.stop? now with
  | some stop => exact trivial
  | none => exact h.guard limits stopped

/-- **Where the store serves every access**, a job comes to a result unless it breaks off for one of
these reasons: it never hangs. Nothing is ever waited for then. -/
theorem ends (stamp : Nat → Stamp) (world : World) :
    (job.start (.ofStore stamp) world).Ends (Fate.Concluded allowed) := by
  induction job generalizing world with
  | done value => exact .returned (.ok value)
  | fail error => exact .returned (.error error)
  | abort reason => exact .aborted h
  | clock resume ih => exact ih world.now (h world.now) world
  | access a resume ih => exact (Turn.ends_log _ _).2 (ih _ (h _) _)
  | guarded limits a resume stopped ih _ => exact (Turn.ends_log _ _).2 (ih _ (h.1 _) _)

/-- So does one that is left alone. -/
theorem concluded (stamp : Nat → Stamp) (world : World) :
    (job.exec (.ofStore stamp) world).value.Concluded allowed :=
  (h.ends stamp world).finish

end BreaksOnly

/-- **An errand** does not break off, for any reason at all. -/
theorem RunsErrand.breaksOnly {final : Access → Prop} (h : job.RunsErrand final) :
    job.BreaksOnly allowed :=
  h.rec_access (fun _ => trivial) (fun _ => trivial) fun _ hrest => hrest

/-! ## In a store -/

/-- **Does a job come to a result** in every world with this store? The result may be an error. -/
def Completes (store : Store) (job : Job ε α) : Prop :=
  ∀ (stamp : Nat → Stamp) (world : World), world.store = store →
    ∃ result, (job.exec (.ofStore stamp) world).value = .returned result

/-- What a read is answered does not depend on its stamp. -/
theorem answer_of_read {a : Access} (hread : a.isWrite = false) (stamp other : Stamp) :
    (store.perform stamp a).answer = (store.perform other a).answer := by
  cases a <;> first | (cases hread; done) | rfl

/-- **A job that only reads** comes to the same whatever stamps there are. Stamps are for what is
created, and such a job creates nothing. -/
theorem OnlyReads.exec_value_eq (h : job.OnlyReads) (stamp other : Nat → Stamp) (world : World) :
    (job.exec (.ofStore stamp) world).value = (job.exec (.ofStore other) world).value := by
  have hanswered {a : Access} (hread : a.isWrite = false) (world : World) (first second : Stamp) :
      (world.answered first a).answer = (world.answered second a).answer ∧
        (world.answered first a).world = (world.answered second a).world :=
    ⟨answer_of_read hread first second,
      (World.answered_world_of_read hread).trans (World.answered_world_of_read hread).symm⟩
  induction job generalizing world with
  | done | fail | abort => rfl
  | clock resume ih => exact ih world.now (h world.now) world
  | access a resume ih =>
    obtain ⟨hanswer, hworld⟩ := hanswered h.1 world (stamp world.served) (other world.served)
    rw [exec_access_eq, exec_access_eq, hanswer, hworld]
    exact ih _ (h.2 _) _
  | guarded limits a resume stopped ih _ =>
    obtain ⟨hanswer, hworld⟩ := hanswered h.1 world (stamp world.served) (other world.served)
    rw [exec_guarded_eq, exec_guarded_eq, exec_access_eq, exec_access_eq, hanswer, hworld]
    exact ih _ (h.2.1 _) _

/-- A job whose error is put in other words comes to a result if it would do so otherwise. By
induction on the job, of which nothing is supposed here. -/
theorem returned_mapError {world : World} (f : ε → ε')
    (h : ∃ result, (job.exec (.ofStore stamp) world).value = .returned result) :
    ∃ result, ((job.mapError f).exec (.ofStore stamp) world).value = .returned result := by
  induction job generalizing world with
  | done value => exact ⟨.ok value, rfl⟩
  | fail error => exact ⟨.error (f error), rfl⟩
  | abort reason =>
    obtain ⟨result, hresult⟩ := h
    cases hresult
  | clock resume ih => exact ih world.now h
  | access a resume ih =>
    rw [exec_access_eq] at h
    rw [Job.mapError, exec_access_eq]
    exact ih _ h
  | guarded limits a resume stopped ih _ =>
    rw [exec_guarded_eq, exec_access_eq] at h
    rw [Job.mapError, exec_guarded_eq, exec_access_eq]
    exact ih _ h

/-- **A job that gives a result** comes to one. It is known to give it where all stamps are the
same, and a job that only reads does not depend on them. -/
theorem Gives.completes {result : Except ε α} (h : job.Gives store result) (hreads : job.OnlyReads) :
    job.Completes store := by
  intro stamp world hworld
  obtain ⟨hvalue, -⟩ := h (stamp 0) world hworld
  exact ⟨result, (hreads.exec_value_eq stamp _ world).trans hvalue⟩

namespace Completes

variable (h : job.Completes store)

include h

/-- It may put its errors in other words. -/
theorem mapError (f : ε → ε') : (job.mapError f).Completes store :=
  fun stamp world hworld => returned_mapError f (h stamp world hworld)

/-- It may be put under limits: where they are used up, the error is the result. -/
theorem within (limits : Limits) (stopped : Stop → ε) : (job.within limits stopped).Completes store := by
  intro stamp world hworld
  cases hlimits : limits.stop? world.now with
  | some stop =>
    rw [exec_within_of_some hlimits]
    exact ⟨_, rfl⟩
  | none =>
    rw [exec_within_of_none hlimits]
    exact h stamp world hworld

/-- The result may be told in another way. -/
theorem map (g : α → β) : (job.bind fun value => done (g value)).Completes store := by
  intro stamp world hworld
  obtain ⟨result, hresult⟩ := h stamp world hworld
  rw [exec_bind, goOn, hresult]
  cases result with
  | ok value => exact ⟨_, rfl⟩
  | error error => exact ⟨_, rfl⟩

end Completes

end Job

end Planroom
