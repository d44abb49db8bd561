import Planroom.Proofs.Work.Interleaving
import Planroom.Proofs.Work.Serving

/-!
# What a job hears

A job goes on with what it hears: the time when it reads the clock, and the answers to its accesses.
Here anybody may answer them, with whatever they like and whenever they like, as long as the limits hold
at that time; and a job that waits under limits may be told to stop at any time, as it may be cancelled
at any time. So what is shown of all that a job may hear does not depend on who serves it, nor on how
long that takes.

* **Hearing** — `Job.Hears`: what a job has heard, in order, and how it ended with that.
* **Putting together** — what a job of two parts hears, its first part hears first (`Hears.of_bind`).
* **Looking up** — `Looked`: what comes of asking once under limits. A job goes on after a look-up that
  it only attempts, whatever comes of that (`Hears.of_lookUp`).
* **Running** — `Job.Answerable`: somebody answers, or else there are limits that run out. Such a job
  does not hang, and ends with what it has heard from its services (`Answerable.ends`).
-/

namespace Planroom

/-- **What a job hears**: the time, an answer at some time, or the word to stop. These are all the
ways in which the world gets into a job. -/
inductive Hearing where
  | time (now : Instant)
  | answered (access : Access) (answer : Except Failure access.Result) (now : Instant)
  | stopped (access : Access) (stop : Stop)

variable {ε ε' α β : Type}

namespace Job

/-- **A job that hears this** ends so. Answers may be any, and only under limits does it matter when
they come. -/
inductive Hears : Job ε α → List Hearing → Fate ε α → Prop where
  | done (value : α) : Hears (done value) [] (.returned (.ok value))
  | fail (error : ε) : Hears (fail error) [] (.returned (.error error))
  | abort (reason : Abort) : Hears (abort reason) [] (.aborted reason)
  | clock {resume : Instant → Job ε α} {heard : List Hearing} {fate : Fate ε α} (now : Instant)
      (hrest : Hears (resume now) heard fate) : Hears (clock resume) (.time now :: heard) fate
  | access {a : Access} {resume : Except Failure a.Result → Job ε α} {heard : List Hearing}
      {fate : Fate ε α} (answer : Except Failure a.Result) (now : Instant)
      (hrest : Hears (resume answer) heard fate) :
      Hears (access a resume) (.answered a answer now :: heard) fate
  | answered {limits : Limits} {a : Access} {resume : Except Failure a.Result → Job ε α}
      {stopped : Stop → Job ε α} {heard : List Hearing} {fate : Fate ε α}
      (answer : Except Failure a.Result) {now : Instant} (hlimits : limits.stop? now = none)
      (hrest : Hears (resume answer) heard fate) :
      Hears (guarded limits a resume stopped) (.answered a answer now :: heard) fate
  | stopped {limits : Limits} {a : Access} {resume : Except Failure a.Result → Job ε α}
      {stopped : Stop → Job ε α} {heard : List Hearing} {fate : Fate ε α} (stop : Stop)
      (hrest : Hears (stopped stop) heard fate) :
      Hears (guarded limits a resume stopped) (.stopped a stop :: heard) fate

variable {job : Job ε α} {heard : List Hearing}

/-! ## Putting together -/

/-- A job that is over hears nothing. -/
theorem Hears.of_done {value : α} {fate : Fate ε α}
    (h : (Job.done value : Job ε α).Hears heard fate) :
    heard = [] ∧ fate = .returned (.ok value) := by
  cases h
  exact ⟨rfl, rfl⟩

/-- Nor does one that has failed. -/
theorem Hears.of_fail {error : ε} {fate : Fate ε α}
    (h : (Job.fail error : Job ε α).Hears heard fate) :
    heard = [] ∧ fate = .returned (.error error) := by
  cases h
  exact ⟨rfl, rfl⟩

/-- **How the first part of a job ends**, and what becomes of the rest. It is reached only if the
first part ends with a value. -/
inductive Continued (job : Job ε α) (f : α → Job ε β) : List Hearing → Fate ε β → Prop where
  | went {value : α} {first rest : List Hearing} {fate : Fate ε β}
      (hfirst : job.Hears first (.returned (.ok value))) (hrest : (f value).Hears rest fate) :
      Continued job f (first ++ rest) fate
  | failed {error : ε} {heard : List Hearing} (h : job.Hears heard (.returned (.error error))) :
      Continued job f heard (.returned (.error error))
  | aborted {reason : Abort} {heard : List Hearing} (h : job.Hears heard (.aborted reason)) :
      Continued job f heard (.aborted reason)

/-- Something else may have been heard before. -/
theorem Continued.after {whole : Job ε α} {f : α → Job ε β} {fate : Fate ε β}
    (h : Continued job f heard fate) (before : List Hearing)
    (hwhole : ∀ {heard fate}, job.Hears heard fate → whole.Hears (before ++ heard) fate) :
    Continued whole f (before ++ heard) fate := by
  cases h with
  | went hfirst hrest =>
    rw [← List.append_assoc]
    exact .went (hwhole hfirst) hrest
  | failed h => exact .failed (hwhole h)
  | aborted h => exact .aborted (hwhole h)

/-- **One part after the other.** What is heard can be cut in two where the first part is over. By
induction on this part. -/
theorem Hears.of_bind {f : α → Job ε β} {fate : Fate ε β} (h : (job.bind f).Hears heard fate) :
    Continued job f heard fate := by
  induction job generalizing heard with
  | done value => exact .went (.done value) h
  | fail error =>
    obtain ⟨rfl, rfl⟩ := h.of_fail
    exact .failed (.fail error)
  | abort reason =>
    cases h
    exact .aborted (.abort reason)
  | clock resume ih =>
    cases h with
    | clock now hrest => exact (ih now hrest).after [.time now] (.clock now)
  | access a resume ih =>
    cases h with
    | access answer now hrest =>
      exact (ih answer hrest).after [.answered a answer now] (.access answer now)
  | guarded limits a resume stopped ih ihs =>
    cases h with
    | answered answer hlimits hrest =>
      exact (ih answer hrest).after [.answered a answer _] (.answered answer hlimits)
    | stopped stop hrest => exact (ihs stop hrest).after [.stopped a stop] (.stopped stop)

/-- The first part may be one that always ends with a value. -/
theorem Hears.of_bind_sure {f : α → Job ε β} {fate : Fate ε β} (h : (job.bind f).Hears heard fate)
    (hsure : ∀ heard fate, job.Hears heard fate → ∃ value, fate = .returned (.ok value)) :
    ∃ first rest value, heard = first ++ rest ∧ job.Hears first (.returned (.ok value)) ∧
      (f value).Hears rest fate := by
  cases h.of_bind with
  | went hfirst hrest => exact ⟨_, _, _, rfl, hfirst, hrest⟩
  | failed hended =>
    obtain ⟨value, hvalue⟩ := hsure _ _ hended
    cases hvalue
  | aborted hended =>
    obtain ⟨value, hvalue⟩ := hsure _ _ hended
    cases hvalue

/-- **What an attempted job hears**, the job hears, and what comes of that is its value. A job that
breaks off would do so in an attempt as well, which is why it may not. -/
theorem Hears.of_attempt {fate : Fate ε' (Except ε α)}
    (h : (job.attempt : Job ε' (Except ε α)).Hears heard fate)
    (hreturns : ∀ heard fate, job.Hears heard fate → ∃ result, fate = .returned result) :
    ∃ result, job.Hears heard (.returned result) ∧ fate = .returned (.ok result) := by
  induction job generalizing heard with
  | done value =>
    obtain ⟨rfl, rfl⟩ := h.of_done
    exact ⟨.ok value, .done value, rfl⟩
  | fail error =>
    obtain ⟨rfl, rfl⟩ := h.of_done
    exact ⟨.error error, .fail error, rfl⟩
  | abort reason =>
    obtain ⟨result, hresult⟩ := hreturns [] _ (.abort reason)
    cases hresult
  | clock resume ih =>
    cases h with
    | clock now hrest =>
      obtain ⟨result, hresult, hfate⟩ :=
        ih now hrest fun heard fate h => hreturns _ _ (.clock now h)
      exact ⟨result, .clock now hresult, hfate⟩
  | access a resume ih =>
    cases h with
    | access answer now hrest =>
      obtain ⟨result, hresult, hfate⟩ :=
        ih answer hrest fun heard fate h => hreturns _ _ (.access answer now h)
      exact ⟨result, .access answer now hresult, hfate⟩
  | guarded limits a resume stopped ih ihs =>
    cases h with
    | answered answer hlimits hrest =>
      obtain ⟨result, hresult, hfate⟩ :=
        ih answer hrest fun heard fate h => hreturns _ _ (.answered answer hlimits h)
      exact ⟨result, .answered answer hlimits hresult, hfate⟩
    | stopped stop hrest =>
      obtain ⟨result, hresult, hfate⟩ :=
        ihs stop hrest fun heard fate h => hreturns _ _ (.stopped stop h)
      exact ⟨result, .stopped stop hresult, hfate⟩

/-! ## Looking up -/

end Job

/-- **What comes of asking once under limits**: an answer in time that is not a failure, or nothing.
Why nothing came of it is told apart here, and not in the program. -/
inductive Looked (limits : Limits) (a : Access) : List Hearing → Option a.Result → Prop where
  /-- It was too late to ask. -/
  | late {now : Instant} (stop : Stop) (hlate : limits.stop? now = some stop) :
      Looked limits a [.time now] none
  /-- The answer did not come in time. -/
  | stopped {now : Instant} (hnow : limits.stop? now = none) (stop : Stop) :
      Looked limits a [.time now, .stopped a stop] none
  | failed {now later : Instant} (hnow : limits.stop? now = none) (failure : Failure)
      (hlater : limits.stop? later = none) :
      Looked limits a [.time now, .answered a (.error failure) later] none
  | found {now later : Instant} (hnow : limits.stop? now = none) (result : a.Result)
      (hlater : limits.stop? later = none) :
      Looked limits a [.time now, .answered a (.ok result) later] (some result)

namespace Job

variable {heard : List Hearing} {limits : Limits} {a : Access} {tell : Failure → ε}
  {stopped : Stop → ε}

/-- To ask once under limits ends in one of these four ways. -/
theorem Hears.of_ask {fate : Fate ε a.Result}
    (h : (((ask a).mapError tell).within limits stopped).Hears heard fate) :
    ∃ result, Looked limits a heard result.toOption ∧ fate = .returned result := by
  cases h with
  | clock now hrest =>
    -- the limits are looked at twice: before the question, and when the answer comes
    cases hnow : limits.stop? now with
    | some stop =>
      simp only [hnow] at hrest
      obtain ⟨rfl, rfl⟩ := hrest.of_fail
      exact ⟨.error (stopped stop), .late stop hnow, rfl⟩
    | none =>
      simp only [hnow] at hrest
      cases hrest with
      | answered answer hlater hrest =>
        cases answer with
        | ok result =>
          obtain ⟨rfl, rfl⟩ := hrest.of_done
          exact ⟨.ok result, .found hnow result hlater, rfl⟩
        | error failure =>
          obtain ⟨rfl, rfl⟩ := hrest.of_fail
          exact ⟨.error (tell failure), .failed hnow failure hlater, rfl⟩
      | stopped stop hrest =>
        obtain ⟨rfl, rfl⟩ := hrest.of_fail
        exact ⟨.error (stopped stop), .stopped hnow stop, rfl⟩

/-- **A look-up that is attempted** always ends with a value, with which the job goes on. So nothing
that becomes of it can end the job. -/
theorem Hears.of_lookUp {f : Except ε a.Result → Job ε' β} {fate : Fate ε' β}
    (h : ((((ask a).mapError tell).within limits stopped).attempt.bind f).Hears heard fate) :
    ∃ first rest result, heard = first ++ rest ∧ Looked limits a first result.toOption ∧
      (f result).Hears rest fate := by
  have hreturns : ∀ heard fate, (((ask a).mapError tell).within limits stopped).Hears heard fate →
      ∃ result, fate = .returned result := by
    intro heard fate hasked
    obtain ⟨result, -, hfate⟩ := hasked.of_ask
    exact ⟨result, hfate⟩
  obtain ⟨first, rest, result, rfl, hfirst, hrest⟩ := h.of_bind_sure fun heard fate hattempted => by
    obtain ⟨result, -, hfate⟩ := hattempted.of_attempt hreturns
    exact ⟨result, hfate⟩
  obtain ⟨same, hasked, hsame⟩ := hfirst.of_attempt hreturns
  cases hsame
  obtain ⟨same, hlooked, hsame⟩ := hasked.of_ask
  cases hsame
  exact ⟨first, rest, result, rfl, hlooked, hrest⟩

end Job

/-! ## Running -/

/-- **Do the limits run out** some time? They have if the work is cancelled, and they will if there
is a deadline. -/
def Limits.RunOut (limits : Limits) : Prop :=
  limits.canceled = true ∨ limits.deadline.isSome = true

/-- Limits that run out, and have not run out yet, have a deadline. -/
theorem Limits.RunOut.exists_deadline {limits : Limits} {now : Instant} (h : limits.RunOut)
    (hnow : limits.stop? now = Option.none) : ∃ deadline, limits.deadline = some deadline := by
  obtain hcanceled | hdeadline := h
  · unfold Limits.stop? at hnow
    rw [if_pos hcanceled] at hnow
    cases hnow
  · exact Option.isSome_iff_exists.1 hdeadline

/-- **Does somebody answer**, or else a limit that runs out end the waiting? Otherwise a job would
wait for ever. -/
def Services.Heeds (services : Services) (limits : Limits) (a : Access) : Prop :=
  services.serve a = .never → limits.RunOut

/-- **Is this what the services tell** a job that has come to this time? Every answer is that of the
store or of somebody else, and no time passes until it comes. Where nobody answers the job is told to
stop, at whatever time. -/
inductive Services.Told (services : Services) : Instant → List Hearing → Prop where
  | nothing (now : Instant) : Told services now []
  | time {now : Instant} {heard : List Hearing} (hrest : Told services now heard) :
      Told services now (.time now :: heard)
  | answered {now : Instant} {a : Access} {answer : Except Failure a.Result} {heard : List Hearing}
      (hserve : services.serve a = .answered answer) (hrest : Told services now heard) :
      Told services now (.answered a answer now :: heard)
  | stored {now : Instant} {a : Access} {heard : List Hearing} (store : Store) (stamp : Stamp)
      (hserve : services.serve a = .stored) (hrest : Told services now heard) :
      Told services now (.answered a (store.perform stamp a).answer now :: heard)
  | stopped {now later : Instant} {a : Access} {heard : List Hearing}
      (hserve : services.serve a = .never) (hrest : Told services later heard) :
      Told services now (.stopped a .expired :: heard)

/-- An access that is served is told to a job at the time at which it asks. -/
theorem Services.told_of_serve {services : Services} {world : World} {a : Access} {served : Served a}
    {heard : List Hearing} (h : world.serve services a = some served)
    (hrest : services.Told served.world.now heard) :
    services.Told world.now (.answered a served.answer world.now :: heard) := by
  cases World.servedBy_of_serve h with
  | answered hanswer => exact .answered hanswer hrest
  | stored hstored hperformed =>
    subst hperformed
    exact .stored world.store (services.stamp world.served) hstored hrest

namespace Job

/-- **Does a job that has come to this time end**, because each access of its own is answered in
time or given up? What is answered takes no time, so that the limits which held before still hold.
-/
def Answerable (services : Services) : Job ε α → Instant → Prop
  | done _, _ | fail _, _ | abort _, _ => True
  | clock resume, now => (resume now).Answerable services now
  | access a resume, now =>
    services.serve a ≠ .never ∧ ∀ answer, (resume answer).Answerable services now
  | guarded limits a resume stopped, now =>
    limits.stop? now = none ∧ services.Heeds limits a ∧
      (∀ answer, (resume answer).Answerable services now) ∧
      ∀ stop later, (stopped stop).Answerable services later

variable {services : Services} {job : Job ε α} {now : Instant}

/-- One job may follow another, which may begin at any time. -/
protected theorem Answerable.bind {f : α → Job ε β} (h : job.Answerable services now)
    (hnext : ∀ value later, (f value).Answerable services later) :
    (job.bind f).Answerable services now := by
  induction job generalizing now with
  | done value => exact hnext value now
  | fail | abort => exact trivial
  | clock resume ih => exact ih now h
  | access a resume ih => exact ⟨h.1, fun answer => ih answer (h.2 answer)⟩
  | guarded limits a resume stopped ih ihs =>
    obtain ⟨hlimits, hheeds, hrest, hstopped⟩ := h
    exact ⟨hlimits, hheeds, fun answer => ih answer (hrest answer),
      fun stop later => ihs stop (hstopped stop later)⟩

/-- A job may be attempted. -/
protected theorem Answerable.attempt (h : job.Answerable services now) :
    (job.attempt : Job ε' (Except ε α)).Answerable services now := by
  induction job generalizing now with
  | done | fail | abort => exact trivial
  | clock resume ih => exact ih now h
  | access a resume ih => exact ⟨h.1, fun answer => ih answer (h.2 answer)⟩
  | guarded limits a resume stopped ih ihs =>
    obtain ⟨hlimits, hheeds, hrest, hstopped⟩ := h
    exact ⟨hlimits, hheeds, fun answer => ih answer (hrest answer),
      fun stop later => ihs stop (hstopped stop later)⟩

/-- A job that is over has ended. -/
theorem answerable_ofExcept (result : Except ε α) (now : Instant) :
    (ofExcept result).Answerable services now := by
  cases result <;> exact trivial

/-- **Asking once under limits**: they have been looked at just before, so that they hold when it is
asked. -/
theorem answerable_ask {limits : Limits} {a : Access} (h : services.Heeds limits a)
    (tell : Failure → ε) (stopped : Stop → ε) (now : Instant) :
    (((ask a).mapError tell).within limits stopped).Answerable services now := by
  rw [within, Answerable]
  cases hlimits : limits.stop? now with
  | some stop => exact trivial
  | none => exact ⟨hlimits, h, fun answer => by cases answer <;> exact trivial, fun _ _ => trivial⟩

/-- **A job that is answerable** comes to an end, with what it has heard from its services. By
induction on the job; each answer is heard at the time that the world shows. -/
theorem Answerable.ends {world : World} (h : job.Answerable services world.now) :
    (job.start services world).Ends fun fate =>
      ∃ heard, job.Hears heard fate ∧ services.Told world.now heard := by
  induction job generalizing world with
  | done value => exact ⟨[], .done value, .nothing world.now⟩
  | fail error => exact ⟨[], .fail error, .nothing world.now⟩
  | abort reason => exact ⟨[], .abort reason, .nothing world.now⟩
  | clock resume ih =>
    refine (ih world.now h).imp ?_
    rintro fate ⟨heard, hheard, htold⟩
    exact ⟨_, .clock world.now hheard, .time htold⟩
  | access a resume ih =>
    rw [start]
    cases hserved : world.serve services a with
    | none => exact absurd (World.serve_eq_none_iff.1 hserved) h.1
    | some served =>
      have hnow := World.now_of_serve hserved
      rw [Turn.ends_log]
      refine (ih served.answer (hnow ▸ h.2 served.answer)).imp ?_
      rintro fate ⟨heard, hheard, htold⟩
      exact ⟨_, .access served.answer world.now hheard, Services.told_of_serve hserved htold⟩
  | guarded limits a resume stopped ih ihs =>
    obtain ⟨hlimits, hheeds, hrest, hstopped⟩ := h
    rw [start]
    cases hserved : world.serve services a with
    | some served =>
      have hnow := World.now_of_serve hserved
      rw [Turn.ends_log]
      refine (ih served.answer (hnow ▸ hrest served.answer)).imp ?_
      rintro fate ⟨heard, hheard, htold⟩
      exact ⟨_, .answered served.answer hlimits hheard, Services.told_of_serve hserved htold⟩
    | none =>
      -- nobody answers, and so the job waits for its deadline
      have hnever := World.serve_eq_none_iff.1 hserved
      obtain ⟨deadline, hdeadline⟩ := (hheeds hnever).exists_deadline hlimits
      rw [hlimits, hdeadline]
      intro later
      refine (ihs .expired (hstopped .expired (later.reach deadline).now)).imp ?_
      rintro fate ⟨heard, hheard, htold⟩
      exact ⟨_, .stopped .expired hheard, .stopped hnever htold⟩

end Job

end Planroom
