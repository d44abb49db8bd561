import Planroom.Proofs.Store.Persistence
import Planroom.Proofs.Work.Asking

/-!
# Errands

Nearly everything that is asked for over several accesses is an errand: things are looked up, one
after the other, and then there is one access for which all this was done.

* **Looking up** — `Job.LooksUpThen P`: the job looks things up and is then as `P` says. It may be
  refused on the way; it is refused whenever a look-up fails. What it does with an answer depends on
  nothing but what the answer settles.
* **Inquiring** — `Job.Inquires`: it looks things up and is then over with a value.
* **Running an errand** — `Job.RunsErrand final`: it looks things up and then makes its last access,
  which is one of those that `final` allows and which alone decides between success and failure.

Inquiries are put together with `LooksUpThen.andThen`, each `do` block line by line.
-/

namespace Planroom.Job

variable {ε ε' α β : Type} {P : Job ε α → Prop}

/-- **A job that looks things up** and is then as `P` says, unless it is refused. That it goes on in
the same way after answers that settle the same is what will make it act at once. -/
inductive LooksUpThen (P : Job ε α → Prop) : Job ε α → Prop where
  | refused (error : ε) : LooksUpThen P (fail error)
  | ready {job : Job ε α} (h : P job) : LooksUpThen P job
  | looksUp {a : Access} {resume : Except Failure a.Result → Job ε α}
      (hlookup : a.isLookup = true)
      (hok : ∀ result, LooksUpThen P (resume (.ok result)))
      (hsame : ∀ first second, a.Settles first second →
        resume (.ok first) = resume (.ok second))
      (herror : ∀ failure, ∃ error, resume (.error failure) = fail error) :
      LooksUpThen P (access a resume)

/-- **The last access of a job**: it is over with a value if the access succeeds, and with an error
if it fails. Nothing can fail after it has succeeded. -/
inductive Acts (final : Access → Prop) : Job ε α → Prop where
  | mk {a : Access} {resume : Except Failure a.Result → Job ε α} (hfinal : final a)
      (hok : ∀ result, ∃ value, resume (.ok result) = done value)
      (herror : ∀ failure, ∃ error, resume (.error failure) = fail error) :
      Acts final (access a resume)

/-- **An inquiry** looks things up, and is over with a value or refused. -/
def Inquires : Job ε α → Prop :=
  LooksUpThen fun job => ∃ value, job = done value

/-- **An errand** looks things up, and then makes its last access. -/
def RunsErrand (final : Access → Prop) : Job ε α → Prop :=
  LooksUpThen (Acts final)

/-- **An errand is made of accesses alone.** What holds of every job that is over, and of a job with
one more access in front if it is a look-up or one of the last, holds of an errand. It never reads
the clock or breaks off. -/
theorem RunsErrand.rec_access {final : Access → Prop} {Q : Job ε α → Prop}
    (hdone : ∀ value, Q (done value)) (hfail : ∀ error, Q (fail error))
    (haccess : ∀ {a : Access} {resume : Except Failure a.Result → Job ε α},
      a.isLookup = true ∨ final a → (∀ answer, Q (resume answer)) → Q (access a resume))
    {job : Job ε α} (h : job.RunsErrand final) : Q job := by
  have hrefused {a : Access} {resume : Except Failure a.Result → Job ε α} {failure : Failure}
      (herror : ∃ error, resume (.error failure) = fail error) : Q (resume (.error failure)) := by
    obtain ⟨error, herror⟩ := herror
    rw [herror]
    exact hfail error
  induction h with
  | refused error => exact hfail error
  | ready h =>
    obtain ⟨hfinal, hok, herror⟩ := h
    refine haccess (.inr hfinal) fun answer => ?_
    cases answer with
    | error failure => exact hrefused (herror failure)
    | ok result =>
      obtain ⟨value, hvalue⟩ := hok result
      rw [hvalue]
      exact hdone value
  | looksUp hlookup _ _ herror ih =>
    refine haccess (.inl hlookup) fun answer => ?_
    cases answer with
    | error failure => exact hrefused (herror failure)
    | ok result => exact ih result

/-- **What an errand may ask for** are look-ups and its last access, and it asks for no write on the
way. -/
theorem RunsErrand.of_mayAsk {final : Access → Prop} {job : Job ε α} (h : job.RunsErrand final)
    {wanted : Access} (hasked : job.MayAsk wanted) : wanted.isLookup = true ∨ final wanted := by
  refine h.rec_access (Q := fun job => job.MayAsk wanted → wanted.isLookup = true ∨ final wanted)
    (fun _ => False.elim) (fun _ => False.elim) ?_ hasked
  rintro a resume hmay hrest (rfl | ⟨answer, hasked⟩)
  · exact hmay
  · exact hrest answer hasked

/-! ## Putting together -/

/-- What follows is looked at only where the job is ready; everything before that is kept. -/
theorem LooksUpThen.bind {Q : Job ε β → Prop} {job : Job ε α} {f : α → Job ε β}
    (h : job.LooksUpThen P) (hready : ∀ job, P job → (job.bind f).LooksUpThen Q) :
    (job.bind f).LooksUpThen Q := by
  induction h with
  | refused error => exact .refused error
  | ready h => exact hready _ h
  | looksUp hlookup _ hsame herror ih =>
    refine .looksUp hlookup ih ?_ ?_
    · intro first second hsettles
      rw [hsame first second hsettles]
    · intro failure
      obtain ⟨error, herror⟩ := herror failure
      exact ⟨error, by rw [herror]; rfl⟩

/-- **After an inquiry** the job goes on with its value. -/
theorem Inquires.andThen {Q : Job ε β → Prop} {job : Job ε α} {f : α → Job ε β}
    (h : job.Inquires) (hnext : ∀ value, (f value).LooksUpThen Q) :
    (job.bind f).LooksUpThen Q := by
  refine LooksUpThen.bind h ?_
  rintro _ ⟨value, rfl⟩
  exact hnext value

/-- A value is an inquiry without any question. -/
theorem inquires_done (value : α) : (done value : Job ε α).Inquires :=
  .ready ⟨value, rfl⟩

/-- So is a refusal. -/
theorem inquires_fail (error : ε) : (fail error : Job ε α).Inquires :=
  .refused error

/-- And so is what may be either. -/
theorem inquires_ofExcept (result : Except ε α) : (ofExcept result).Inquires := by
  cases result with
  | ok value => exact inquires_done value
  | error error => exact inquires_fail error

/-- **Looking something up**, and keeping of the answer only what it settles. What is not kept
cannot make a difference later. -/
theorem inquires_ask {a : Access} (hlookup : a.isLookup = true) (g : Failure → ε)
    {keep : a.Result → β}
    (hsettled : ∀ first second, a.Settles first second → keep first = keep second) :
    (((ask a).mapError g).bind fun result => done (keep result)).Inquires :=
  .looksUp hlookup (fun result => inquires_done (keep result))
    (fun first second h => congrArg done (hsettled first second h)) fun failure => ⟨g failure, rfl⟩

/-- **Asking for one thing** is an errand. -/
theorem runsErrand_ask {final : Access → Prop} {a : Access} (hfinal : final a) :
    (ask a).RunsErrand final :=
  .ready (.mk hfinal (fun result => ⟨result, rfl⟩) fun failure => ⟨failure, rfl⟩)

/-- More may be allowed for the last access than it is. -/
theorem RunsErrand.imp {final wider : Access → Prop} {job : Job ε α} (h : job.RunsErrand final)
    (himp : ∀ access, final access → wider access) : job.RunsErrand wider := by
  rw [← bind_done job]
  refine LooksUpThen.bind h fun job hacts => ?_
  rw [bind_done]
  obtain ⟨hfinal, hok, herror⟩ := hacts
  exact .ready (.mk (himp _ hfinal) hok herror)

/-- The result of an errand may be told in another way. -/
theorem RunsErrand.map {final : Access → Prop} {job : Job ε α} (h : job.RunsErrand final)
    (g : α → β) : (job.bind fun value => done (g value)).RunsErrand final := by
  refine LooksUpThen.bind h ?_
  rintro _ ⟨hfinal, hok, herror⟩
  refine .ready (.mk hfinal ?_ ?_)
  · intro result
    obtain ⟨value, hvalue⟩ := hok result
    exact ⟨g value, by rw [hvalue]; rfl⟩
  · intro failure
    obtain ⟨error, herror⟩ := herror failure
    exact ⟨error, by rw [herror]; rfl⟩

/-- So may its errors. They are told when it is refused, when a look-up fails, and when its last
access does. -/
theorem RunsErrand.mapError {final : Access → Prop} {job : Job ε α} (h : job.RunsErrand final)
    (g : ε → ε') : (job.mapError g).RunsErrand final := by
  induction h with
  | refused error => exact .refused (g error)
  | ready h =>
    obtain ⟨hfinal, hok, herror⟩ := h
    refine .ready (.mk hfinal ?_ ?_)
    · intro result
      obtain ⟨value, hvalue⟩ := hok result
      exact ⟨value, by rw [hvalue]; rfl⟩
    · intro failure
      obtain ⟨error, herror⟩ := herror failure
      exact ⟨g error, by rw [herror]; rfl⟩
  | looksUp hlookup _ hsame herror ih =>
    refine .looksUp hlookup ih ?_ ?_
    · intro first second hsettles
      rw [hsame first second hsettles]
    · intro failure
      obtain ⟨error, herror⟩ := herror failure
      exact ⟨g error, by rw [herror]; rfl⟩

end Planroom.Job
