import Planroom.Proofs.Work.Course

/-!
# The terms of a job

What a job asks for is made of what it has read and of what it has been told before. Terms say what is
supposed of the answers that a job is told, and what then holds of all that it asks for and of the
errors with which it fails. Whether a job abides by them is seen from the job alone.

* **Terms** — `Job.Abides`: as long as it is told what is supposed, a job asks for nothing else than
  its terms allow, and ends as they say. Whatever jobs are put together with preserves this.
* **Courses** — `Abides.course`: so it is on every course on which the answers were as supposed.
* **Turns** — `Abides.ends`: where nothing is supposed of the answers, a job ends as its terms say
  whoever answers it.
* **Asking** — where nothing is supposed of the answers, a job may come to ask for what its terms allow
  (`Abides.of_mayAsk`).
-/

namespace Planroom

variable {ε ε' α β : Type}

namespace Job

/-- **The terms of a job**: what is supposed of its answers, what it then asks for, and how it may
fail. They speak of single accesses; what ties one to another is in what a job gives. -/
structure Terms (ε : Type) where
  told : (access : Access) → Except Failure access.Result → Prop
  asks : Access → Prop
  fails : ε → Prop

/-- **Does a job abide by its terms**, and end with nothing else than what it is to give? That it
breaks off is not spoken of. -/
inductive Abides (terms : Terms ε) (gives : α → Prop) : Job ε α → Prop where
  | done {value : α} (hgives : gives value) : Abides terms gives (done value)
  | fail {error : ε} (hfails : terms.fails error) : Abides terms gives (fail error)
  | abort (reason : Abort) : Abides terms gives (abort reason)
  | clock {resume : Instant → Job ε α} (hresume : ∀ now, Abides terms gives (resume now)) :
      Abides terms gives (clock resume)
  | access {a : Access} {resume : Except Failure a.Result → Job ε α} (hasks : terms.asks a)
      (hresume : ∀ answer, terms.told a answer → Abides terms gives (resume answer)) :
      Abides terms gives (access a resume)
  | guarded {limits : Limits} {a : Access} {resume : Except Failure a.Result → Job ε α}
      {stopped : Stop → Job ε α} (hasks : terms.asks a)
      (hresume : ∀ answer, terms.told a answer → Abides terms gives (resume answer))
      (hstopped : ∀ stop, Abides terms gives (stopped stop)) :
      Abides terms gives (guarded limits a resume stopped)

/-! ## Putting together -/

variable {terms : Terms ε} {gives : α → Prop} {ends : β → Prop} {job : Job ε α}

namespace Abides

/-- **After a job** the next one goes on with what the first one gives. This is how a fact about an
answer gets to a later access. -/
protected theorem bind {f : α → Job ε β} (h : job.Abides terms gives)
    (hnext : ∀ value, gives value → (f value).Abides terms ends) :
    (job.bind f).Abides terms ends := by
  induction h with
  | done hgives => exact hnext _ hgives
  | fail hfails => exact .fail hfails
  | abort reason => exact .abort reason
  | clock _ ih => exact .clock ih
  | access hasks _ ih => exact .access hasks ih
  | guarded hasks _ _ ih ihs => exact .guarded hasks ih ihs

/-- Less may be said of what a job gives. -/
theorem imp {ends : α → Prop} (h : job.Abides terms gives)
    (himp : ∀ value, gives value → ends value) : job.Abides terms ends := by
  rw [← bind_done job]
  exact h.bind fun value hgives => .done (himp value hgives)

/-- **Under limits** a job may also fail with what is told when it stops. -/
theorem guard (h : job.Abides terms gives) (limits : Limits) {stopped : Stop → ε}
    (hstopped : ∀ stop, terms.fails (stopped stop)) :
    (job.guard limits stopped).Abides terms gives := by
  induction h with
  | done hgives => exact .done hgives
  | fail hfails => exact .fail hfails
  | abort reason => exact .abort reason
  | clock _ ih => exact .clock ih
  | access hasks _ ih => exact .guarded hasks ih fun stop => .fail (hstopped stop)
  | guarded hasks _ _ ih ihs => exact .guarded hasks ih ihs

/-- Limits that are looked at in the beginning do no more than that. -/
theorem within (h : job.Abides terms gives) (limits : Limits) {stopped : Stop → ε}
    (hstopped : ∀ stop, terms.fails (stopped stop)) :
    (job.within limits stopped).Abides terms gives := by
  refine .clock fun now => ?_
  cases limits.stop? now with
  | some stop => exact .fail (hstopped stop)
  | none => exact h.guard limits hstopped

end Abides

/-- **A single access** gives what is supposed of its answer, or fails with what is told of its
failure. -/
theorem abides_ask {a : Access} (hasks : terms.asks a) {tell : Failure → ε}
    (hfails : ∀ failure, terms.fails (tell failure)) :
    ((ask a).mapError tell).Abides terms fun result => terms.told a (.ok result) := by
  refine .access hasks fun answer htold => ?_
  cases answer with
  | ok result => exact .done htold
  | error failure => exact .fail (hfails failure)

end Job

/-! ## Courses -/

/-- **Is the job told what is supposed** at this turn of its own? To be told to stop is no answer.
-/
def Moment.Tells (told : (access : Access) → Except Failure access.Result → Prop) : Moment → Prop
  | served access stamp world => told access (world.answered stamp access).answer
  | stopped .. => True

/-- The access that the job asks for at this turn. -/
def Moment.access : Moment → Access
  | served access _ _ => access
  | stopped access _ _ => access

/-- **Does it end as it should?** A job that breaks off or hangs has no end that could be wrong. -/
def Fate.Meets (gives : α → Prop) (fails : ε → Prop) : Fate ε α → Prop
  | .returned (.ok value) => gives value
  | .returned (.error error) => fails error
  | .aborted _ | .hung => True

namespace Job

variable {terms : Terms ε} {gives : α → Prop} {job : Job ε α}

/-- **On a course where it is told what is supposed**, a job asks only for what its terms allow, and
ends as they say. By induction on the course, along which the job uses up its terms. -/
theorem Abides.course {world : World} {moments : List Moment} {fate : Fate ε α}
    (h : job.Abides terms gives) (hcourse : Course job world moments fate)
    (htold : ∀ moment ∈ moments, moment.Tells terms.told) :
    (∀ moment ∈ moments, terms.asks moment.access) ∧ fate.Meets gives terms.fails := by
  induction hcourse with
  | done =>
    cases h with
    | done hgives => exact ⟨List.forall_mem_nil _, hgives⟩
  | fail =>
    cases h with
    | fail hfails => exact ⟨List.forall_mem_nil _, hfails⟩
  | abort => exact ⟨List.forall_mem_nil _, trivial⟩
  | clock _ ih =>
    cases h with
    | clock hresume => exact ih (hresume _) htold
  | access _ _ ih =>
    obtain ⟨hfirst, hrest⟩ := List.forall_mem_cons.1 htold
    cases h with
    | access hasks hresume =>
      obtain ⟨hothers, hmeets⟩ := ih (hresume _ hfirst) hrest
      exact ⟨List.forall_mem_cons.2 ⟨hasks, hothers⟩, hmeets⟩
  | served _ _ _ ih =>
    obtain ⟨hfirst, hrest⟩ := List.forall_mem_cons.1 htold
    cases h with
    | guarded hasks hresume _ =>
      obtain ⟨hothers, hmeets⟩ := ih (hresume _ hfirst) hrest
      exact ⟨List.forall_mem_cons.2 ⟨hasks, hothers⟩, hmeets⟩
  | stopped _ stop _ ih =>
    cases h with
    | guarded hasks _ hstopped =>
      obtain ⟨hothers, hmeets⟩ := ih (hstopped stop) (List.forall_mem_cons.1 htold).2
      exact ⟨List.forall_mem_cons.2 ⟨hasks, hothers⟩, hmeets⟩

/-! ## Turns -/

/-- **Whoever answers it**, a job ends as its terms say if nothing is supposed of the answers. By
induction on the job. -/
theorem Abides.ends (h : job.Abides terms gives) (hany : ∀ access answer, terms.told access answer)
    (services : Services) (world : World) :
    (job.start services world).Ends fun fate => fate.Meets gives terms.fails := by
  induction h generalizing world with
  | done hgives => exact hgives
  | fail hfails => exact hfails
  | abort => exact trivial
  | clock _ ih => exact ih world.now world
  | @access a _ _ _ ih =>
    unfold start
    cases world.serve services a with
    | none => exact trivial
    | some served =>
      rw [Turn.ends_log]
      exact ih served.answer (hany a _) served.world
  | @guarded limits a _ _ _ _ _ ih ihs =>
    unfold start
    cases world.serve services a with
    | some served =>
      rw [Turn.ends_log]
      exact ih served.answer (hany a _) served.world
    | none =>
      cases limits.stop? world.now with
      | some stop => exact ihs stop world
      | none =>
        cases limits.deadline with
        | none => exact trivial
        | some deadline => exact fun later => ihs .expired (later.reach deadline)

/-! ## Asking -/

/-- **What a job may come to ask for** its terms allow, if nothing is supposed of the answers. -/
theorem Abides.of_mayAsk (h : job.Abides terms gives)
    (hany : ∀ access answer, terms.told access answer) {wanted : Access}
    (hasked : job.MayAsk wanted) : terms.asks wanted := by
  induction h with
  | done | fail | abort => exact hasked.elim
  | clock _ ih =>
    obtain ⟨now, hasked⟩ := hasked
    exact ih now hasked
  | @access a _ hasks _ ih =>
    obtain rfl | ⟨answer, hasked⟩ := hasked
    · exact hasks
    · exact ih answer (hany a answer) hasked
  | @guarded _ a _ _ hasks _ _ ih ihs =>
    obtain rfl | ⟨answer, hasked⟩ | ⟨stop, hasked⟩ := hasked
    · exact hasks
    · exact ih answer (hany a answer) hasked
    · exact ihs stop hasked

end Job

end Planroom
