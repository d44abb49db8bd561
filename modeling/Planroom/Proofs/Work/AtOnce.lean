import Planroom.Proofs.Work.Course

/-!
# As if all were done at once

An errand looks things up at one moment and acts on them at another, and others have their turns in
between. It makes no difference: what it has looked up stays settled, so that the whole errand, done
at once at its last turn, would have come to the same.

* **At once** — `Job.ComesTo`: what comes of a job that is done from its beginning to its end while
  nobody else has a turn, and what store it leaves.
* **At its last turn** — `Job.ActsAtOnce`: a course is as if all had been done at its last turn, and
  no other turn of its own has changed the store.
* **Errands** — `RunsErrand.atLast`, by induction on what is looked up; the step is
  `AtLast.lookedUp`, where what was settled before is found again at the last turn.
-/

namespace Planroom.Job

variable {ε α β : Type} {final : Access → Prop} {guarding : Option (Guard ε)} {limits : Limits}
  {stopped : Stop → ε} {world : World} {moments : List Moment} {fate : Fate ε α} {stamp : Stamp}
  {store : Store}

/-- **What comes of a job that is done at once**, each access of it being served with this stamp. It
is the work of one moment, to which the course among others is compared. -/
def ComesTo (job : Job ε α) (stamp : Stamp) (world : World) (fate : Fate ε α) (store : Store) :
    Prop :=
  (job.exec (.ofStore fun _ => stamp) world).value = fate ∧
    (job.exec (.ofStore fun _ => stamp) world).state.store = store

/-- A job that is over leaves the store as it is. -/
theorem comesTo_done (value : α) (stamp : Stamp) (world : World) :
    (done value : Job ε α).ComesTo stamp world (.returned (.ok value)) world.store :=
  ⟨rfl, rfl⟩

/-- So does one that has failed. -/
theorem comesTo_fail (error : ε) (stamp : Stamp) (world : World) :
    (fail error : Job ε α).ComesTo stamp world (.returned (.error error)) world.store :=
  ⟨rfl, rfl⟩

/-- An access is answered by the store, and then the rest is done. -/
theorem comesTo_access {a : Access} {resume : Except Failure a.Result → Job ε α} :
    (access a resume).ComesTo stamp world fate store ↔
      (resume (world.answered stamp a).answer).ComesTo stamp (world.answered stamp a).world
        fate store := by
  rw [ComesTo, exec_access]
  exact Iff.rfl

/-- Limits make no difference to what is done at once, since there is no waiting. -/
theorem comesTo_guarded {l : Limits} {a : Access} {resume : Except Failure a.Result → Job ε α}
    {stopped : Stop → Job ε α} :
    (guarded l a resume stopped).ComesTo stamp world fate store ↔
      (resume (world.answered stamp a).answer).ComesTo stamp (world.answered stamp a).world
        fate store :=
  comesTo_access (a := a)

/-- How often the store was asked before does not matter. -/
theorem ComesTo.served {job : Job ε α} (h : job.ComesTo stamp world fate store) (n : Nat) :
    job.ComesTo stamp { world with served := n } fate store := by
  induction job generalizing world n with
  | done | fail | abort => exact h
  | clock resume ih => exact ih world.now h n
  | access a resume ih => exact comesTo_access.2 (ih _ (comesTo_access.1 h) (n + 1))
  | guarded l a resume stopped ih _ => exact comesTo_guarded.2 (ih _ (comesTo_guarded.1 h) (n + 1))

/-! ## Errands -/

/-- **Is it as if the job had been done at its last turn?** There may be a guard, by which it can be
told to stop. The cases are those of the last turn: there was none, it was served, or the job was
told to stop. -/
inductive AtLast (guarding : Option (Guard ε)) (job : Job ε α) (world : World) :
    List Moment → Fate ε α → Prop where
  | untouched {fate : Fate ε α} (hnow : ∀ stamp world, job.ComesTo stamp world fate world.store) :
      AtLast guarding job world [] fate
  | served (before : List Moment) {a : Access} {stamp : Stamp} {last : World} {fate : Fate ε α}
      (hbefore : ∀ moment ∈ before, moment.KeepsStore) (hextends : world.store.Extends last.store)
      (hlimits : LimitsHold guarding last.now)
      (hlast : job.ComesTo stamp last fate (last.answered stamp a).world.store) :
      AtLast guarding job world (before ++ [.served a stamp last]) fate
  | stopped (before : List Moment) {a : Access} {stop : Stop} {last : World}
      {g : Guard ε} (hbefore : ∀ moment ∈ before, moment.KeepsStore) (hguard : guarding = some g) :
      AtLast guarding job world (before ++ [.stopped a stop last])
        (.returned (.error (g.stopped stop)))

/-- **A job that is over** after its first access. That access is its last turn, and nothing came
before it. -/
theorem AtLast.of_over {a : Access} {resume : Except Failure a.Result → Job ε α} {later : World}
    (hextends : world.store.Extends later.store) (hlimits : LimitsHold guarding later.now)
    (hover : (∃ value, resume (later.answered stamp a).answer = done value) ∨
      ∃ error, resume (later.answered stamp a).answer = fail error)
    (hrest : Course ((resume (later.answered stamp a).answer).under guarding)
      (later.answered stamp a).world moments fate) :
    AtLast guarding (access a resume) world (.served a stamp later :: moments) fate := by
  obtain ⟨value, hdone⟩ | ⟨error, hfail⟩ := hover
  · rw [hdone, under_done] at hrest
    obtain ⟨rfl, rfl⟩ := hrest.of_done
    refine .served [] (List.forall_mem_nil _) hextends hlimits (comesTo_access.2 ?_)
    rw [hdone]
    exact comesTo_done value _ _
  · rw [hfail, under_fail] at hrest
    obtain ⟨rfl, rfl⟩ := hrest.of_fail
    refine .served [] (List.forall_mem_nil _) hextends hlimits (comesTo_access.2 ?_)
    rw [hfail]
    exact comesTo_fail error _ _

/-- **A look-up in front.** What it has settled is found again at the last turn, so that the job
goes on in the same way when it looks it up only then. What it has found besides may have changed,
and the job does not depend on it. -/
theorem AtLast.lookedUp {a : Access} {resume : Except Failure a.Result → Job ε α} {later : World}
    {found : a.Result} (hlookup : a.isLookup = true)
    (hsame : ∀ first second, a.Settles first second → resume (.ok first) = resume (.ok second))
    (hextends : world.store.Extends later.store) (hlimits : LimitsHold guarding later.now)
    (hfound : (later.answered stamp a).answer = .ok found)
    (h : AtLast guarding (resume (.ok found)) (later.answered stamp a).world moments fate) :
    AtLast guarding (access a resume) world (.served a stamp later :: moments) fate := by
  have hread : a.isWrite = false := Access.isWrite_of_isLookup hlookup
  have hkept : (Moment.served a stamp later).KeepsStore := World.answered_of_read hread
  have hstays : (later.answered stamp a).world.store = later.store := hkept
  cases h with
  | untouched hnow =>
    refine .served [] (List.forall_mem_nil _) hextends hlimits (comesTo_access.2 ?_)
    rw [hfound]
    exact hnow stamp _
  | @served before b again last fate hbefore hlater hlimits hlast =>
    rw [hstays] at hlater
    refine .served (.served a stamp later :: before) (List.forall_mem_cons.2 ⟨hkept, hbefore⟩)
      (hextends.trans hlater) hlimits (comesTo_access.2 ?_)
    -- looked up only at the last turn, it is found there and settles the same
    obtain ⟨second, hsecond, hsettles⟩ := hlater.settles hlookup hfound again
    have hanswer : (last.answered again a).answer = .ok second := hsecond
    rw [hanswer, ← hsame found second hsettles, World.answered_world_of_read hread]
    exact hlast.served _
  | @stopped before b stop last g hbefore hguard =>
    exact .stopped (.served a stamp later :: before) (List.forall_mem_cons.2 ⟨hkept, hbefore⟩) hguard

/-- **The course of an errand is as if all had been done at its last turn.** By induction on what is
looked up: a look-up in front of such a course makes another one. -/
theorem RunsErrand.atLast {job : Job ε α} (h : job.RunsErrand final)
    (hcourse : Course (job.under guarding) world moments fate) :
    AtLast guarding job world moments fate := by
  induction h generalizing world moments fate with
  | refused error =>
    rw [under_fail] at hcourse
    obtain ⟨rfl, rfl⟩ := hcourse.of_fail
    exact .untouched (comesTo_fail error)
  | ready h =>
    cases h with
    | @mk a resume _ hok herror =>
      obtain ⟨later, stamp, rest, htime, rfl, hlimits, hrest⟩ |
        ⟨later, stop, g, -, rfl, hguard, rfl⟩ := hcourse.of_access_under
      · refine .of_over htime.extends hlimits ?_ hrest
        cases (later.answered stamp a).answer with
        | ok result => exact .inl (hok result)
        | error failure => exact .inr (herror failure)
      · exact .stopped [] (List.forall_mem_nil _) hguard
  | @looksUp a resume hlookup _ hsame herror ih =>
    obtain ⟨later, stamp, rest, htime, rfl, hlimits, hrest⟩ |
      ⟨later, stop, g, -, rfl, hguard, rfl⟩ := hcourse.of_access_under
    · cases hanswer : (later.answered stamp a).answer with
      | ok found =>
        rw [hanswer] at hrest
        exact .lookedUp hlookup hsame htime.extends hlimits hanswer (ih found hrest)
      | error failure =>
        refine .of_over htime.extends hlimits ?_ hrest
        rw [hanswer]
        exact .inr (herror failure)
    · exact .stopped [] (List.forall_mem_nil _) hguard

/-! ## Requests -/

/-- **A request acts at once.** Under its limits the request has taken this course, and it is as if
all of it had been done at its last turn. If it had no turn at all, it is as if it had been done when
it began. If its last access was served, the whole request, done at once and under the same limits in
the world of that turn, comes to the same result and leaves the same store. If it was told to stop,
the same comes of the request under any limits for which it is then time to stop. No turn before the
last one has changed the store. -/
inductive ActsAtOnce (request : Limits → Job ε α) (limits : Limits) (world : World) :
    List Moment → Fate ε α → Prop where
  | untouched {fate : Fate ε α}
      (hnow : ∀ stamp, (request limits).ComesTo stamp world fate world.store) :
      ActsAtOnce request limits world [] fate
  | served (before : List Moment) {a : Access} {stamp : Stamp} {last : World} {fate : Fate ε α}
      (hbefore : ∀ moment ∈ before, moment.KeepsStore)
      (hlast : (request limits).ComesTo stamp last fate (Moment.served a stamp last).left) :
      ActsAtOnce request limits world (before ++ [.served a stamp last]) fate
  | stopped (before : List Moment) {a : Access} {stop : Stop} {last : World} {fate : Fate ε α}
      (hbefore : ∀ moment ∈ before, moment.KeepsStore)
      (hlast : ∀ spent stamp, spent.stop? last.now = some stop →
        (request spent).ComesTo stamp last fate (Moment.stopped a stop last).left) :
      ActsAtOnce request limits world (before ++ [.stopped a stop last]) fate

/-- What is told of the result does not depend on the limits: it may be put inside or outside of
them. -/
theorem guard_map (job : Job ε α) (tell : α → β) :
    (job.guard limits stopped).bind (fun value => done (tell value)) =
      (job.bind fun value => done (tell value)).guard limits stopped := by
  induction job with
  | done | fail | abort => rfl
  | clock resume ih => exact congrArg clock (funext ih)
  | access a resume ih =>
    exact congrArg (guarded limits a · fun stop => fail (stopped stop)) (funext ih)
  | guarded inner a resume stop ih ihs =>
    simp only [guard, Job.bind]
    exact congr (congrArg (guarded inner a) (funext ih)) (funext ihs)

/-- It is the same where the limits are also looked at in the beginning. -/
theorem within_map (job : Job ε α) (tell : α → β) :
    (job.within limits stopped).bind (fun value => done (tell value)) =
      (job.bind fun value => done (tell value)).within limits stopped := by
  refine congrArg clock (funext fun now => ?_)
  dsimp only
  cases limits.stop? now with
  | some stop => rfl
  | none => exact guard_map job tell

/-- Where it is time to stop, a job within limits does not begin. -/
theorem comesTo_within_of_some {job : Job ε α} {stop : Stop}
    (hstop : limits.stop? world.now = some stop) (stamp : Stamp) :
    (job.within limits stopped).ComesTo stamp world (.returned (.error (stopped stop)))
      world.store := by
  rw [ComesTo, exec_within_of_some hstop]
  exact ⟨rfl, rfl⟩

/-- Where it is not, it comes to what it would come to without limits. -/
theorem comesTo_within_of_none {job : Job ε α} (hlimits : limits.stop? world.now = none)
    (h : job.ComesTo stamp world fate store) :
    (job.within limits stopped).ComesTo stamp world fate store := by
  rw [ComesTo, exec_within_of_none hlimits]
  exact h

/-- **An errand within limits acts at once**, and so it does when its result is told afterwards. Of
an errand that is told to stop it is said what would come of it then, under limits that are used up.
-/
theorem actsAtOnce_within {job : Limits → Job ε α} {tell : α → β} {fate : Fate ε β}
    (h : ∀ limits, (job limits).RunsErrand final)
    (hcourse : Course (((job limits).within limits stopped).bind fun value => done (tell value))
      world moments fate) :
    ActsAtOnce (fun limits => ((job limits).within limits stopped).bind fun value =>
      done (tell value)) limits world moments fate := by
  simp only [within_map] at hcourse ⊢
  obtain ⟨stop, hstop, rfl, rfl⟩ | ⟨hlimits, hcourse⟩ := hcourse.of_within
  · exact .untouched (comesTo_within_of_some hstop)
  · cases ((h limits).map tell).atLast hcourse with
    | untouched hnow =>
      exact .untouched fun stamp => comesTo_within_of_none hlimits (hnow stamp world)
    | served before hbefore _ hopen hlast =>
      exact .served before hbefore (comesTo_within_of_none (hopen _ rfl) hlast)
    | stopped before hbefore hguard =>
      obtain rfl := Option.some.inj hguard
      exact .stopped before hbefore fun spent stamp hspent => comesTo_within_of_some hspent stamp

/-- A request that is refused from the beginning. -/
theorem actsAtOnce_fail {error : ε} (limits : Limits)
    (hcourse : Course (fail error : Job ε α) world moments fate) :
    ActsAtOnce (fun _ => fail error) limits world moments fate := by
  obtain ⟨rfl, rfl⟩ := hcourse.of_fail
  exact .untouched fun stamp => comesTo_fail error stamp world

/-- **An errand without limits acts at once.** -/
theorem RunsErrand.actsAtOnce {job : Job ε α} (h : job.RunsErrand final) (limits : Limits)
    (hcourse : Course job world moments fate) :
    ActsAtOnce (fun _ => job) limits world moments fate := by
  have hatLast : AtLast none job world moments fate := h.atLast hcourse
  cases hatLast with
  | untouched hnow => exact .untouched fun stamp => hnow stamp world
  | served before hbefore _ _ hlast => exact .served before hbefore hlast
  | stopped _ _ hguard => cases hguard

end Planroom.Job
