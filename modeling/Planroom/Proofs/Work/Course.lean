import Planroom.Proofs.Store.Transaction
import Planroom.Proofs.Work.Errand
import Planroom.Work.Run

/-!
# The course of a job among others

A job has the store to itself only while an access of its own is answered. Before each of them
others have their turns, as many as they like; and a job that is waiting under limits may be told to
stop instead of being answered.

* **Meanwhile** — `World.Meanwhile`: what others do between two turns of the job.
* **Moments** — the job's own turns: an access is served, or waiting for it is given up.
* **Course** — `Job.Course`: how a job came to its end, moment by moment. Limits are looked at
  whenever it is the job's turn, so that nothing is served once they are used up; but a job that
  waits under limits may be told to stop at any moment, since it may be cancelled at any moment.
* **Errands** — `RunsErrand.course`: an errand that ends with an error has changed nothing, wherever
  it was cut short; one that ends with a value has made its last access, and only looked things up
  before.
* **Cut short** — `RunsErrand.interruptible`: wherever an errand waits, it may be told to stop.
* **Alone** — `RunsErrand.courseAlone`: what comes of an errand that nobody disturbs is one of its
  courses.
-/

namespace Planroom

namespace World

/-- **What others do** between two turns: fresh steps of theirs, while the clock moves on. Nothing
else is supposed of them, and they may have had no turn at all. -/
structure Meanwhile (world later : World) : Prop where
  clock : world.now ≤ later.now
  others : ∃ steps, world.store.FreshRun steps ∧ later.store = world.store.run steps

/-- Nobody else had a turn. -/
theorem Meanwhile.refl (world : World) : world.Meanwhile world :=
  ⟨Nat.le_refl _, [], trivial, rfl⟩

/-- Two times one after the other. -/
theorem Meanwhile.trans {world later last : World} (h : world.Meanwhile later)
    (hlater : later.Meanwhile last) : world.Meanwhile last := by
  obtain ⟨steps, hsteps, hstore⟩ := h.others
  obtain ⟨others, hothers, hlast⟩ := hlater.others
  rw [hstore] at hothers hlast
  rw [← Store.run_append] at hlast
  exact ⟨Nat.le_trans h.clock hlater.clock, steps ++ others, hsteps.append hothers, hlast⟩

/-- What can come about can still come about after others had their turns. -/
theorem Meanwhile.reachable {world later : World} (h : world.Meanwhile later)
    (hstore : Store.Reachable world.store) : Store.Reachable later.store := by
  obtain ⟨steps, hsteps, hlater⟩ := h.others
  rw [hlater]
  exact hstore.run hsteps

/-- The store extends the one from before, as fresh steps do. -/
theorem Meanwhile.extends {world later : World} (h : world.Meanwhile later) :
    world.store.Extends later.store := by
  obtain ⟨steps, hfresh, hstore⟩ := h.others
  rw [hstore]
  exact .of_run hfresh

/-- What comes of an access when the store answers it. That it was served is counted, so that no
stamp is given twice. -/
def answered (world : World) (stamp : Stamp) (access : Access) : Served access :=
  let performed := world.store.perform stamp access
  ⟨performed.answer, { world with store := performed.store, served := world.served + 1 },
    performed.notes.filterMap AnchorNote.event?⟩

/-- Services that leave everything to the store answer each access, with the stamp of its number. -/
theorem serve_ofStore (stamp : Nat → Stamp) (world : World) (access : Access) :
    world.serve (.ofStore stamp) access = some (world.answered (stamp world.served) access) := rfl

/-- An access that fails leaves the store as it is. -/
theorem answered_of_error {world : World} {stamp : Stamp} {access : Access} {failure : Failure}
    (h : (world.answered stamp access).answer = .error failure) :
    (world.answered stamp access).world.store = world.store := by
  change (world.store.perform stamp access).store = world.store
  rw [Store.perform_of_error h]
  rfl

/-- So does one that only reads. -/
theorem answered_of_read {world : World} {stamp : Stamp} {access : Access}
    (h : access.isWrite = false) : (world.answered stamp access).world.store = world.store :=
  Store.perform_of_read h

/-- All that remains of a read is that it was served. -/
theorem answered_world_of_read {world : World} {stamp : Stamp} {access : Access}
    (h : access.isWrite = false) :
    (world.answered stamp access).world = { world with served := world.served + 1 } :=
  congrArg (fun store => ({ world with store := store, served := world.served + 1 } : World))
    (answered_of_read h)

/-- A read in between changes nothing. -/
theorem Meanwhile.answered {world later : World} {access : Access} (h : world.Meanwhile later)
    (hread : access.isWrite = false) (stamp : Stamp) :
    world.Meanwhile (later.answered stamp access).world := by
  rw [answered_world_of_read hread]
  exact ⟨h.clock, h.others⟩

end World

/-- **A turn of a job's own**: in this world its access was served, or it was told to stop waiting.
The world is the one that the others have left. -/
inductive Moment where
  | served (access : Access) (stamp : Stamp) (world : World)
  | stopped (access : Access) (stop : Stop) (world : World)

namespace Moment

/-- The world in which it was the job's turn. -/
def world : Moment → World
  | served _ _ world => world
  | stopped _ _ world => world

/-- The store that the turn leaves. -/
def left : Moment → Store
  | served access stamp world => (world.answered stamp access).world.store
  | stopped _ _ world => world.store

/-- **Does the turn leave the store as it finds it?** To be told to stop does, and so does
everything that fails. -/
def KeepsStore (moment : Moment) : Prop :=
  moment.left = moment.world.store

/-- A job that is told to stop has changed nothing by that. -/
theorem keepsStore_stopped (a : Access) (stop : Stop) (world : World) :
    (stopped a stop world).KeepsStore := rfl

/-- Was an access served that can change the store? -/
def writes : Moment → Bool
  | served access _ _ => access.isWrite
  | stopped .. => false

/-- A turn that only reads leaves the store as it is. -/
theorem keepsStore_of_writes {moment : Moment} (h : moment.writes = false) : moment.KeepsStore := by
  cases moment with
  | served access stamp world => exact World.answered_of_read h
  | stopped access stop world => exact keepsStore_stopped access stop world

/-- Was an access served with success? -/
def succeeds : Moment → Bool
  | served access stamp world => (world.answered stamp access).answer.isOk
  | stopped .. => false

/-- An access that was answered with a value was served with success. -/
theorem succeeds_of_ok {a : Access} {stamp : Stamp} {world : World} {result : a.Result}
    (h : (world.answered stamp a).answer = .ok result) :
    (served a stamp world).succeeds = true := by
  simp only [succeeds, h, Except.isOk, Except.toBool]

end Moment

/-- Did a job end with a value? -/
def Fate.isOk {ε α : Type} : Fate ε α → Bool
  | .returned (.ok _) => true
  | _ => false

/-- A job that ended with a value has one. -/
theorem Fate.exists_of_isOk {ε α : Type} {fate : Fate ε α} (h : fate.isOk = true) :
    ∃ value, fate = .returned (.ok value) := by
  cases fate with
  | returned result =>
    cases result with
    | ok value => exact ⟨value, rfl⟩
    | error error => cases h
  | aborted reason => cases h
  | hung => cases h

/-- An answer of which something is known. -/
theorem exists_answer_of_map {ε α β : Type} {answer : Except ε α} {f : α → β} {b : β}
    (h : answer.toOption.map f = some b) : ∃ a, answer = .ok a ∧ f a = b := by
  cases answer with
  | ok a => exact ⟨a, rfl, Option.some.inj h⟩
  | error failure => cases h

namespace Job

variable {ε α : Type} {final : Access → Prop} {world : World} {moments : List Moment}
  {fate : Fate ε α}

/-- **How a job came to its end**, turn by turn. Where it waits under limits, it is served if they
hold at that time; and it may be told to stop at any time, by whomever it is cancelled. -/
inductive Course : Job ε α → World → List Moment → Fate ε α → Prop where
  | done (value : α) (world : World) : Course (done value) world [] (.returned (.ok value))
  | fail (error : ε) (world : World) : Course (fail error) world [] (.returned (.error error))
  | abort (reason : Abort) (world : World) : Course (abort reason) world [] (.aborted reason)
  | clock {resume : Instant → Job ε α} {world : World} {moments : List Moment} {fate : Fate ε α}
      (hrest : Course (resume world.now) world moments fate) :
      Course (clock resume) world moments fate
  | access {a : Access} {resume : Except Failure a.Result → Job ε α} {world later : World}
      {stamp : Stamp} {moments : List Moment} {fate : Fate ε α} (htime : world.Meanwhile later)
      (hrest : Course (resume (later.answered stamp a).answer) (later.answered stamp a).world
        moments fate) :
      Course (access a resume) world (.served a stamp later :: moments) fate
  | served {limits : Limits} {a : Access} {resume : Except Failure a.Result → Job ε α}
      {stopped : Stop → Job ε α} {world later : World} {stamp : Stamp} {moments : List Moment}
      {fate : Fate ε α} (htime : world.Meanwhile later) (hlimits : limits.stop? later.now = none)
      (hrest : Course (resume (later.answered stamp a).answer) (later.answered stamp a).world
        moments fate) :
      Course (guarded limits a resume stopped) world (.served a stamp later :: moments) fate
  | stopped {limits : Limits} {a : Access} {resume : Except Failure a.Result → Job ε α}
      {stopped : Stop → Job ε α} {world later : World} {moments : List Moment} {fate : Fate ε α}
      (htime : world.Meanwhile later) (stop : Stop)
      (hrest : Course (stopped stop) later moments fate) :
      Course (guarded limits a resume stopped) world (.stopped a stop later :: moments) fate

/-- A job that has failed has no turns. -/
theorem Course.of_fail {error : ε} (h : Course (Job.fail error : Job ε α) world moments fate) :
    moments = [] ∧ fate = .returned (.error error) := by
  cases h
  exact ⟨rfl, rfl⟩

/-- Nor has one that is over. -/
theorem Course.of_done {value : α} (h : Course (Job.done value : Job ε α) world moments fate) :
    moments = [] ∧ fate = .returned (.ok value) := by
  cases h
  exact ⟨rfl, rfl⟩

/-- Nor has one that breaks off. -/
theorem Course.of_abort {reason : Abort} (h : Course (Job.abort reason : Job ε α) world moments fate) :
    moments = [] ∧ fate = .aborted reason := by
  cases h
  exact ⟨rfl, rfl⟩

/-- **What a job meets stays** as long as it only looks things up: the stores of its turns extend
one another, down to that of the last one. Others may have added to them in between. -/
theorem Course.extends {job : Job ε α} (hcourse : Course job world moments fate)
    {lookups : List Moment} {last : Moment} (hmoments : moments = lookups ++ [last])
    (hkept : ∀ moment ∈ lookups, moment.KeepsStore) :
    world.store.Extends last.world.store ∧
      ∀ moment ∈ lookups, moment.world.store.Extends last.world.store := by
  -- what holds from a turn on that is not the last one holds from the world before it
  have hcons {world : World} {moment : Moment} {rest lookups : List Moment}
      (hmoments : moment :: rest = lookups ++ [last]) (htime : world.Meanwhile moment.world)
      (hkept : ∀ moment ∈ lookups, moment.KeepsStore)
      (hrest : ∀ {lookups : List Moment}, rest = lookups ++ [last] →
        (∀ moment ∈ lookups, moment.KeepsStore) →
        moment.left.Extends last.world.store ∧
          ∀ moment ∈ lookups, moment.world.store.Extends last.world.store) :
      world.store.Extends last.world.store ∧
        ∀ moment ∈ lookups, moment.world.store.Extends last.world.store := by
    cases lookups with
    | nil =>
      cases hmoments
      exact ⟨htime.extends, List.forall_mem_nil _⟩
    | cons first others =>
      cases hmoments
      obtain ⟨hfirst, hothers⟩ := List.forall_mem_cons.1 hkept
      obtain ⟨hleft, hlater⟩ := hrest rfl hothers
      rw [hfirst] at hleft
      exact ⟨htime.extends.trans hleft, List.forall_mem_cons.2 ⟨hleft, hlater⟩⟩
  induction hcourse generalizing lookups with
  | done | fail | abort => exact absurd hmoments (by simp)
  | clock _ ih => exact ih hmoments hkept
  | access htime _ ih => exact hcons hmoments htime hkept ih
  | served htime _ _ ih => exact hcons hmoments htime hkept ih
  | stopped htime _ _ ih => exact hcons hmoments htime hkept ih

/-! ## Guarded or not -/

/-- **The limits that are kept**, and what is told when it is time to stop. An error of the job
itself tells it. -/
structure Guard (ε : Type) where
  limits : Limits
  stopped : Stop → ε

/-- **Do the limits hold** at this time, if there are any? -/
def LimitsHold (guarding : Option (Guard ε)) (now : Instant) : Prop :=
  ∀ g ∈ guarding, g.limits.stop? now = none

/-- **The job with a guard, if there is one.** With it, what is shown of errands need not be shown
twice, with limits and without. -/
def under : Option (Guard ε) → Job ε α → Job ε α
  | none, job => job
  | some g, job => job.guard g.limits g.stopped

variable {guarding : Option (Guard ε)} {limits : Limits} {stopped : Stop → ε}

/-- A guard does not touch what is over: this and the next two lemmas say so for the three ways to
be over. -/
@[simp] theorem under_done (value : α) : (done value : Job ε α).under guarding = done value := by
  cases guarding <;> rfl

@[simp] theorem under_abort (reason : Abort) :
    (abort reason : Job ε α).under guarding = abort reason := by
  cases guarding <;> rfl

@[simp] theorem under_fail (error : ε) : (fail error : Job ε α).under guarding = fail error := by
  cases guarding <;> rfl

/-- **The first access of a job.** It is served while the limits hold, or given up. Without limits
it is never given up. -/
theorem Course.of_access_under {a : Access} {resume : Except Failure a.Result → Job ε α}
    (h : Course ((Job.access a resume).under guarding) world moments fate) :
    (∃ later stamp rest, world.Meanwhile later ∧ moments = .served a stamp later :: rest ∧
      LimitsHold guarding later.now ∧
      Course ((resume (later.answered stamp a).answer).under guarding)
        (later.answered stamp a).world rest fate) ∨
    ∃ later stop g, world.Meanwhile later ∧ moments = [.stopped a stop later] ∧
      guarding = some g ∧ fate = .returned (.error (g.stopped stop)) := by
  cases guarding with
  | none =>
    cases h with
    | access htime hrest => exact .inl ⟨_, _, _, htime, rfl, nofun, hrest⟩
  | some g =>
    cases h with
    | served htime hlimits hrest =>
      refine .inl ⟨_, _, _, htime, rfl, ?_, hrest⟩
      rintro _ ⟨⟩
      exact hlimits
    | stopped htime stop hrest =>
      obtain ⟨rfl, rfl⟩ := hrest.of_fail
      exact .inr ⟨_, stop, g, htime, rfl, rfl, rfl⟩

/-- **A job within limits** does not begin, or is under them from then on. They are looked at when
it begins, in the world in which it does. -/
theorem Course.of_within {job : Job ε α}
    (h : Course (job.within limits stopped) world moments fate) :
    (∃ stop, limits.stop? world.now = some stop ∧ moments = [] ∧
      fate = .returned (.error (stopped stop))) ∨
    limits.stop? world.now = none ∧
      Course (job.under (some ⟨limits, stopped⟩)) world moments fate := by
  cases h with
  | clock hrest =>
    cases hstop : limits.stop? world.now with
    | some stop =>
      simp only [hstop] at hrest
      exact .inl ⟨stop, rfl, hrest.of_fail⟩
    | none =>
      simp only [hstop] at hrest
      exact .inr ⟨rfl, hrest⟩

/-! ## Errands -/

/-- **What comes of an errand.** When it fails, each of its turns has left the store as it was. When
it succeeds, its last access was one of those that `final` allows, what came before only read, and
none of its accesses failed. What others have done is no part of it. -/
inductive Outcome (final : Access → Prop) : List Moment → Except ε α → Prop where
  | failed {moments : List Moment} (error : ε) (hkept : ∀ moment ∈ moments, moment.KeepsStore) :
      Outcome final moments (.error error)
  | succeeded (lookups : List Moment) {a : Access} {stamp : Stamp} {world : World} (value : α)
      (hlookups : ∀ moment ∈ lookups, moment.writes = false ∧ moment.succeeds = true)
      (hfinal : final a) (hlast : (Moment.served a stamp world).succeeds = true) :
      Outcome final (lookups ++ [.served a stamp world]) (.ok value)

/-- A turn that leaves the store as it is may come before an errand that fails. -/
theorem Outcome.cons_of_error {moment : Moment} {error : ε}
    (h : Outcome final moments (.error error : Except ε α)) (hkept : moment.KeepsStore) :
    Outcome final (moment :: moments) (.error error : Except ε α) := by
  cases h with
  | failed _ hrest => exact .failed error (List.forall_mem_cons.2 ⟨hkept, hrest⟩)

/-- A look-up may come before any errand, if it succeeds. -/
theorem Outcome.cons_lookup {a : Access} {stamp : Stamp} {result : Except ε α}
    (h : Outcome final moments result) (hread : a.isWrite = false)
    (hsucceeds : (Moment.served a stamp world).succeeds = true) :
    Outcome final (.served a stamp world :: moments) result := by
  cases h with
  | failed error hrest =>
    exact .cons_of_error (.failed error hrest) (World.answered_of_read hread)
  | succeeded lookups value hlookups hfinal hlast =>
    exact .succeeded (.served a stamp world :: lookups) value
      (List.forall_mem_cons.2 ⟨⟨hread, hsucceeds⟩, hlookups⟩) hfinal hlast

/-- Nothing has happened yet. -/
theorem Outcome.refused (error : ε) : Outcome final [] (.error error : Except ε α) :=
  .failed error (List.forall_mem_nil _)

/-- **An access that is refused**, or given up, has changed nothing, and the job is over with an
error. -/
theorem Course.of_refused {job : Job ε α} {a : Access} {later : World} {stamp : Stamp}
    {failure : Failure} (hanswer : (later.answered stamp a).answer = .error failure)
    (hfail : ∃ error, job = Job.fail error)
    (hrest : Course (job.under guarding) world moments fate) :
    ∃ result, fate = .returned result ∧
      Outcome final (.served a stamp later :: moments) result := by
  obtain ⟨error, rfl⟩ := hfail
  rw [under_fail] at hrest
  obtain ⟨rfl, rfl⟩ := hrest.of_fail
  exact ⟨_, rfl, (Outcome.refused error).cons_of_error (World.answered_of_error hanswer)⟩

/-- **The course of an errand** comes to such an outcome, in whatever turns it was served or
stopped. By induction on what is looked up; the errand does not break off and does not hang. -/
theorem RunsErrand.course {job : Job ε α} (h : job.RunsErrand final)
    (hcourse : Course (job.under guarding) world moments fate) :
    ∃ result, fate = .returned result ∧ Outcome final moments result := by
  induction h generalizing world moments fate with
  | refused error =>
    rw [under_fail] at hcourse
    obtain ⟨rfl, rfl⟩ := hcourse.of_fail
    exact ⟨_, rfl, .refused error⟩
  | ready h =>
    cases h with
    | @mk a resume hfinal hok herror =>
      obtain ⟨later, stamp, rest, -, rfl, -, hrest⟩ | ⟨later, stop, g, -, rfl, -, rfl⟩ :=
        hcourse.of_access_under
      · cases hanswer : (later.answered stamp a).answer with
        | error failure =>
          rw [hanswer] at hrest
          exact hrest.of_refused hanswer (herror failure)
        | ok result =>
          -- nothing can go wrong any more once the last access has succeeded
          obtain ⟨value, hdone⟩ := hok result
          rw [hanswer, hdone, under_done] at hrest
          obtain ⟨rfl, rfl⟩ := hrest.of_done
          exact ⟨_, rfl, .succeeded [] value (List.forall_mem_nil _) hfinal
            (Moment.succeeds_of_ok hanswer)⟩
      · exact ⟨_, rfl, (Outcome.refused _).cons_of_error (Moment.keepsStore_stopped a stop later)⟩
  | @looksUp a resume hlookup _ _ herror ih =>
    obtain ⟨later, stamp, rest, -, rfl, -, hrest⟩ | ⟨later, stop, g, -, rfl, -, rfl⟩ :=
      hcourse.of_access_under
    · cases hanswer : (later.answered stamp a).answer with
      | error failure =>
        rw [hanswer] at hrest
        exact hrest.of_refused hanswer (herror failure)
      | ok found =>
        rw [hanswer] at hrest
        obtain ⟨result, rfl, houtcome⟩ := ih found hrest
        exact ⟨result, rfl, houtcome.cons_lookup (Access.isWrite_of_isLookup hlookup)
          (Moment.succeeds_of_ok hanswer)⟩
    · exact ⟨_, rfl, (Outcome.refused _).cons_of_error (Moment.keepsStore_stopped a stop later)⟩

/-- The same within limits. -/
theorem RunsErrand.course_within {job : Job ε α} (h : job.RunsErrand final)
    (hcourse : Course (job.within limits stopped) world moments fate) :
    ∃ result, fate = .returned result ∧ Outcome final moments result := by
  obtain ⟨stop, -, rfl, rfl⟩ | ⟨-, hcourse⟩ := hcourse.of_within
  · exact ⟨_, rfl, .refused _⟩
  · exact h.course hcourse

/-! ## Cut short -/

/-- **Can the job be cut short** in place of any of its turns under limits? Instead of being served
it is told to stop, and then it ends with the error for this. -/
def Interruptible (stopped : Stop → ε) (limits : Limits) (job : Job ε α) : Prop :=
  ∀ {world later : World} {before after : List Moment} {fate : Fate ε α} {a : Access}
    {stamp : Stamp},
    Course (job.under (some ⟨limits, stopped⟩)) world (before ++ .served a stamp later :: after)
      fate →
    ∀ stop, Course (job.under (some ⟨limits, stopped⟩)) world (before ++ [.stopped a stop later])
      (.returned (.error (stopped stop)))

/-- A job that is over has no turn in which it could be. -/
theorem interruptible_done (value : α) :
    (done value : Job ε α).Interruptible stopped limits := by
  intro world later before after fate a stamp hcourse
  exact absurd hcourse.of_done.1 (by simp)

/-- Neither has one that has failed. -/
theorem interruptible_fail (error : ε) :
    (fail error : Job ε α).Interruptible stopped limits := by
  intro world later before after fate a stamp hcourse
  exact absurd hcourse.of_fail.1 (by simp)

/-- One that asks first can be cut short then, or later if the rest of it can. -/
theorem interruptible_access {a : Access} {resume : Except Failure a.Result → Job ε α}
    (hrest : ∀ answer, (resume answer).Interruptible stopped limits) :
    (access a resume).Interruptible stopped limits := by
  intro world later before after fate b stamp hcourse stop
  cases before with
  | nil =>
    cases hcourse with
    | served htime hlimits _ => exact .stopped htime stop (.fail _ later)
  | cons first before =>
    cases hcourse with
    | served htime hlimits hcourse => exact .served htime hlimits (hrest _ hcourse stop)
    | stopped htime _ hcourse => exact absurd hcourse.of_fail.1 (by simp)

/-- **An errand can be cut short** wherever it waits, even for its last access. -/
theorem RunsErrand.interruptible {job : Job ε α} (h : job.RunsErrand final) :
    job.Interruptible stopped limits :=
  h.rec_access interruptible_done interruptible_fail fun _ => interruptible_access

/-- The same within limits. -/
theorem RunsErrand.interruptible_within {job : Job ε α} (h : job.RunsErrand final)
    {before after : List Moment} {a : Access} {stamp : Stamp} {later : World}
    (hcourse : Course (job.within limits stopped) world (before ++ .served a stamp later :: after)
      fate) (stop : Stop) :
    Course (job.within limits stopped) world (before ++ [.stopped a stop later])
      (.returned (.error (stopped stop))) := by
  obtain ⟨_, -, hmoments, -⟩ | ⟨hlimits, hcourse⟩ := hcourse.of_within
  · exact absurd hmoments (by simp)
  · refine .clock ?_
    rw [hlimits]
    exact h.interruptible hcourse stop

/-! ## Alone -/

variable {stamp : Nat → Stamp}

/-- Where the store serves every access, limits do not matter any more. They would only end a
waiting. -/
theorem start_guard (job : Job ε α) (limits : Limits) (stopped : Stop → ε) (world : World) :
    (job.guard limits stopped).start (.ofStore stamp) world = job.start (.ofStore stamp) world := by
  induction job generalizing world with
  | done | fail | abort => rfl
  | clock resume ih => exact ih world.now world
  | access a resume ih =>
    exact congrArg (Turn.log (world.answered (stamp world.served) a).events) (ih _ _)
  | guarded inner a resume stop ih _ =>
    exact congrArg (Turn.log (world.answered (stamp world.served) a).events) (ih _ _)

/-- Where it is time to stop, a job within limits is over before it has begun. -/
theorem exec_within_of_some {job : Job ε α} {stop : Stop}
    (hstop : limits.stop? world.now = some stop) :
    (job.within limits stopped).exec (.ofStore stamp) world =
      ⟨.returned (.error (stopped stop)), world, []⟩ := by
  simp only [within, exec, start, hstop, Turn.finish_done]

/-- Where it is not, it is done as without limits. -/
theorem exec_within_of_none {job : Job ε α} (hlimits : limits.stop? world.now = none) :
    (job.within limits stopped).exec (.ofStore stamp) world = job.exec (.ofStore stamp) world := by
  simp only [within, exec, start, hlimits, start_guard]

/-- One access after the other. -/
theorem exec_access (a : Access) (resume : Except Failure a.Result → Job ε α) (world : World) :
    (Job.access a resume).exec (.ofStore stamp) world =
      let served := world.answered (stamp world.served) a
      let rest := (resume served.answer).exec (.ofStore stamp) served.world
      ⟨rest.value, rest.state, served.events ++ rest.events⟩ := by
  simp only [exec, start, World.serve_ofStore, Turn.finish_log]

/-- **Does a job that is left alone follow one of its courses?** -/
def CourseAlone (guarding : Option (Guard ε)) (stamp : Nat → Stamp) (job : Job ε α)
    (world : World) : Prop :=
  ∃ moments, Course (job.under guarding) world moments (job.exec (.ofStore stamp) world).value

/-- A job that is over follows its only course. -/
theorem courseAlone_done (value : α) : (done value : Job ε α).CourseAlone guarding stamp world :=
  ⟨[], by rw [under_done]; exact .done value world⟩

/-- So does one that has failed. -/
theorem courseAlone_fail (error : ε) : (fail error : Job ε α).CourseAlone guarding stamp world :=
  ⟨[], by rw [under_fail]; exact .fail error world⟩

/-- The first access is served at once. -/
theorem CourseAlone.access {a : Access} {resume : Except Failure a.Result → Job ε α}
    (hlimits : LimitsHold guarding world.now)
    (hrest : (resume (world.answered (stamp world.served) a).answer).CourseAlone guarding stamp
      (world.answered (stamp world.served) a).world) :
    (Job.access a resume).CourseAlone guarding stamp world := by
  obtain ⟨moments, hcourse⟩ := hrest
  refine ⟨.served a (stamp world.served) world :: moments, ?_⟩
  rw [exec_access]
  cases guarding with
  | none => exact .access (.refl world) hcourse
  | some g => exact .served (.refl world) (hlimits g rfl) hcourse

/-- **An errand alone.** What comes of it while nobody else has a turn is one of its courses. So
courses are no invention: the program takes them. -/
theorem RunsErrand.courseAlone {job : Job ε α} (h : job.RunsErrand final)
    (hlimits : LimitsHold guarding world.now) :
    job.CourseAlone guarding stamp world := by
  refine h.rec_access (Q := fun job => ∀ world : World, LimitsHold guarding world.now →
    job.CourseAlone guarding stamp world) ?_ ?_ ?_ world hlimits
  · exact fun value _ _ => courseAlone_done value
  · exact fun error _ _ => courseAlone_fail error
  · exact fun _ hrest world hlimits => .access hlimits (hrest _ _ hlimits)

/-- The same within limits. -/
theorem RunsErrand.courseAlone_within {job : Job ε α} (h : job.RunsErrand final) (limits : Limits) :
    ∃ moments, Course (job.within limits stopped) world moments
      ((job.within limits stopped).exec (.ofStore stamp) world).value := by
  cases hlimits : limits.stop? world.now with
  | some stop =>
    refine ⟨[], .clock ?_⟩
    rw [exec_within_of_some hlimits, hlimits]
    exact .fail _ world
  | none =>
    obtain ⟨moments, hcourse⟩ : job.CourseAlone (some ⟨limits, stopped⟩) stamp world :=
      h.courseAlone fun g hg => Option.some.inj hg ▸ hlimits
    refine ⟨moments, .clock ?_⟩
    rw [exec_within_of_none hlimits, hlimits]
    exact hcourse

end Job

end Planroom
