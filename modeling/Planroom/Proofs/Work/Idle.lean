import Planroom.Proofs.Work.Interleaving
import Planroom.Work.Run

/-!
# Work with nothing to do

A job that is told to stop before it has begun asks for nothing. It is over in its first turn, and
leaves the world as it is; so it does not matter what is done beside it, or before or after it.

* **At a time** — `Job.atTime`: what a job goes on as when it reads the clock at this time. That is all
  there is to a job which has to stop (`atTime_within`).
* **One turn** — `Turn.EndsIn`: work that is over in its first turn and leaves the state that it found;
  `Job.OverAt`: a job of which this holds because nothing is left of it but its end.
* **Side by side** — `SideBySide.idle`: such work is done in whatever order, and nothing comes of it but
  what comes of each piece alone.
-/

namespace Planroom

variable {σ α β ε ε' : Type}

/-! ## At a time -/

namespace Limits

/-- A limit is not lifted when another one is set: what had to stop still has to, and for the same
reason. -/
theorem stop?_withDeadline {limits : Limits} {now : Instant} {stop : Stop}
    (h : limits.stop? now = some stop) (deadline : Instant) :
    (limits.withDeadline deadline).stop? now = some stop := by
  obtain ⟨canceled, current⟩ := limits
  rw [withDeadline, stop?]
  rw [stop?] at h
  cases canceled with
  | true => exact h
  | false =>
    cases current with
    | none => cases h
    | some current =>
      simp only [Bool.false_eq_true, if_false] at h ⊢
      split at h
      · next hpassed => rwa [if_pos (Nat.le_trans (Nat.min_le_left current deadline) hpassed)]
      · cases h

end Limits

/-- A narrower context has to stop when the wider one has to. -/
theorem Context.stop?_withTimeout {context narrowed : Context} {now : Instant} {span : Span}
    {stop : Stop} (h : context.limits.stop? now = some stop)
    (hnarrowed : context.withTimeout? now span = some narrowed) :
    narrowed.limits.stop? now = some stop := by
  obtain ⟨limits, hlimits, rfl⟩ := Option.map_eq_some_iff.1 hnarrowed
  obtain ⟨deadline, -, rfl⟩ := Option.map_eq_some_iff.1 hlimits
  exact Limits.stop?_withDeadline h deadline

namespace Job

/-- **The job at a time**: what it goes on as after it has read the clock, once or several times. In
between no time passes. -/
def atTime (now : Instant) : Job ε α → Job ε α
  | clock resume => (resume now).atTime now
  | job => job

variable {now : Instant} {job : Job ε α} {limits : Limits} {stopped : Stop → ε} {stop : Stop}
  {world : World}

/-- What is over does not read the clock. -/
@[simp] theorem atTime_done (value : α) : (done value : Job ε α).atTime now = done value := rfl

@[simp] theorem atTime_fail (error : ε) : (fail error : Job ε α).atTime now = fail error := rfl

@[simp] theorem atTime_abort (reason : Abort) :
    (abort reason : Job ε α).atTime now = abort reason := rfl

/-- It does not matter when the clock is read, if it is read at that time. -/
theorem start_atTime (job : Job ε α) (services : Services) (world : World) :
    (job.atTime world.now).start services world = job.start services world := by
  induction job with
  | clock resume ih => exact ih world.now
  | _ => rfl

/-- The second of two jobs reads the clock at the same time, if the first one is over by then. -/
theorem atTime_bind (job : Job ε α) (f : α → Job ε β) :
    (job.bind f).atTime now = ((job.atTime now).bind f).atTime now := by
  induction job with
  | clock resume ih => exact ih now
  | _ => rfl

/-- It is the same whether a job is attempted or done. -/
theorem atTime_attempt (job : Job ε α) :
    (job.attempt : Job ε' (Except ε α)).atTime now = (job.atTime now).attempt := by
  induction job with
  | clock resume ih => exact ih now
  | _ => rfl

/-- **A job that has to stop** does nothing else, whatever it was going to do. -/
theorem atTime_within (hstop : limits.stop? now = some stop) (job : Job ε α) :
    (job.within limits stopped).atTime now = fail (stopped stop) := by
  rw [within, atTime, hstop]
  rfl

/-- Nothing comes after it. -/
theorem atTime_within_bind (hstop : limits.stop? now = some stop) (job : Job ε α)
    (f : α → Job ε β) : ((job.within limits stopped).bind f).atTime now = fail (stopped stop) := by
  rw [atTime_bind, atTime_within hstop]
  rfl

/-- What comes after it when it may fail is told of the stop, and goes on. -/
theorem atTime_attempt_within_bind (hstop : limits.stop? now = some stop) (job : Job ε α)
    (f : Except ε α → Job ε' β) :
    ((job.within limits stopped).attempt.bind f).atTime now =
      (f (.error (stopped stop))).atTime now := by
  rw [atTime_bind, atTime_attempt, atTime_within hstop]
  rfl

end Job

/-! ## One turn -/

/-- **Is the work over in its first turn**, with this value, and is the state what it was? It may
have logged something. -/
def Turn.EndsIn (turn : Turn σ α) (state : σ) (value : α) : Prop :=
  ∃ events, turn = .done state events value

namespace Turn.EndsIn

variable {turn : Turn σ α} {state : σ} {value : α}

/-- More may be logged in front. -/
protected theorem log (h : turn.EndsIn state value) (before : List Audit.Event) :
    (turn.log before).EndsIn state value := by
  obtain ⟨events, rfl⟩ := h
  exact ⟨before ++ events, rfl⟩

/-- The value may be told in another way. -/
protected theorem map (h : turn.EndsIn state value) (f : α → β) :
    (turn.map f).EndsIn state (f value) := by
  obtain ⟨events, rfl⟩ := h
  exact ⟨events, rfl⟩

/-- And something may be made of it at the end. -/
protected theorem conclude (h : turn.EndsIn state value) (close : σ → α → List Audit.Event × β) :
    (turn.conclude close).EndsIn state (close state value).2 := by
  obtain ⟨events, rfl⟩ := h
  exact ⟨events ++ (close state value).1, rfl⟩

/-- Such work, done alone, has this value. -/
theorem finish_value (h : turn.EndsIn state value) : turn.finish.value = value := by
  obtain ⟨events, rfl⟩ := h
  rfl

/-- And it leaves the state as it is. -/
theorem finish_state (h : turn.EndsIn state value) : turn.finish.state = state := by
  obtain ⟨events, rfl⟩ := h
  rfl

end Turn.EndsIn

namespace Job

variable {job : Job ε α} {world : World}

/-- **Is nothing left of a job at this time but its end?** It asks for nothing, and does not wait.
-/
inductive OverAt (now : Instant) (job : Job ε α) : Fate ε α → Prop where
  | done {value : α} (h : job.atTime now = done value) : OverAt now job (.returned (.ok value))
  | fail {error : ε} (h : job.atTime now = fail error) : OverAt now job (.returned (.error error))
  | abort {reason : Abort} (h : job.atTime now = abort reason) : OverAt now job (.aborted reason)

namespace OverAt

variable {fate : Fate ε α}

/-- **Such a job** is over in its first turn, whoever would serve its accesses. -/
theorem endsIn (h : job.OverAt world.now fate) (services : Services) :
    (job.start services world).EndsIn world fate := by
  rw [← start_atTime]
  cases h with
  | done h | fail h | abort h =>
    rw [h]
    exact ⟨[], rfl⟩

/-- Such a job does not hang. -/
theorem not_hung {now : Instant} (h : job.OverAt now fate) : fate ≠ .hung := by
  cases h <;> exact nofun

end OverAt

end Job

/-! ## Side by side -/

/-- **Is the strand over** after a turn in this state, if it has not been before? It leaves the
state, so that the next strand finds the same. -/
def Strand.IdleIn (state : σ) : Strand σ α → Prop
  | ready next => ∃ value, (next state).EndsIn state value
  | ended _ => True

/-- A strand that is taken through one state again and again has had one turn, and came to what comes
of it there. -/
theorem Strand.value_of_endsIn {next : σ → Turn σ α} {state : σ} {value found : α}
    (h : (next state).EndsIn state value) {states : List σ} (hstates : ∀ other ∈ states, other = state)
    (hthrough : (ready next).through states = some (ended found)) : found = value := by
  cases states with
  | nil => cases hthrough
  | cons first rest =>
    obtain rfl := hstates first List.mem_cons_self
    obtain ⟨events, hdone⟩ := h
    change (next first).left.through rest = some (ended found) at hthrough
    rw [hdone] at hthrough
    cases rest with
    | nil =>
      cases hthrough
      rfl
    | cons => cases hthrough

/-- **Side by side** such strands leave the state as it is, in every turn. By induction on the
turns, each of which begins where the first one began. -/
theorem SideBySide.idle {strands after : List (Strand σ α)} {start final : σ}
    {trace : List (TurnTaken σ)} (h : SideBySide strands start trace after final)
    (hidle : ∀ strand ∈ strands, strand.IdleIn start) :
    final = start ∧ ∀ turn ∈ trace, turn.state = start := by
  induction h with
  | rest strands state => exact ⟨rfl, List.forall_mem_nil _⟩
  | @turn strands after state final trace i next hready _ ih =>
    obtain ⟨value, events, hdone⟩ := hidle _ (List.mem_of_getElem? hready)
    rw [hdone] at ih
    obtain ⟨hfinal, htrace⟩ := ih fun strand hmem => by
      rcases List.mem_or_eq_of_mem_set hmem with hmem | rfl
      · exact hidle strand hmem
      · exact trivial
    exact ⟨hfinal, List.forall_mem_cons.2 ⟨rfl, htrace⟩⟩

end Planroom
