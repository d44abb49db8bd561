import Planroom.Proofs.Work.AtOnce

/-!
# What a job gives in a store

While nobody else has a turn, what comes of a job that only reads depends on the store and on nothing
else: not on the time, nor on the stamps, nor on how often the store was asked before.

* **Giving** — `Job.Gives store result`: done at once in any world with this store, the job ends with
  this result and leaves the store as it is. There is one such result at most.
* **Putting together** — a job that is made of two gives what the second one gives after the first
  (`Gives.bind`), or the error of the first (`Gives.bind_error`).
-/

namespace Planroom.Job

variable {ε ε' α β : Type} {job : Job ε α} {f : α → Job ε β} {store : Store} {stamp : Stamp}
  {world : World}

/-! ## One after the other -/

/-- **A job that goes on after another** goes on in the store that the other one leaves. At which
time that is, and how often the store has been asked by then, is left open. -/
theorem ComesTo.bind {value : α} (h : job.ComesTo stamp world (.returned (.ok value)) store) :
    ∃ later : World, later.store = store ∧ ∀ fate left,
      (f value).ComesTo stamp later fate left → (job.bind f).ComesTo stamp world fate left := by
  -- the time and the count of stamps are those that the first job has left, whatever they are
  induction job generalizing world with
  | done other =>
    obtain ⟨hvalue, hstore⟩ := h
    cases hvalue
    exact ⟨world, hstore, fun _ _ hnext => hnext⟩
  | fail error => cases h.1
  | abort reason => cases h.1
  | clock resume ih => exact ih world.now h
  | access a resume ih =>
    obtain ⟨later, hstore, hnext⟩ := ih _ (comesTo_access.1 h)
    exact ⟨later, hstore, fun fate left hlater => comesTo_access.2 (hnext fate left hlater)⟩
  | guarded l a resume stopped ih _ =>
    obtain ⟨later, hstore, hnext⟩ := ih _ (comesTo_guarded.1 h)
    exact ⟨later, hstore, fun fate left hlater => comesTo_guarded.2 (hnext fate left hlater)⟩

/-- **A job that fails** does not go on, and what it has left stays. -/
theorem ComesTo.bind_error {error : ε}
    (h : job.ComesTo stamp world (.returned (.error error)) store) :
    (job.bind f).ComesTo stamp world (.returned (.error error)) store := by
  induction job generalizing world with
  | done value => cases h.1
  | fail other =>
    obtain ⟨herror, hstore⟩ := h
    cases herror
    exact ⟨rfl, hstore⟩
  | abort reason => cases h.1
  | clock resume ih => exact ih world.now h
  | access a resume ih => exact comesTo_access.2 (ih _ (comesTo_access.1 h))
  | guarded l a resume stopped ih _ => exact comesTo_guarded.2 (ih _ (comesTo_guarded.1 h))

/-! ## Giving -/

/-- **What a job gives in a store.** It may only read, for the store is what it was. -/
def Gives (job : Job ε α) (store : Store) (result : Except ε α) : Prop :=
  ∀ (stamp : Stamp) (world : World), world.store = store →
    job.ComesTo stamp world (.returned result) store

/-- **A job gives one result** at most. -/
theorem Gives.unique {first second : Except ε α} (h : job.Gives store first)
    (hsecond : job.Gives store second) : first = second := by
  have hvalue := (h (.nth 0) ⟨store, 0, 0⟩ rfl).1
  rw [(hsecond (.nth 0) ⟨store, 0, 0⟩ rfl).1] at hvalue
  exact (Fate.returned.inj hvalue).symm

/-- A job that is over gives its value. -/
theorem gives_done (value : α) : (done value : Job ε α).Gives store (.ok value) := by
  rintro stamp world rfl
  exact comesTo_done value stamp world

/-- A job that has failed gives its error. -/
theorem gives_fail (error : ε) : (fail error : Job ε α).Gives store (.error error) := by
  rintro stamp world rfl
  exact comesTo_fail error stamp world

/-- A job that is either gives what it is. -/
theorem gives_ofExcept (result : Except ε α) : (ofExcept result).Gives store result := by
  cases result with
  | ok value => exact gives_done value
  | error error => exact gives_fail error

/-- **Reading once** gives what the store answers, if that does not depend on the stamp. -/
theorem gives_ask {a : Access} (hread : a.isWrite = false) {answer : Except Failure a.Result}
    (hanswer : ∀ stamp, (store.perform stamp a).answer = answer) : (ask a).Gives store answer := by
  rintro stamp world rfl
  refine comesTo_access.2 ?_
  have hserved : (world.answered stamp a).answer = answer := hanswer stamp
  have hstore : (world.answered stamp a).world.store = world.store := World.answered_of_read hread
  rw [hserved]
  exact gives_ofExcept answer stamp _ hstore

namespace Gives

variable {result : Except ε β} {value : α} {error : ε}

/-- **One after the other**: the second one meets the same store. -/
protected theorem bind (h : job.Gives store (.ok value)) (hnext : (f value).Gives store result) :
    (job.bind f).Gives store result := by
  intro stamp world hworld
  obtain ⟨later, hlater, hrest⟩ := (h stamp world hworld).bind (f := f)
  exact hrest _ _ (hnext stamp later hlater)

/-- Nothing comes after an error. -/
theorem bind_error (h : job.Gives store (.error error)) :
    (job.bind f).Gives store (.error error) :=
  fun stamp world hworld => (h stamp world hworld).bind_error

/-- **Telling the result in another way.** -/
protected theorem map {given : Except ε α} (h : job.Gives store given) (tell : α → β) :
    (job.bind fun value => done (tell value)).Gives store (given.map tell) := by
  cases given with
  | ok value => exact h.bind (gives_done (tell value))
  | error error => exact h.bind_error

end Gives

end Planroom.Job
