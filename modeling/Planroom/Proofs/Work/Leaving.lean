import Planroom.Proofs.Work.Same

/-!
# What a job leaves

Of a job that has the store to itself it is told what holds of the value that it returns and of the
store that it leaves. Of a job that fails, or does not come to its end, nothing is told.

* **Leaving** — `Job.Leaves`: the value and the store together, one rule for each thing that jobs are
  put together with.
* **Finding** — `Job.Finds`: the same of jobs that leave the store as they find it, so that the next
  job goes on from the store of the first one.
-/

namespace Planroom.Job

variable {ε α β : Type} {stamp : Nat → Stamp} {store : Store} {job : Job ε α} {f : α → Job ε β}

/-! ## Leaving -/

/-- **What holds of the value of a job**, and of the store that it leaves, if it began with this
one. It is a triple with the store as precondition; nothing is told of the time or of what is
logged. -/
def Leaves (stamp : Nat → Stamp) (store : Store) (post : α → Store → Prop) (job : Job ε α) : Prop :=
  ∀ (world : World) (value : α), world.store = store →
    (job.exec (.ofStore stamp) world).value = .returned (.ok value) →
    post value (job.exec (.ofStore stamp) world).state.store

/-- **What holds of the value of a job** that leaves the store as it is. Look-ups are of this sort.
-/
def Finds (stamp : Nat → Stamp) (store : Store) (gives : α → Prop) (job : Job ε α) : Prop :=
  job.Leaves stamp store fun value after => gives value ∧ after = store

/-- A job that is over leaves its value, and the store as it is. -/
theorem leaves_done {post : α → Store → Prop} {value : α} (h : post value store) :
    (done value : Job ε α).Leaves stamp store post := by
  rintro world again rfl hvalue
  cases hvalue
  exact h

/-- Of a job that fails there is nothing to tell. -/
theorem leaves_fail {post : α → Store → Prop} (error : ε) :
    (fail error : Job ε α).Leaves stamp store post := by
  rintro world value rfl hvalue
  cases hvalue

variable {mid : α → Store → Prop} {post : β → Store → Prop} {gives : α → Prop}

/-- **One job after the other**: the second one begins with the store that the first one leaves. -/
protected theorem Leaves.bind (h : job.Leaves stamp store mid)
    (hnext : ∀ value after, mid value after → (f value).Leaves stamp after post) :
    (job.bind f).Leaves stamp store post := by
  intro world value hworld hvalue
  rw [exec_bind] at hvalue ⊢
  have hfirst := (h world · hworld)
  generalize job.exec (.ofStore stamp) world = first at hfirst hvalue ⊢
  obtain ⟨fate, state, events⟩ := first
  rcases fate with (error | found) | reason | _
  · cases hvalue
  · exact hnext found state.store (hfirst found rfl) state value rfl hvalue
  · cases hvalue
  · cases hvalue

/-- Less may be told of what a job leaves. -/
theorem Leaves.imp {less : α → Store → Prop} (h : job.Leaves stamp store mid)
    (himp : ∀ value after, mid value after → less value after) : job.Leaves stamp store less :=
  fun world value hworld hvalue => himp value _ (h world value hworld hvalue)

/-- **Under limits** a job leaves nothing else. Where they are used up, it fails. -/
theorem Leaves.within (h : job.Leaves stamp store mid) (limits : Limits) (stopped : Stop → ε) :
    (job.within limits stopped).Leaves stamp store mid := by
  intro world value hworld hvalue
  cases hlimits : limits.stop? world.now with
  | some stop =>
    rw [exec_within_of_some hlimits] at hvalue
    cases hvalue
  | none =>
    rw [exec_within_of_none hlimits] at hvalue ⊢
    exact h world value hworld hvalue

/-- **A single access** leaves the store after it, with its answer. Which stamp it is served with
depends on how many accesses there were before. -/
theorem leaves_ask (a : Access) (tell : Failure → ε) :
    ((ask a).mapError tell).Leaves stamp store fun result after =>
      ∃ n, (store.perform (stamp n) a).answer = .ok result ∧ after = store.after ⟨a, stamp n⟩ := by
  rintro world value rfl hvalue
  change ((access a fun answer => (ofExcept answer).mapError tell).exec _ world).value = _ at hvalue
  change ∃ n, _ ∧ ((access a fun answer => (ofExcept answer).mapError tell).exec _ world).state.store = _
  rw [exec_access_eq] at hvalue ⊢
  dsimp only [World.answered, Ended.afterLog] at hvalue ⊢
  cases hanswer : (world.store.perform (stamp world.served) a).answer with
  | error failure =>
    rw [hanswer] at hvalue
    cases hvalue
  | ok result =>
    rw [hanswer] at hvalue
    cases hvalue
    exact ⟨world.served, hanswer, rfl⟩

/-! ## Finding -/

/-- A value that is there is found. -/
theorem finds_done {value : α} (h : gives value) : (done value : Job ε α).Finds stamp store gives :=
  leaves_done ⟨h, rfl⟩

/-- **After a job that leaves the store as it is** the next one begins with the same store. -/
protected theorem Finds.bind (h : job.Finds stamp store gives)
    (hnext : ∀ value, gives value → (f value).Leaves stamp store post) :
    (job.bind f).Leaves stamp store post := by
  refine Leaves.bind h ?_
  rintro value _ ⟨hgives, rfl⟩
  exact hnext value hgives

/-- Less may be told of what is found. -/
theorem Finds.imp {less : α → Prop} (h : job.Finds stamp store gives)
    (himp : ∀ value, gives value → less value) : job.Finds stamp store less :=
  Leaves.imp h fun value _ hvalue => ⟨himp value hvalue.1, hvalue.2⟩

/-- **A single read** gives an answer of the store, which stays as it is. -/
theorem finds_ask {a : Access} (hread : a.isWrite = false) (tell : Failure → ε) :
    ((ask a).mapError tell).Finds stamp store fun result =>
      ∃ n, (store.perform (stamp n) a).answer = .ok result := by
  refine (leaves_ask a tell).imp ?_
  rintro result after ⟨n, hanswer, rfl⟩
  exact ⟨⟨n, hanswer⟩, Store.perform_of_read hread⟩

end Planroom.Job
