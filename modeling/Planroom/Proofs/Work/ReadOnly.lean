import Planroom.Proofs.Work.Errand

/-!
# Work that only reads

Whether work can change the store is seen from what it may ask for, and not from what it happens to
be answered. Work that asks for no write leaves the store as it finds it, in each of its turns and
whatever others do between them.

* **Jobs** — `Job.OnlyReads`: none of the accesses that a job may ever come to is a write. Whatever
  jobs are put together with preserves this, and an errand has it when its last access is a read.
* **Turns** — `Turn.Keeps`: each turn leaves a view of the state as it finds it; by
  `Job.OnlyReads.keeps` the turns of such a job keep the store.
-/

namespace Planroom

/-! ## Jobs -/

namespace Job

variable {ε ε' α β : Type}

/-- **A job that only reads**, whatever it is answered. It is read off the job without running it.
-/
def OnlyReads : Job ε α → Prop
  | done _ | fail _ | abort _ => True
  | clock resume => ∀ now, (resume now).OnlyReads
  | access a resume => a.isWrite = false ∧ ∀ answer, (resume answer).OnlyReads
  | guarded _ a resume stopped =>
    a.isWrite = false ∧ (∀ answer, (resume answer).OnlyReads) ∧ ∀ stop, (stopped stop).OnlyReads

/-- A job that is over reads nothing. -/
theorem onlyReads_ofExcept (result : Except ε α) : (ofExcept result).OnlyReads := by
  cases result <;> exact trivial

/-- To ask for a read is to read. -/
theorem onlyReads_ask {a : Access} (h : a.isWrite = false) : (ask a).OnlyReads :=
  ⟨h, onlyReads_ofExcept⟩

/-- To set a limit only looks at the clock. -/
theorem onlyReads_limited (context : Context) (span : Span) :
    (limited context span : Job ε Context).OnlyReads := by
  intro now
  dsimp only
  cases context.withTimeout? now span <;> exact trivial

namespace OnlyReads

variable {job : Job ε α} (h : job.OnlyReads)

include h

/-- One job may follow another. -/
protected theorem bind {f : α → Job ε β} (hnext : ∀ value, (f value).OnlyReads) :
    (job.bind f).OnlyReads := by
  induction job with
  | done value => exact hnext value
  | fail | abort => exact trivial
  | clock resume ih => exact fun now => ih now (h now)
  | access a resume ih => exact ⟨h.1, fun answer => ih answer (h.2 answer)⟩
  | guarded limits a resume stopped ih ihs =>
    exact ⟨h.1, fun answer => ih answer (h.2.1 answer), fun stop => ihs stop (h.2.2 stop)⟩

/-- A job may be attempted. -/
theorem attempt : (job.attempt : Job ε' (Except ε α)).OnlyReads := by
  induction job with
  | done | fail | abort => exact trivial
  | clock resume ih => exact fun now => ih now (h now)
  | access a resume ih => exact ⟨h.1, fun answer => ih answer (h.2 answer)⟩
  | guarded limits a resume stopped ih ihs =>
    exact ⟨h.1, fun answer => ih answer (h.2.1 answer), fun stop => ihs stop (h.2.2 stop)⟩

/-- Errors may be put in other words. -/
theorem mapError (f : ε → ε') : (job.mapError f).OnlyReads := by
  induction job with
  | done | fail | abort => exact trivial
  | clock resume ih => exact fun now => ih now (h now)
  | access a resume ih => exact ⟨h.1, fun answer => ih answer (h.2 answer)⟩
  | guarded limits a resume stopped ih ihs =>
    exact ⟨h.1, fun answer => ih answer (h.2.1 answer), fun stop => ihs stop (h.2.2 stop)⟩

/-- A job may be guarded. -/
theorem guard (limits : Limits) (stopped : Stop → ε) : (job.guard limits stopped).OnlyReads := by
  induction job with
  | done | fail | abort => exact trivial
  | clock resume ih => exact fun now => ih now (h now)
  | access a resume ih => exact ⟨h.1, fun answer => ih answer (h.2 answer), fun _ => trivial⟩
  | guarded inner a resume stop ih ihs =>
    exact ⟨h.1, fun answer => ih answer (h.2.1 answer), fun s => ihs s (h.2.2 s)⟩

/-- And limits may be looked at before it begins. -/
theorem within (limits : Limits) (stopped : Stop → ε) : (job.within limits stopped).OnlyReads := by
  intro now
  dsimp only
  cases limits.stop? now with
  | some stop => exact trivial
  | none => exact h.guard limits stopped

end OnlyReads

/-- **A job that only reads** never comes to ask for a write. The two are read off the job in the
same way. -/
theorem OnlyReads.of_mayAsk {job : Job ε α} (h : job.OnlyReads) {wanted : Access}
    (hasked : job.MayAsk wanted) : wanted.isWrite = false := by
  induction job with
  | done | fail | abort => exact hasked.elim
  | clock resume ih =>
    obtain ⟨now, hasked⟩ := hasked
    exact ih now (h now) hasked
  | access a resume ih =>
    obtain rfl | ⟨answer, hasked⟩ := hasked
    · exact h.1
    · exact ih answer (h.2 answer) hasked
  | guarded limits a resume stopped ih ihs =>
    obtain rfl | ⟨answer, hasked⟩ | ⟨stop, hasked⟩ := hasked
    · exact h.1
    · exact ih answer (h.2.1 answer) hasked
    · exact ihs stop (h.2.2 stop) hasked

/-- **An errand whose last access is a read** only reads: it only looked things up before. -/
theorem RunsErrand.onlyReads {final : Access → Prop} {job : Job ε α} (h : job.RunsErrand final)
    (hreads : ∀ access, final access → access.isWrite = false) : job.OnlyReads := by
  refine h.rec_access (fun _ => trivial) (fun _ => trivial) ?_
  rintro a resume (hlookup | hfinal) hrest
  · exact ⟨Access.isWrite_of_isLookup hlookup, hrest⟩
  · exact ⟨hreads a hfinal, hrest⟩

end Job

/-! ## Turns -/

variable {σ τ α β : Type} {view : σ → τ}

namespace Turn

/-- **Does each turn leave the view of the state as it finds it?** The first one finds `before`, and
others may do anything to the state between two of them. The view may be the state itself or a part
of it. -/
def Keeps (view : σ → τ) (before : σ) : Turn σ α → Prop
  | done state _ _ => view state = view before
  | wait state _ _ resume => view state = view before ∧ ∀ later, (resume later).Keeps view later

/-- To keep the view is to lead to states that look the same. -/
theorem keeps_iff_leads {before : σ} {turn : Turn σ α} :
    turn.Keeps view before ↔ turn.Leads (fun first second => view second = view first) before := by
  induction turn generalizing before with
  | done => exact Iff.rfl
  | wait state events till resume ih => exact and_congr_right fun _ => forall_congr' fun _ => ih _

/-- What is made of the value at the end does not change the state. -/
theorem Keeps.conclude {before : σ} {turn : Turn σ α} (h : turn.Keeps view before)
    (close : σ → α → List Audit.Event × β) : (turn.conclude close).Keeps view before :=
  keeps_iff_leads.2 ((keeps_iff_leads.1 h).conclude close)

/-- **Done alone**, such work leaves the view as it was. -/
theorem Keeps.finish {before : σ} {turn : Turn σ α} (h : turn.Keeps view before) :
    view turn.finish.state = view before :=
  (keeps_iff_leads.1 h).finish fun hfirst hsecond => hsecond.trans hfirst

end Turn

/-- Where nothing but reads has been asked for, the store is the same. -/
theorem World.Reaches.store_eq {asks : Access → Prop} {world later : World}
    (h : world.Reaches asks later) (hreads : ∀ {access : Access}, asks access →
      access.isWrite = false) : later.store = world.store := by
  obtain ⟨steps, hsteps, hasked⟩ := h
  rw [hsteps]
  clear hsteps
  generalize world.store = store
  induction steps generalizing store with
  | nil => rfl
  | cons step rest ih =>
    obtain ⟨hfirst, hrest⟩ := List.forall_mem_cons.1 hasked
    rw [Store.run_cons, ih hrest]
    exact Store.perform_of_read (hreads hfirst)

/-- **A job that only reads keeps the store**, whoever serves its accesses. -/
theorem Job.OnlyReads.keeps {ε : Type} {job : Job ε α} (h : job.OnlyReads) (services : Services)
    (world : World) : (job.start services world).Keeps World.store world :=
  Turn.keeps_iff_leads.2 <| (job.start_leads services world).imp fun hreaches =>
    hreaches.store_eq fun hasked => h.of_mayAsk hasked

end Planroom
