import Planroom.Proofs.Store.Run
import Planroom.Proofs.Work.Interleaving
import Planroom.Proofs.Work.Serving

/-!
# What work asks for

A job changes the store by asking for accesses, and in no other way. Which accesses it may come to ask
for is seen from the job alone, and what becomes of the store while the job has its turns is a run of
some of them.

* **Asking** — `Job.MayAsk`: the accesses that a job may come to ask for, whatever it is answered.
* **Turns** — `Turn.Leads`: each turn of a piece of work leads from the state that it finds to one that
  is related to it. Others may do anything to the state between two turns.
* **Stores** — `World.Reaches`: the store has been asked for accesses of one sort alone.
  `Job.start_leads`: so it is from the beginning of each turn of a job to its end, where the sort is
  that of the accesses for which the job may ask.
* **Side by side** — `SideBySide.leads`: pieces of work that all lead from one state to a related one
  do so together, in whatever order they have their turns.
-/

namespace Planroom

variable {σ α β ε : Type}

/-- **May a job come to ask for this access**, whatever it is answered? It is read off the job
without running it, and it is therefore more than what is asked for in any one run. -/
def Job.MayAsk (wanted : Access) : Job ε α → Prop
  | done _ | fail _ | abort _ => False
  | clock resume => ∃ now, (resume now).MayAsk wanted
  | access a resume => a = wanted ∨ ∃ answer, (resume answer).MayAsk wanted
  | guarded _ a resume stopped =>
    a = wanted ∨ (∃ answer, (resume answer).MayAsk wanted) ∨ ∃ stop, (stopped stop).MayAsk wanted

/-! ## Turns -/

namespace Turn

/-- **Does each turn lead to a state that is related to the one that it finds?** The first one finds
`before`, and others may do anything to the state between two of them. Nothing is supposed of the
others. -/
def Leads (R : σ → σ → Prop) (before : σ) : Turn σ α → Prop
  | done state _ _ => R before state
  | wait state _ _ resume => R before state ∧ ∀ later, (resume later).Leads R later

variable {R S : σ → σ → Prop} {before : σ} {turn : Turn σ α}

/-- What is logged leads nowhere. -/
@[simp] theorem leads_log (events : List Audit.Event) (turn : Turn σ α) :
    (turn.log events).Leads R before ↔ turn.Leads R before := by
  cases turn <;> exact Iff.rfl

/-- The first turn leads to a related state. -/
theorem Leads.state (h : turn.Leads R before) : R before turn.state := by
  cases turn with
  | done => exact h
  | wait => exact h.1

/-- Less may be said of how the states are related. -/
theorem Leads.imp (h : turn.Leads R before) (himp : ∀ {first second : σ}, R first second →
    S first second) : turn.Leads S before := by
  induction turn generalizing before with
  | done => exact himp h
  | wait state events till resume ih => exact ⟨himp h.1, fun later => ih later (h.2 later)⟩

/-- What is made of the value at the end does not change the state. -/
theorem Leads.conclude (h : turn.Leads R before) (close : σ → α → List Audit.Event × β) :
    (turn.conclude close).Leads R before := by
  induction turn generalizing before with
  | done => exact h
  | wait state events till resume ih => exact ⟨h.1, fun later => ih later (h.2 later)⟩

/-- Nor does it, if only the value is told in another way. -/
theorem Leads.map (h : turn.Leads R before) (f : α → β) : (turn.map f).Leads R before := by
  induction turn generalizing before with
  | done => exact h
  | wait state events till resume ih => exact ⟨h.1, fun later => ih later (h.2 later)⟩

section

variable (htrans : ∀ {first second third : σ}, R first second → R second third → R first third)

include htrans

/-- Something related may come before. -/
theorem Leads.after {between : σ} (h : turn.Leads R between) (hbefore : R before between) :
    turn.Leads R before := by
  cases turn with
  | done => exact htrans hbefore h
  | wait => exact ⟨htrans hbefore h.1, h.2⟩

/-- **Done alone**, such work leads to a related state. -/
theorem Leads.finish (h : turn.Leads R before) : R before turn.finish.state := by
  induction turn generalizing before with
  | done => exact h
  | wait state events till resume ih => exact htrans h.1 (ih state (h.2 state))

end

end Turn

/-! ## Side by side -/

/-- **Does each turn of the strand lead to a related state?** -/
def Strand.Leads (R : σ → σ → Prop) : Strand σ α → Prop
  | ready next => ∀ state, (next state).Leads R state
  | ended _ => True

/-- What a turn leaves of a strand leads to related states as well. -/
theorem Strand.leads_left {R : σ → σ → Prop} {before : σ} {turn : Turn σ α}
    (h : turn.Leads R before) : turn.left.Leads R := by
  cases turn with
  | done => exact trivial
  | wait => exact h.2

/-- **Side by side** strands lead from one state to a related one if each of them does. The relation
has to be transitive, for the turns of one are followed by those of another. -/
theorem SideBySide.leads {R : σ → σ → Prop} (hrefl : ∀ state, R state state)
    (htrans : ∀ {first second third : σ}, R first second → R second third → R first third)
    {strands after : List (Strand σ α)} {start final : σ} {trace : List (TurnTaken σ)}
    (h : SideBySide strands start trace after final)
    (hleads : ∀ strand ∈ strands, strand.Leads R) : R start final := by
  induction h with
  | rest strands state => exact hrefl state
  | @turn strands after state final trace i next hready _ ih =>
    have hturn : (next state).Leads R state := hleads _ (List.mem_of_getElem? hready) state
    refine htrans hturn.state (ih fun strand hmem => ?_)
    obtain hmem | rfl := List.mem_or_eq_of_mem_set hmem
    · exact hleads strand hmem
    · exact Strand.leads_left hturn

/-! ## Stores -/

namespace World

/-- **Has the store been asked for nothing else** than accesses of this sort, between the two? The
clock may show anything, and the stamps may be any. -/
def Reaches (asks : Access → Prop) (world later : World) : Prop :=
  ∃ steps : List Step, later.store = world.store.run steps ∧ ∀ step ∈ steps, asks step.access

variable {asks : Access → Prop} {world later last : World}

/-- The store has been asked for nothing if it is the same. -/
theorem Reaches.of_store_eq (h : later.store = world.store) : world.Reaches asks later :=
  ⟨[], h, List.forall_mem_nil _⟩

/-- From a world to itself nothing is asked for. -/
theorem Reaches.refl (world : World) : world.Reaches asks world :=
  .of_store_eq rfl

/-- What is asked for first is followed by what is asked for later. -/
theorem Reaches.trans (h : world.Reaches asks later) (hlater : later.Reaches asks last) :
    world.Reaches asks last := by
  obtain ⟨steps, hsteps, hasked⟩ := h
  obtain ⟨others, hothers, hothersAsked⟩ := hlater
  refine ⟨steps ++ others, ?_, List.forall_mem_append.2 ⟨hasked, hothersAsked⟩⟩
  rw [hothers, hsteps, Store.run_append]

/-- More may be said to be asked for. -/
theorem Reaches.imp {more : Access → Prop} (h : world.Reaches asks later)
    (himp : ∀ {access : Access}, asks access → more access) : world.Reaches more later := by
  obtain ⟨steps, hsteps, hasked⟩ := h
  exact ⟨steps, hsteps, fun step hstep => himp (hasked step hstep)⟩

/-- **A single access**, whoever serves it. If it is not the store, the store is as it was. -/
theorem reaches_of_serve {services : Services} {access : Access} {served : Served access}
    (h : world.serve services access = some served) (hasks : asks access) :
    world.Reaches asks served.world := by
  cases servedBy_of_serve h with
  | answered => exact .refl world
  | stored hstored hperformed =>
    obtain rfl := hperformed
    exact ⟨[⟨access, services.stamp world.served⟩], rfl, List.forall_mem_singleton.2 hasks⟩

end World

/-- What one job may ask for another one may ask for as well. -/
theorem Turn.Leads.asking {job other : Job ε α} {turn : Turn World β} {world : World}
    (h : turn.Leads (World.Reaches fun access => job.MayAsk access) world)
    (hmay : ∀ {access : Access}, job.MayAsk access → other.MayAsk access) :
    turn.Leads (World.Reaches fun access => other.MayAsk access) world :=
  h.imp fun hreaches => hreaches.imp hmay

/-- **In each of its turns a job** asks the store for nothing else than what it may ask for. By
induction on the job: every answer leads to a job that may ask for no more than the whole. -/
theorem Job.start_leads (job : Job ε α) (services : Services) (world : World) :
    (job.start services world).Leads (World.Reaches fun wanted => job.MayAsk wanted) world := by
  induction job generalizing world with
  | done | fail | abort => exact .refl world
  | clock resume ih => exact (ih world.now world).asking fun hasked => ⟨_, hasked⟩
  | access a resume ih =>
    unfold Job.start
    cases hserved : world.serve services a with
    | none => exact .refl world
    | some served =>
      rw [Turn.leads_log]
      have hrest : ((resume served.answer).start services served.world).Leads
          (World.Reaches fun wanted => (access a resume).MayAsk wanted) served.world :=
        (ih served.answer served.world).asking fun hasked => .inr ⟨_, hasked⟩
      exact hrest.after World.Reaches.trans (World.reaches_of_serve hserved (.inl rfl))
  | guarded limits a resume stopped ih ihs =>
    -- a job that is told to stop may still ask for something, when it tidies up
    have hstopped (stop : Stop) (world : World) :
        ((stopped stop).start services world).Leads
          (World.Reaches fun wanted => (guarded limits a resume stopped).MayAsk wanted) world :=
      (ihs stop world).asking fun hasked => .inr (.inr ⟨_, hasked⟩)
    unfold Job.start
    cases hserved : world.serve services a with
    | some served =>
      rw [Turn.leads_log]
      have hrest : ((resume served.answer).start services served.world).Leads
          (World.Reaches fun wanted => (guarded limits a resume stopped).MayAsk wanted)
          served.world :=
        (ih served.answer served.world).asking fun hasked => .inr (.inl ⟨_, hasked⟩)
      exact hrest.after World.Reaches.trans (World.reaches_of_serve hserved (.inl rfl))
    | none =>
      cases limits.stop? world.now with
      | some stop => exact hstopped stop world
      | none =>
        cases limits.deadline with
        | none => exact .refl world
        | some deadline =>
          -- the clock moves on while it waits, and the store is the one of that time
          refine ⟨.refl world, fun later => ?_⟩
          exact (hstopped .expired (later.reach deadline)).after World.Reaches.trans
            (.of_store_eq rfl)

end Planroom
