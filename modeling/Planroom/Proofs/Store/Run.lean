import Planroom.Proofs.Store.Effect

/-!
# Runs of a store

A store that is in use is asked for one thing after another, by anybody, with whatever success. The
identifiers that it is given for what it creates are supposed to be new each time; nothing else is
supposed of what comes from outside.

* **Fresh** — a step is fresh when the identifier that it draws, if it draws one, is not in use.
* **Run** — `Store.run` takes one step after another; a run is fresh when each of its steps is. What has
  become of a store in a run has come about at one of the steps (`exists_turn`).
* **Reachable** — the stores that fresh steps lead to from the beginning.
-/

namespace Planroom

/-- **What was so and is so no more** has changed at one of the turns that were taken. The turns may
be steps of a store, or anything else that is taken one after another. -/
theorem exists_turn_of_foldl {σ τ : Type} {f : σ → τ → σ} {P : σ → Prop} {start : σ} {turns : List τ}
    (hstart : P start) (hend : ¬P (turns.foldl f start)) :
    ∃ before turn rest, turns = before ++ turn :: rest ∧
      P (before.foldl f start) ∧ ¬P (f (before.foldl f start) turn) := by
  induction turns generalizing start with
  | nil => exact absurd hstart hend
  | cons turn rest ih =>
    by_cases hafter : P (f start turn)
    · obtain ⟨before, later, others, rfl, hturn⟩ := ih hafter hend
      exact ⟨turn :: before, later, others, rfl, hturn⟩
    · exact ⟨[], turn, rest, rfl, hstart, hafter⟩

/-- **One access**, with what the store is given from outside for it: the time, and an identifier
that may be drawn. -/
structure Step where
  access : Access
  stamp : Stamp

namespace Store

/-- The store after a step. -/
def after (store : Store) (step : Step) : Store :=
  (store.perform step.stamp step.access).store

/-- The artifact that a step creates, if it creates one. -/
def creation? (store : Store) (step : Step) : Option Artifact :=
  store.created? step.stamp step.access

/-- **The store after several steps.** A step that fails leaves the store as it is, and the run goes
on. -/
def run (store : Store) (steps : List Step) : Store :=
  steps.foldl after store

/-- **Is the identifier in use?** Artifacts, relationships and comments draw from the same source;
links have no identifier. -/
def uses (store : Store) (id : Uuid) : Bool :=
  Kind.all.any (fun kind => (store.shelf kind).contains id) ||
    store.relationships.any (·.id == id) || store.comments.any (·.id == id)

/-- **Is a step fresh?** Whatever draws no identifier is. That an identifier is new is all that is
supposed of the source from which it comes. -/
def Fresh (store : Store) (step : Step) : Prop :=
  step.access.drawsId = true → store.uses step.stamp.id = false

instance (store : Store) (step : Step) : Decidable (store.Fresh step) :=
  inferInstanceAs (Decidable (_ → _))

/-- **Is every step of a run fresh?** It is asked of the store that the steps before it have left.
-/
def FreshRun (store : Store) : List Step → Prop
  | [] => True
  | step :: rest => store.Fresh step ∧ (store.after step).FreshRun rest

instance decidableFreshRun (store : Store) : (steps : List Step) → Decidable (store.FreshRun steps)
  | [] => inferInstanceAs (Decidable True)
  | step :: rest =>
    have := (store.after step).decidableFreshRun rest
    inferInstanceAs (Decidable (_ ∧ _))

/-- **The stores that can come about.** A store begins with users and prompts, which are given by
the settings, and with nothing else. -/
inductive Reachable : Store → Prop where
  | initial (users : List User) (prompts : List Prompt) : Reachable (initial users prompts)
  | step {store : Store} (step : Step) (hstore : Reachable store) (hfresh : store.Fresh step) :
      Reachable (store.after step)

variable {store : Store}

@[simp] theorem run_nil : store.run [] = store := rfl

@[simp] theorem run_cons (step : Step) (steps : List Step) :
    store.run (step :: steps) = (store.after step).run steps := rfl

/-- One run after another. -/
theorem run_append (steps later : List Step) :
    store.run (steps ++ later) = (store.run steps).run later :=
  List.foldl_append

/-- A fresh run can be followed by another one. -/
theorem FreshRun.append {steps later : List Step} (hrun : store.FreshRun steps)
    (hlater : (store.run steps).FreshRun later) : store.FreshRun (steps ++ later) := by
  induction steps generalizing store with
  | nil => exact hlater
  | cons step rest ih => exact ⟨hrun.1, ih hrun.2 hlater⟩

/-- The parts of a fresh run are fresh. -/
theorem FreshRun.of_append {steps later : List Step} (hrun : store.FreshRun (steps ++ later)) :
    store.FreshRun steps ∧ (store.run steps).FreshRun later := by
  induction steps generalizing store with
  | nil => exact ⟨trivial, hrun⟩
  | cons step rest ih =>
    obtain ⟨hrest, hlater⟩ := ih hrun.2
    exact ⟨⟨hrun.1, hrest⟩, hlater⟩

/-- **What a fresh step preserves, a fresh run preserves.** This is the one induction on runs that
invariants need. -/
theorem FreshRun.preserves {P : Store → Prop}
    (hstep : ∀ {store : Store} (step : Step), P store → store.Fresh step → P (store.after step))
    {steps : List Step} (hrun : store.FreshRun steps) (hstore : P store) : P (store.run steps) := by
  induction steps generalizing store with
  | nil => exact hstore
  | cons step rest ih => exact ih hrun.2 (hstep step hstore hrun.1)

/-- **What was so and is so no more** has changed at one of the steps. -/
theorem exists_turn {P : Store → Prop} {steps : List Step} (hstore : P store)
    (hend : ¬P (store.run steps)) :
    ∃ before step rest, steps = before ++ step :: rest ∧
      P (store.run before) ∧ ¬P ((store.run before).after step) :=
  exists_turn_of_foldl hstore hend

/-- A fresh run leads from one reachable store to another. -/
theorem Reachable.run (hstore : Reachable store) {steps : List Step} (hrun : store.FreshRun steps) :
    Reachable (store.run steps) :=
  hrun.preserves (P := Reachable) .step hstore

/-- **What holds at the beginning and is preserved by every effect holds of every reachable store.**
An invariant is thus proved by going through the effects, and not through the accesses. -/
theorem Reachable.invariant {P : Store → Prop}
    (hinitial : ∀ users prompts, P (Store.initial users prompts))
    (heffect : ∀ {store after : Store} {step : Step} {created : Option Artifact},
      P store → store.Fresh step → Effect store step.stamp step.access created after → P after)
    (hstore : Reachable store) : P store := by
  induction hstore with
  | initial users prompts => exact hinitial users prompts
  | step step _ hfresh ih => exact heffect ih hfresh (perform_effect _ _ _)

/-! ## Fresh identifiers -/

variable {id : Uuid}

/-- An identifier that is not in use is on no shelf. -/
theorem get?_of_not_uses (h : store.uses id = false) (kind : Kind) :
    (store.shelf kind).get? id = none := by
  simp only [uses, Bool.or_eq_false_iff, List.any_eq_false] at h
  have hkind := h.1.1 kind (Kind.mem_all kind)
  simpa [Table.contains] using hkind

/-- What is found under an identifier in use is not filed under one that is not. So what is created
gets in nobody's way. -/
theorem ne_of_found {kind : Kind} {new : Uuid} {artifact : Artifact}
    (hnew : store.uses new = false) (hfound : (store.shelf kind).get? id = some artifact) :
    new ≠ id := by
  rintro rfl
  rw [get?_of_not_uses hnew kind] at hfound
  cases hfound

end Store

end Planroom
