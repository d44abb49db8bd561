import Planroom.Proofs.Store.Coherence
import Planroom.Proofs.Store.Remarks

/-!
# Nothing is lost

Others may have done anything to a store since somebody looked at it, and still all that was there is
there, and is what it was. Whoever has settled on an artifact or a comment can come back to it.

* **Kept** — `KeptIn`: a later store has the users, prompts and relationships of an earlier one, its
  artifacts with their identities and its comments with their remarks, all of them in their order.
  Every effect keeps what there is, and so does every run.
* **Links** — only links are taken away, one by one, and each of them by an access that names it
  (`exists_unlink`).
-/

namespace Planroom.Store

variable {store after later : Store} {stamp : Stamp} {access : Access} {created : Option Artifact}

/-! ## What is kept -/

/-- **Is a store kept in a later one?** Lists are kept as beginnings of the later ones, so that
nothing is put in between, either. -/
structure KeptIn (store later : Store) : Prop extends store.Extends later where
  prompts : later.prompts = store.prompts
  relationships : store.relationships <+: later.relationships
  remarks : store.remarks <+: later.remarks

theorem KeptIn.refl (store : Store) : store.KeptIn store :=
  ⟨.refl store, rfl, List.prefix_rfl, List.prefix_rfl⟩

theorem KeptIn.trans (h : store.KeptIn after) (hlater : after.KeptIn later) : store.KeptIn later where
  toExtends := h.toExtends.trans hlater.toExtends
  prompts := hlater.prompts.trans h.prompts
  relationships := h.relationships.trans hlater.relationships
  remarks := h.remarks.trans hlater.remarks

/-- The prompts never change. -/
theorem prompts_effect (heffect : Effect store stamp access created after) :
    after.prompts = store.prompts := by
  cases heffect with
  | created => exact file_prompts store _ _
  | updated => exact file_prompts store _ _
  | documentUpdated => exact file_prompts store _ _
  | _ => rfl

/-- Relationships are only added. -/
theorem relationships_effect (heffect : Effect store stamp access created after) :
    store.relationships <+: after.relationships := by
  cases heffect with
  | created => exact (file_relationships store _ _).symm ▸ List.prefix_rfl
  | updated => exact (file_relationships store _ _).symm ▸ List.prefix_rfl
  | documentUpdated => exact (file_relationships store _ _).symm ▸ List.prefix_rfl
  | related => exact List.prefix_append _ _
  | _ => exact List.prefix_rfl

/-- **Every effect keeps the store** that it meets. Links are not spoken of, as they may be taken
away. -/
theorem KeptIn.of_effect {step : Step} (hfresh : store.Fresh step)
    (heffect : Effect store step.stamp step.access created after) : store.KeptIn after where
  toExtends := .of_effect hfresh heffect
  prompts := prompts_effect heffect
  relationships := relationships_effect heffect
  remarks := remarks_prefix heffect

theorem KeptIn.of_step {step : Step} (hfresh : store.Fresh step) :
    store.KeptIn (store.after step) :=
  .of_effect hfresh (perform_effect store step.stamp step.access)

/-- **Every run keeps the store** in which it starts, however long it is. -/
theorem KeptIn.of_run {steps : List Step} (hrun : store.FreshRun steps) :
    store.KeptIn (store.run steps) :=
  hrun.preserves (P := store.KeptIn) (fun _ hsoFar hfresh => hsoFar.trans (.of_step hfresh))
    (.refl store)

/-- **What was found is found again**, of whatever kind it is and however it is named. What is found
may have been changed since, but it is the same artifact. -/
theorem Extends.fetch (h : store.Extends later) {kind : Kind} {lookup : Lookup} {artifact : Artifact}
    (hfound : store.fetch kind lookup = .ok artifact) :
    ∃ again, later.fetch kind lookup = .ok again ∧ again.identity = artifact.identity := by
  obtain ⟨again, hagain, hidentity⟩ := h.find? (fetch_eq_ok_iff.1 hfound)
  exact ⟨again, fetch_eq_ok_iff.2 hagain, hidentity⟩

/-! ## Links -/

/-- **A link stays** unless it is taken away, by the one access for that. -/
theorem links_effect (heffect : Effect store stamp access created after) {link : Link}
    (hlink : link ∈ store.links) :
    link ∈ after.links ∨ access = .unlinkDocument link.document link.epic := by
  cases heffect with
  | created =>
    rw [file_links]
    exact .inl hlink
  | updated =>
    refine .inl ?_
    change link ∈ (store.file _ _).links
    rw [file_links]
    exact hlink
  | documentUpdated =>
    rw [file_links]
    exact .inl hlink
  | linked => exact .inl (Link.mem_insertIn.2 (.inr hlink))
  | @unlinked document epic =>
    by_cases hsame : link = ⟨document, epic⟩
    · subst hsame
      exact .inr rfl
    · exact .inl ((List.mem_erase_of_ne hsame).2 hlink)
  | _ => exact .inl hlink

/-- **A link that is gone was taken away** at some step of the run, by an access that names it. It
may have been put in and taken away several times. -/
theorem exists_unlink {steps : List Step} {link : Link} (hlink : link ∈ store.links)
    (hgone : link ∉ (store.run steps).links) :
    ∃ before step rest, steps = before ++ step :: rest ∧
      step.access = .unlinkDocument link.document link.epic ∧
      link ∈ (store.run before).links ∧ link ∉ ((store.run before).after step).links := by
  obtain ⟨before, step, rest, hsteps, hbefore, hafter⟩ :=
    exists_turn (P := fun store => link ∈ store.links) hlink hgone
  have haccess := (links_effect (perform_effect _ step.stamp step.access) hbefore).resolve_left hafter
  exact ⟨before, step, rest, hsteps, haccess, hbefore, hafter⟩

/-! ## Runs -/

/-- **Nothing is lost.** After any run, from whatever store it starts, the users and prompts are the
same; all artifacts are where they were, with the same identity, and are found as they were found
before; all relationships are there unchanged, and all comments with the same remarks, in the same
order. A link that is there no more was taken away by an access that names it. -/
theorem run_loses_nothing {steps : List Step} (hrun : store.FreshRun steps) :
    store.KeptIn (store.run steps) ∧
      (∀ kind lookup artifact, store.fetch kind lookup = .ok artifact →
        ∃ again, (store.run steps).fetch kind lookup = .ok again ∧
          again.identity = artifact.identity) ∧
      ∀ link ∈ store.links, link ∉ (store.run steps).links →
        ∃ before step rest, steps = before ++ step :: rest ∧
          step.access = .unlinkDocument link.document link.epic ∧
          link ∈ (store.run before).links ∧ link ∉ ((store.run before).after step).links := by
  have hkept := KeptIn.of_run hrun
  exact ⟨hkept, fun _ _ _ hfound => hkept.toExtends.fetch hfound,
    fun _ hlink hgone => exists_unlink hlink hgone⟩

/-- The epic of `tiedRun` gets a description and a comment, and its document is taken from it. -/
def untyingRun : List Step :=
  [⟨.updateEntity .epic (Stamp.nth 1).id { Changes.none with description := some "find things" },
      .nth 9⟩,
    ⟨.createComment
      { kind := .epic
        artifact := (Stamp.nth 1).id
        author := (Stamp.nth 0).id
        content := "Which?"
        parent := none
        selection := ⟨some "things", some 5, some 11⟩ }, .nth 10⟩,
    ⟨.unlinkDocument (Stamp.nth 7).id (Stamp.nth 1).id, .nth 11⟩,
    ⟨.updateEntity .epic (Stamp.nth 1).id
      { Changes.none with description := some "find old things" }, .nth 12⟩]

/-- A link is taken away, and all else is kept. -/
theorem run_loses_nothing_untied :
    let start := (initial [⟨(Stamp.nth 0).id, "alice", .user⟩] []).run tiedRun
    let link : Link := ⟨(Stamp.nth 7).id, (Stamp.nth 1).id⟩
    start.FreshRun untyingRun ∧ link ∈ start.links ∧ link ∉ (start.run untyingRun).links ∧
      start.KeptIn (start.run untyingRun) ∧
      ∃ before step rest, untyingRun = before ++ step :: rest ∧
        step.access = .unlinkDocument link.document link.epic := by
  intro start link
  have hfresh : start.FreshRun untyingRun := by decide +kernel
  have hlink : link ∈ start.links := by decide +kernel
  have hgone : link ∉ (start.run untyingRun).links := by decide +kernel
  obtain ⟨hkept, -, hlinks⟩ := run_loses_nothing hfresh
  obtain ⟨before, step, rest, hsteps, haccess, -⟩ := hlinks link hlink hgone
  exact ⟨hfresh, hlink, hgone, hkept, before, step, rest, hsteps, haccess⟩

end Planroom.Store
