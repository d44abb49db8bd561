import Planroom.Proofs.Store.Run

/-!
# The register of a shelf

The **register** of a kind says which artifacts are on its shelf: under which identifier each of
them is filed, and its identity. It leaves out all that can change of an artifact, and so it only
grows.

* **One step** — `register_effect`: an effect adds an entry at the end where an artifact was
  created, and otherwise leaves the register alone. `issued_effect` counts along.
* **A run** — `register_run`: after a run, the register goes on with what the run created, in the
  order of the creations.
-/

namespace Planroom

/-- **The entries of newly created artifacts** in the register of a kind. -/
def newEntries (kind : Kind) (created : List Artifact) : List (Uuid × Identity) :=
  (created.filter (·.kind == kind)).map fun artifact => (artifact.id, artifact.identity)

@[simp] theorem newEntries_nil (kind : Kind) : newEntries kind [] = [] := rfl

/-- What is created later is entered later. -/
theorem newEntries_append (kind : Kind) (created later : List Artifact) :
    newEntries kind (created ++ later) = newEntries kind created ++ newEntries kind later := by
  rw [newEntries, List.filter_append, List.map_append]
  rfl

/-- One artifact is entered in the register of its own kind. -/
theorem newEntries_singleton (artifact : Artifact) (kind : Kind) :
    newEntries kind [artifact] =
      if artifact.kind = kind then [(artifact.id, artifact.identity)] else [] := by
  by_cases h : artifact.kind = kind
  · simp [newEntries, h]
  · simp [newEntries, h]

/-- To issue a number counts for its kind alone. -/
theorem Counters.get_issue (counters : Counters) (kind other : Kind) :
    (counters.issue kind).get other = counters.get other + if kind = other then 1 else 0 := by
  cases kind <;> cases other <;> rfl

namespace Store

/-- **The register of a kind.** It is read off the shelf, and so it is no part of a store that would
have to be kept in step with it. -/
def register (store : Store) (kind : Kind) : List (Uuid × Identity) :=
  (store.shelf kind).entries.map fun entry => (entry.1, entry.2.identity)

variable {store after : Store} {stamp : Stamp} {access : Access} {created : Option Artifact}

/-- A register depends on the shelves alone. -/
theorem register_congr {other : Store} (h : other.shelf = store.shelf) (kind : Kind) :
    other.register kind = store.register kind := by
  rw [register, h]
  rfl

/-! ## One step -/

/-- Filing something new adds an entry. It comes at the end, where a table puts what it has not had
before. -/
theorem register_file_of_new {id : Uuid} {artifact : Artifact}
    (hnew : (store.shelf artifact.kind).get? id = none) (kind : Kind) :
    (store.file id artifact).register kind =
      store.register kind ++ if artifact.kind = kind then [(id, artifact.identity)] else [] := by
  rw [register, shelf_file]
  by_cases h : artifact.kind = kind
  · subst h
    rw [if_pos rfl, if_pos rfl, Table.entries_insert_of_none hnew, List.map_append]
    rfl
  · rw [if_neg h, if_neg h, List.append_nil]
    rfl

/-- Filing something in place of what has the same identity adds nothing. -/
theorem register_file_of_found {id : Uuid} {old new : Artifact} {kind : Kind}
    (hfound : (store.shelf kind).get? id = some old) (hidentity : new.identity = old.identity)
    (other : Kind) : (store.file id new).register other = store.register other := by
  rw [register, shelf_file]
  by_cases h : new.kind = other
  · -- the shelf that it goes back to is the one that it was found on
    have hkind : kind = other :=
      (kind_of_mem_shelf store (Table.mem_of_get? hfound)).symm.trans
        ((Artifact.kind_of_identity hidentity).symm.trans h)
    subst hkind
    rw [if_pos h]
    exact Table.map_entries_insert hfound (by rw [hidentity])
  · rw [if_neg h]
    rfl

/-- **An effect adds at most one entry** to at most one register, at its end, and only where an
artifact was created. A creation files something new; an update files what has the identity that is
there already. -/
theorem register_effect (hfresh : store.Fresh ⟨access, stamp⟩)
    (heffect : Effect store stamp access created after) (kind : Kind) :
    after.register kind = store.register kind ++ newEntries kind created.toList := by
  cases heffect with
  | nothing => exact (List.append_nil _).symm
  | @created access artifact hdraws hid hreference hadmits =>
    -- the identifier has been drawn just now, so that nothing is replaced
    have hnew := get?_of_not_uses (hfresh hdraws) artifact.kind
    rw [register_congr (shelf_with_issued _ _), register_file_of_new hnew kind, Option.toList_some,
      newEntries_singleton, hid]
  | @updated _ _ _ old new _ hfound hidentity hassignee hbody =>
    -- an update leaves the identity alone, and the register has nothing else of an artifact
    have hsame : (Artifact.entity new).identity = (Artifact.entity old).identity := hidentity
    rw [register_congr (shelf_with_comments _ _), Option.toList_none, newEntries_nil,
      List.append_nil]
    exact register_file_of_found (findEntity_eq_ok_iff.1 hfound) hsame kind
  | @documentUpdated _ _ _ _ old new hfound hactor hidentity =>
    have hsame : (Artifact.document new).identity = (Artifact.document old).identity := hidentity
    rw [Option.toList_none, newEntries_nil, List.append_nil]
    exact register_file_of_found (findDocument_eq_ok_iff.1 hfound) hsame kind
  | related =>
    rw [register_congr (shelf_with_relationships _ _)]
    exact (List.append_nil _).symm
  | linked =>
    rw [register_congr (shelf_with_links _ _)]
    exact (List.append_nil _).symm
  | unlinked =>
    rw [register_congr (shelf_with_links _ _)]
    exact (List.append_nil _).symm
  | commented =>
    rw [register_congr (shelf_with_comments _ _)]
    exact (List.append_nil _).symm
  | resolved =>
    rw [register_congr (shelf_with_comments _ _)]
    exact (List.append_nil _).symm

/-- **As many numbers are issued as entries are added.** -/
theorem issued_effect (heffect : Effect store stamp access created after) (kind : Kind) :
    after.issued.get kind = store.issued.get kind + (newEntries kind created.toList).length := by
  cases heffect with
  | @created access artifact hdraws hid hreference hadmits =>
    rw [Option.toList_some, newEntries_singleton, Counters.get_issue]
    split <;> rfl
  | updated hfound hidentity hassignee hbody =>
    change (store.file _ _).issued.get kind = _
    rw [file_issued]
    rfl
  | documentUpdated hfound hactor hidentity =>
    rw [file_issued]
    rfl
  | _ => rfl

/-- **What is created** gets the identifier that was drawn, and the next number of its kind. Nothing
but the creation of an artifact issues a number. -/
theorem created_effect {artifact : Artifact}
    (heffect : Effect store stamp access (some artifact) after) :
    access.drawsId = true ∧ artifact.id = stamp.id ∧
      artifact.reference = store.nextReference artifact.kind := by
  cases heffect with
  | created hdraws hid hreference hadmits => exact ⟨hdraws, hid, hreference⟩

/-! ## A run -/

/-- **What a run creates**, in order. Steps that fail, or that do something else, leave nothing
here. -/
def creations (store : Store) : List Step → List Artifact
  | [] => []
  | step :: rest => (store.creation? step).toList ++ (store.after step).creations rest

/-- **What a run creates of a kind**, in order. -/
def creationsOf (store : Store) (kind : Kind) (steps : List Step) : List Artifact :=
  (store.creations steps).filter (·.kind == kind)

/-- One step of a run and the register. -/
theorem register_after {step : Step} (hfresh : store.Fresh step) (kind : Kind) :
    (store.after step).register kind =
      store.register kind ++ newEntries kind (store.creation? step).toList :=
  register_effect hfresh (perform_effect store step.stamp step.access) kind

/-- One step of a run and the numbers. -/
theorem issued_after (step : Step) (kind : Kind) :
    (store.after step).issued.get kind =
      store.issued.get kind + (newEntries kind (store.creation? step).toList).length :=
  issued_effect (perform_effect store step.stamp step.access) kind

/-- **After a run** the register goes on with what the run created. By induction on the steps, each
of which adds its own entries. -/
theorem register_run {steps : List Step} (hrun : store.FreshRun steps) (kind : Kind) :
    (store.run steps).register kind =
      store.register kind ++ newEntries kind (store.creations steps) := by
  induction steps generalizing store with
  | nil => exact (List.append_nil _).symm
  | cons step rest ih =>
    obtain ⟨hstep, hrest⟩ := hrun
    rw [run_cons, ih hrest, register_after hstep, creations, newEntries_append, List.append_assoc]

/-- **After a run** as many more numbers are issued. This needs no fresh identifiers, since numbers
are counted. -/
theorem issued_run (steps : List Step) (kind : Kind) :
    (store.run steps).issued.get kind =
      store.issued.get kind + (store.creationsOf kind steps).length := by
  induction steps generalizing store with
  | nil => rfl
  | cons step rest ih =>
    rw [run_cons, ih, issued_after, creationsOf, creationsOf, creations, List.filter_append,
      List.length_append, newEntries, List.length_map, Nat.add_assoc]

/-- At the beginning the registers are empty. -/
theorem register_initial (users : List User) (prompts : List Prompt) (kind : Kind) :
    (initial users prompts).register kind = [] := by
  cases kind <;> rfl

end Store

end Planroom
