import Planroom.Proofs.Artifact.Reference
import Planroom.Proofs.Store.Register

/-!
# Numbering

References are not drawn from anywhere: they are counted. It is shown here that counting is enough
for a reference to mean one artifact, for ever.

* **In order** — `Numbered`: the artifacts of a kind have the first so many references of the kind,
  in the order in which they were created. Every effect keeps it so.
* **Findable** — on a shelf that is numbered, at most one artifact answers to a reference or an
  identifier. So it does not matter in which order the shelf is searched.
-/

namespace Planroom

namespace Store

variable {store after other : Store} {kind : Kind}

/-! ## Shelves in order -/

/-- **A shelf in order**: each artifact is under its own identifier, no identifier comes twice, and
the references are the first ones of the kind, as many as were issued. It is said of the register,
which the updates of artifacts do not touch. -/
structure Numbered (store : Store) (kind : Kind) : Prop where
  filed : ∀ entry ∈ store.register kind, entry.2.id = entry.1
  distinct : ((store.register kind).map (·.1)).Nodup
  references : (store.register kind).map (·.2.reference) =
    Reference.firsts kind (store.issued.get kind)

/-- The identifiers in the register are those of the shelf. -/
theorem map_register_ids (store : Store) (kind : Kind) :
    (store.register kind).map (·.1) = (store.shelf kind).entries.map (·.1) := by
  rw [register, List.map_map]
  rfl

/-- The references in the register are those of the shelf. -/
theorem map_register_references (store : Store) (kind : Kind) :
    (store.register kind).map (·.2.reference) =
      (store.shelf kind).values.map Artifact.reference := by
  rw [register, Table.values, List.map_map, List.map_map]
  rfl

/-- A shelf stays in order when its register and the count of its numbers stay the same. -/
theorem Numbered.of_same (h : store.Numbered kind)
    (hregister : after.register kind = store.register kind)
    (hissued : after.issued.get kind = store.issued.get kind) : after.Numbered kind := by
  refine ⟨?_, ?_, ?_⟩
  · rw [hregister]
    exact h.filed
  · rw [hregister]
    exact h.distinct
  · rw [hregister, hissued]
    exact h.references

/-- A shelf stays in order when an artifact with the next number comes after all others, under an
identifier that none of them has. -/
theorem Numbered.of_next {artifact : Artifact} (h : store.Numbered kind)
    (hregister : after.register kind =
      store.register kind ++ [(artifact.id, artifact.identity)])
    (hissued : after.issued.get kind = store.issued.get kind + 1)
    (hnew : artifact.id ∉ (store.register kind).map (·.1))
    (hreference : artifact.reference = store.nextReference kind) : after.Numbered kind := by
  refine ⟨?_, ?_, ?_⟩
  · intro entry hentry
    rw [hregister] at hentry
    rcases List.mem_append.1 hentry with hold | hlast
    · exact h.filed entry hold
    · obtain rfl := List.mem_singleton.1 hlast
      rfl
  · rw [hregister, List.map_append, List.map_singleton]
    exact h.distinct.append (List.nodup_singleton _) (List.disjoint_singleton.2 hnew)
  · rw [hregister, hissued, List.map_append, h.references, List.map_singleton,
      Reference.firsts_succ]
    exact congrArg (fun r => Reference.firsts kind _ ++ [r]) hreference

/-- **Every effect** keeps the shelves in order. Either the register of a kind stays, and the count
with it, or both get one more. -/
theorem Numbered.effect {step : Step} {created : Option Artifact}
    (h : ∀ kind, store.Numbered kind) (hfresh : store.Fresh step)
    (heffect : Effect store step.stamp step.access created after) (kind : Kind) :
    after.Numbered kind := by
  have hregister := register_effect hfresh heffect kind
  have hissued := issued_effect heffect kind
  cases created with
  | none =>
    rw [Option.toList_none, newEntries_nil, List.append_nil] at hregister
    exact (h kind).of_same hregister hissued
  | some artifact =>
    obtain ⟨hdraws, hid, hreference⟩ := created_effect heffect
    rw [Option.toList_some, newEntries_singleton] at hregister hissued
    by_cases hkind : artifact.kind = kind
    · -- the identifier that was drawn is not in use, so it is not on this shelf
      subst hkind
      rw [if_pos rfl] at hregister hissued
      have hnew := Table.not_mem_of_get?_none (get?_of_not_uses (hfresh hdraws) artifact.kind)
      rw [← map_register_ids, ← hid] at hnew
      exact (h artifact.kind).of_next hregister hissued hnew hreference
    · rw [if_neg hkind] at hregister hissued
      rw [List.append_nil] at hregister
      exact (h kind).of_same hregister hissued

/-- At the beginning nothing is on any shelf, and no number has been issued. -/
theorem numbered_initial (users : List User) (prompts : List Prompt) (kind : Kind) :
    (initial users prompts).Numbered kind := by
  have hregister := register_initial users prompts kind
  refine ⟨?_, ?_, ?_⟩
  · rw [hregister]
    exact fun _ hentry => nomatch hentry
  · rw [hregister]
    exact List.nodup_nil
  · rw [hregister]
    cases kind <;> rfl

/-- **Every reachable store** has its shelves in order, since the invariant holds at the beginning
and every effect keeps it. -/
theorem Reachable.numbered (hstore : Reachable store) (kind : Kind) : store.Numbered kind :=
  hstore.invariant (P := fun store => ∀ kind, store.Numbered kind) numbered_initial
    Numbered.effect kind

/-! ## Looking up -/

namespace Numbered

variable (h : store.Numbered kind)

include h

/-- No identifier comes twice on a shelf. -/
theorem nodup_ids : ((store.shelf kind).entries.map (·.1)).Nodup := by
  rw [← map_register_ids]
  exact h.distinct

/-- No reference comes twice on a shelf, since those of the first numbers are all different. -/
theorem nodup_references : ((store.shelf kind).values.map Artifact.reference).Nodup := by
  rw [← map_register_references, h.references]
  exact Reference.nodup_firsts kind _

/-- An artifact is filed under its own identifier. -/
theorem id_eq {entry : Uuid × Artifact} (hentry : entry ∈ (store.shelf kind).entries) :
    entry.2.id = entry.1 :=
  h.filed (entry.1, entry.2.identity) (List.mem_map_of_mem hentry)

/-- **By its identifier** an artifact is found, and no other one, for no other is filed under it. -/
theorem fetch_id {entry : Uuid × Artifact} (hentry : entry ∈ (store.shelf kind).entries) :
    store.fetch kind (.byId entry.2.id) = .ok entry.2 := by
  rw [fetch_eq_ok_iff, h.id_eq hentry, Table.find?, Table.get?,
    (find?_key_eq_some_iff h.nodup_ids).2 ⟨hentry, rfl⟩]
  rfl

/-- **By its reference** an artifact is found. The shelf is searched for the first artifact that has
it, and there is but one. -/
theorem fetch_reference {entry : Uuid × Artifact} (hentry : entry ∈ (store.shelf kind).entries) :
    store.fetch kind (.byReference entry.2.reference) = .ok entry.2 := by
  rw [fetch_eq_ok_iff]
  exact (find?_key_eq_some_iff h.nodup_references).2 ⟨List.mem_map_of_mem hentry, rfl⟩

/-- **By any other text** nothing is found, and the failure repeats the text that was asked for. -/
theorem fetch_other {text : String} (htext : text ∉ Reference.firsts kind (store.issued.get kind)) :
    store.fetch kind (.byReference text) = .error (.missing kind text) := by
  have hnone : (store.shelf kind).find? (.byReference text) = none := by
    rw [Table.find?, List.find?_eq_none]
    intro artifact hartifact hsame
    rw [beq_iff_eq] at hsame
    subst hsame
    rw [← h.references, map_register_references] at htext
    exact htext (List.mem_map_of_mem hartifact)
  rw [fetch_eq, hnone]
  rfl

/-- **In whatever order** the shelf is searched, the same is found. A search stops at the first
artifact that answers, and no second one does. -/
theorem fetch_perm (hperm : (other.shelf kind).entries.Perm (store.shelf kind).entries)
    (lookup : Lookup) : other.fetch kind lookup = store.fetch kind lookup := by
  have hsame : (other.shelf kind).find? lookup = (store.shelf kind).find? lookup := by
    cases lookup with
    | byId id => exact congrArg (Option.map _) (find?_key_perm h.nodup_ids hperm id)
    | byReference reference =>
      exact find?_key_perm h.nodup_references (hperm.map (·.2)) reference
  rw [fetch_eq, fetch_eq, hsame]

end Numbered

/-! ## After a run -/

/-- **What a run from the beginning leaves on a shelf.** `made` is what it created of the kind, in
order. -/
structure Shelved (store : Store) (kind : Kind) (made : List Artifact) : Prop where
  count : (store.shelf kind).entries.length = made.length
  filed : ∀ entry ∈ (store.shelf kind).entries, entry.2.id = entry.1
  distinct : ((store.shelf kind).entries.map (·.1)).Nodup
  references : (store.shelf kind).values.map Artifact.reference =
    Reference.firsts kind made.length
  once : (Reference.firsts kind made.length).Nodup
  inOrder : made.map Artifact.reference = Reference.firsts kind made.length
  issued : store.issued.get kind = made.length

/-- **What is found on a shelf** with the first `n` references of its kind: an artifact under its
reference and under its identifier, and nothing under any other text; and that in whatever order the
records are kept. -/
structure Findable (store : Store) (kind : Kind) (n : Nat) : Prop where
  byReference : ∀ entry ∈ (store.shelf kind).entries,
    store.fetch kind (.byReference entry.2.reference) = .ok entry.2
  byId : ∀ entry ∈ (store.shelf kind).entries, store.fetch kind (.byId entry.2.id) = .ok entry.2
  byOther : ∀ text, text ∉ Reference.firsts kind n →
    store.fetch kind (.byReference text) = .error (.missing kind text)
  byOtherKind : ∀ label, label ≠ kind → ∀ number,
    store.fetch kind (.byReference (Reference.ofNumber label number)) =
      .error (.missing kind (Reference.ofNumber label number))
  anyOrder : ∀ other : Store, (other.shelf kind).entries.Perm (store.shelf kind).entries →
    ∀ lookup, other.fetch kind lookup = store.fetch kind lookup

/-- References of other kinds are not among the first ones of a kind. -/
theorem ofNumber_not_mem_firsts {label : Kind} (h : label ≠ kind) (number n : Nat) :
    Reference.ofNumber label number ∉ Reference.firsts kind n := by
  intro hmem
  obtain ⟨k, -, hsame⟩ := Reference.mem_firsts_iff.1 hmem
  exact h (Reference.ofNumber_inj.1 hsame).1

/-- On a numbered shelf everything is found as it should be. -/
theorem Numbered.findable (h : store.Numbered kind) :
    store.Findable kind (store.issued.get kind) where
  byReference _ hentry := h.fetch_reference hentry
  byId _ hentry := h.fetch_id hentry
  byOther _ htext := h.fetch_other htext
  byOtherKind _ hlabel number := h.fetch_other (ofNumber_not_mem_firsts hlabel number _)
  anyOrder _ hperm lookup := h.fetch_perm hperm lookup

/-- After a run from the beginning the register is what the run created. -/
theorem register_run_initial {users : List User} {prompts : List Prompt} {steps : List Step}
    (hrun : (initial users prompts).FreshRun steps) (kind : Kind) :
    ((initial users prompts).run steps).register kind =
      newEntries kind ((initial users prompts).creations steps) := by
  rw [register_run hrun, register_initial, List.nil_append]

/-- After a run from the beginning as many numbers are issued as artifacts were created. -/
theorem issued_run_initial (users : List User) (prompts : List Prompt) (steps : List Step)
    (kind : Kind) :
    ((initial users prompts).run steps).issued.get kind =
      ((initial users prompts).creationsOf kind steps).length := by
  rw [issued_run]
  cases kind <;> exact Nat.zero_add _

/-- After a run from the beginning the shelf holds what the run created, numbered in this order. -/
theorem shelved_run {users : List User} {prompts : List Prompt} {steps : List Step}
    (hrun : (initial users prompts).FreshRun steps) (kind : Kind) :
    ((initial users prompts).run steps).Shelved kind
      ((initial users prompts).creationsOf kind steps) := by
  have hnumbered := ((Reachable.initial users prompts).run hrun).numbered kind
  have hregister := register_run_initial hrun kind
  have hissued := issued_run_initial users prompts steps kind
  -- what is true of the store by counting is said again by what the run has created
  have hreferences := hnumbered.references
  rw [hissued] at hreferences
  refine ⟨?_, fun _ hentry => hnumbered.id_eq hentry, hnumbered.nodup_ids, ?_,
    Reference.nodup_firsts kind _, ?_, hissued⟩
  · have hlength := congrArg List.length hregister
    rw [register, newEntries, List.length_map, List.length_map] at hlength
    exact hlength
  · rw [← map_register_references]
    exact hreferences
  · rw [hregister, newEntries, List.map_map] at hreferences
    exact hreferences

/-- **References count creations.** After any run from the beginning, with whatever failures in it,
the artifacts of a kind are as many as were created of it; each is under its own identifier; their
references are the first ones of the kind, the `k`-th creation having got number `k`. A further step
adds what it creates and leaves all other references as they are. Therefore a reference finds the
same artifact as the identifier, in whatever order the shelf is searched, and no other text finds
anything. -/
theorem references_count_creations (users : List User) (prompts : List Prompt) {steps : List Step}
    (hrun : (initial users prompts).FreshRun steps) (kind : Kind) :
    let store := (initial users prompts).run steps
    let made := (initial users prompts).creationsOf kind steps
    store.Shelved kind made ∧ store.Findable kind made.length ∧
      ∀ step, store.Fresh step →
        (store.after step).register kind =
          store.register kind ++ newEntries kind (store.creation? step).toList := by
  intro store made
  refine ⟨shelved_run hrun kind, ?_, fun step hfresh => register_after hfresh kind⟩
  have hfindable := (((Reachable.initial users prompts).run hrun).numbered kind).findable
  rw [issued_run_initial] at hfindable
  exact hfindable

/-- Two epics, and between them an attempt at one without a title, which fails. -/
def twoEpics : List Step :=
  [⟨.createEpic ⟨"Search", none, .high, (Stamp.nth 0).id, none⟩, .nth 1⟩,
    ⟨.createEpic ⟨"  ", none, .high, (Stamp.nth 0).id, none⟩, .nth 2⟩,
    ⟨.createEpic ⟨"Export", none, .high, (Stamp.nth 0).id, none⟩, .nth 3⟩]

/-- The attempt that failed uses up no number. -/
theorem references_count_creations_two :
    ((initial [] []).creationsOf .epic twoEpics).map Artifact.reference = ["EP-001", "EP-002"] ∧
      ((initial [] []).run twoEpics).Shelved .epic
        ((initial [] []).creationsOf .epic twoEpics) := by
  have hfresh : (initial [] []).FreshRun twoEpics := by decide +kernel
  exact ⟨by decide +kernel, (references_count_creations [] [] hfresh .epic).1⟩

end Store

end Planroom
