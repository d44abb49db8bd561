import Planroom.Proofs.Store.Numbering

/-!
# Shelves listed in order

The artifacts of a kind are listed by the numbers that are read off their references, since a table
does not have to keep its records in any order.

* **Numbers** — `Reference.pairwise_firsts`: the first references of a kind have greater and greater
  numbers, up to the greatest one that can be read.
* **In order** — on a shelf that is numbered so far, listing by numbers is listing in the order of the
  creations, in whatever order the records are kept (`Numbered.sorted_of_perm`).
-/

namespace Planroom

/-! ## Numbers -/

/-- The first references of a kind have greater and greater numbers. The bound is there because the
number is read off the text of a reference, and one that is too large counts as none. -/
theorem Reference.pairwise_firsts (kind : Kind) {n : Nat} (h : n ≤ maxNumber) :
    (firsts kind n).Pairwise fun a b => number a < number b := by
  rw [firsts, List.pairwise_map]
  refine List.pairwise_lt_range.imp_of_mem fun {a b} ha hb hlt => ?_
  rw [List.mem_range] at ha hb
  rw [number_ofNumber (Nat.le_trans ha h), number_ofNumber (Nat.le_trans hb h)]
  exact Nat.succ_lt_succ hlt

/-! ## Sorting -/

namespace Table

variable {α β : Type} [Referenced α] [Referenced β]

/-- Records are sorted as before, if they keep their references. -/
theorem sorted_map (f : α → β)
    (hf : ∀ a, Referenced.reference (f a) = Referenced.reference a) (table : Table α) :
    (table.map f).sorted = table.sorted.map f := by
  have hvalues : (table.map f).values = table.values.map f := by
    simp only [values, map, List.map_map]
    rfl
  rw [sorted, sorted, hvalues, List.map_mergeSort]
  intro a _ b _
  rw [inOrder, inOrder, hf, hf]

omit [Referenced β] in
/-- One record may stand before another if its number is not the greater one. -/
theorem inOrder_iff {a b : α} : inOrder a b = true ↔
    Reference.number (Referenced.reference a) ≤ Reference.number (Referenced.reference b) := by
  rw [inOrder, decide_eq_true_iff]

omit [Referenced β] in
/-- **Records with greater and greater numbers** are what any other order of them is sorted into. So
nothing has to be known of the order in which a table keeps its records. -/
theorem mergeSort_of_perm {records others : List α}
    (hlt : records.Pairwise fun a b =>
      Reference.number (Referenced.reference a) < Reference.number (Referenced.reference b))
    (hperm : others.Perm records) : others.mergeSort inOrder = records := by
  have hnodup : (records.map fun a => Reference.number (Referenced.reference a)).Nodup :=
    List.pairwise_map.2 (hlt.imp Nat.ne_of_lt)
  have hsorted : (others.mergeSort inOrder).Pairwise fun a b => inOrder a b = true := by
    refine List.pairwise_mergeSort (fun a b c hab hbc => ?_) (fun a b => ?_) others
    · rw [inOrder_iff] at hab hbc ⊢
      exact Nat.le_trans hab hbc
    · rw [Bool.or_eq_true, inOrder_iff, inOrder_iff]
      exact Nat.le_total _ _
  have hle : records.Pairwise fun a b => inOrder a b = true := by
    refine hlt.imp fun {a b} hab => ?_
    rw [inOrder_iff]
    exact hab.le
  have hall : (others.mergeSort inOrder).Perm records := (List.mergeSort_perm _ _).trans hperm
  -- no number comes twice, so that there is but one way of putting them in order
  refine List.Perm.eq_of_pairwise (fun a b ha hb hab hba => ?_) hsorted hle hall
  rw [inOrder_iff] at hab hba
  exact List.inj_on_of_nodup_map hnodup (hall.subset ha) hb (Nat.le_antisymm hab hba)

end Table

/-! ## What is on a shelf -/

/-- The artifact, if it is one of the hierarchy. -/
def Artifact.entity? : Artifact → Option Entity
  | .entity value => some value
  | .document _ => none

namespace Store

variable {store other : Store} {kind : Kind}

/-- Records told as artifacts of the hierarchy are sorted by the same references. -/
theorem map_sorted {α : Type} [Referenced α] (table : Table α) (tell : α → Entity)
    (htell : ∀ a, (Artifact.entity (tell a)).reference = Referenced.reference a) :
    (table.sorted.map tell).map Artifact.entity =
      (table.map fun a => Artifact.entity (tell a)).sorted := by
  rw [Table.sorted_map (fun a => Artifact.entity (tell a)) htell, List.map_map]
  rfl

/-- **What is listed of a kind** of the hierarchy is its shelf, sorted. The steering documents are
listed by an access of their own. -/
theorem exists_entities (hkind : kind ∈ Kind.resources) (store : Store) :
    ∃ entities, store.entities kind = .ok entities ∧
      entities.map Artifact.entity = (store.shelf kind).sorted := by
  cases kind with
  | epic => exact ⟨_, rfl, map_sorted store.epics .epic fun _ => rfl⟩
  | userStory => exact ⟨_, rfl, map_sorted store.stories .story fun _ => rfl⟩
  | acceptanceCriteria => exact ⟨_, rfl, map_sorted store.criteria .criteria fun _ => rfl⟩
  | requirement => exact ⟨_, rfl, map_sorted store.requirements .requirement fun _ => rfl⟩
  | steeringDocument => exact absurd hkind (by decide)

/-- **The artifacts of a kind** of the hierarchy, in the order in which they are kept. On a numbered
shelf this is the order of their creations. -/
def artifacts (store : Store) (kind : Kind) : List Entity :=
  (store.shelf kind).values.filterMap Artifact.entity?

/-- On a shelf of the hierarchy there is nothing else. -/
theorem map_artifacts (hkind : kind ∈ Kind.resources) (store : Store) :
    (store.artifacts kind).map Artifact.entity = (store.shelf kind).values := by
  rw [artifacts, List.map_filterMap]
  refine (List.filterMap_congr fun artifact hartifact => ?_).trans List.filterMap_some
  cases artifact with
  | entity value => rfl
  | document value =>
    obtain rfl : Kind.steeringDocument = kind := store.kind_of_mem_values hartifact
    exact absurd hkind (by decide)

/-- An artifact is held where it is kept; nothing is lost on the way from the shelf. -/
theorem mem_artifacts_iff {entity : Entity} :
    entity ∈ store.artifacts kind ↔ .entity entity ∈ (store.shelf kind).values := by
  rw [artifacts, List.mem_filterMap]
  constructor
  · rintro ⟨artifact, hartifact, hvalue⟩
    cases artifact with
    | entity value =>
      cases hvalue
      exact hartifact
    | document value => cases hvalue
  · exact fun h => ⟨_, h, rfl⟩

/-- **The identities of the artifacts of a kind**, in the order of its register. A later store has
them at the beginning of its own. -/
def identities (store : Store) (kind : Kind) : List Identity :=
  (store.register kind).map (·.2)

/-- The identities of the artifacts that are held are those of the register. -/
theorem map_identity_artifacts (hkind : kind ∈ Kind.resources) (store : Store) :
    (store.artifacts kind).map Entity.identity = store.identities kind := by
  have hidentity := congrArg (List.map Artifact.identity) (store.map_artifacts hkind)
  rw [List.map_map, Table.values, List.map_map] at hidentity
  rw [identities, register, List.map_map]
  exact hidentity

/-- There are as many of them as there are artifacts. -/
theorem length_identities (store : Store) (kind : Kind) :
    (store.identities kind).length = (store.shelf kind).values.length := by
  rw [identities, register, Table.values, List.length_map, List.length_map, List.length_map]

/-- As many artifacts are on a shelf as numbers were issued. -/
theorem Numbered.length_values (h : store.Numbered kind) :
    (store.shelf kind).values.length = store.issued.get kind := by
  have hlength := congrArg List.length h.references
  rw [map_register_references, List.length_map, Reference.length_firsts] at hlength
  exact hlength

/-- The numbers of what is on a shelf get greater and greater. -/
theorem Numbered.pairwise_numbers (h : store.Numbered kind)
    (hissued : store.issued.get kind ≤ Reference.maxNumber) :
    (store.shelf kind).values.Pairwise fun a b =>
      Reference.number a.reference < Reference.number b.reference := by
  have hfirsts := Reference.pairwise_firsts kind hissued
  rw [← h.references, map_register_references, List.pairwise_map] at hfirsts
  exact hfirsts

/-- **Listing by numbers is listing in the order of the creations**, in whatever order the records
are kept. The records of `other` may come in any order, such as that of a table which hashes its
keys. -/
theorem Numbered.sorted_of_perm (h : store.Numbered kind)
    (hissued : store.issued.get kind ≤ Reference.maxNumber)
    (hperm : (other.shelf kind).entries.Perm (store.shelf kind).entries) :
    (other.shelf kind).sorted = (store.shelf kind).values :=
  Table.mergeSort_of_perm (h.pairwise_numbers hissued) (hperm.map Prod.snd)

/-- **What is listed of a kind** of the hierarchy is what is kept of it, in whatever order the records
are kept. -/
theorem Numbered.entities_of_perm (h : store.Numbered kind) (hkind : kind ∈ Kind.resources)
    (hissued : store.issued.get kind ≤ Reference.maxNumber)
    (hperm : (other.shelf kind).entries.Perm (store.shelf kind).entries) :
    other.entities kind = .ok (store.artifacts kind) := by
  obtain ⟨found, hfound, hsorted⟩ := exists_entities hkind other
  rw [h.sorted_of_perm hissued hperm, ← store.map_artifacts hkind] at hsorted
  have hsame : found = store.artifacts kind :=
    List.map_injective_iff.2 (fun _ _ h => Artifact.entity.inj h) hsorted
  rw [hfound, hsame]

end Store

end Planroom
