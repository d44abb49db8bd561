import Planroom.Proofs.Resource.Addressing
import Planroom.Proofs.Store.Listing

/-!
# All artifacts are listed

Resources are listed page by page, and a page is the last one when nothing comes after it.

* **Pages** — `isLast_iff`: the test for the last page stops neither too early nor too late, also
  where the last page is full. So the pages of a kind are all of it (`listFrom_gives`).
* **Created** — `Created`: the artifacts that are listed of a kind are those that were created of it,
  in this order. It follows from the register (`Created.of_register`).
* **Descriptors** — `descriptors`: the collections and then the artifacts, kind by kind. No two of
  them have the same address (`nodup_uris`).
* **Complete** — `Complete`: a listing that nobody disturbs has everything once and in order, and all
  that it lists can be read.
-/

namespace Planroom.Resource

open Job

variable {store other : Store} {kind : Kind} {entities : List Entity} {moves offset : Nat}

/-! ## Pages -/

/-- The page of a list that begins at an offset, as long as pages are. -/
def pageAt (entities : List Entity) (offset : Nat) : Page Entity :=
  (Window.mk pageSize offset).apply entities

@[simp] theorem data_pageAt (entities : List Entity) (offset : Nat) :
    (pageAt entities offset).data = (entities.drop offset).take pageSize := rfl

@[simp] theorem total_pageAt (entities : List Entity) (offset : Nat) :
    (pageAt entities offset).total = entities.length := rfl

/-- What is answered when a page is asked for. -/
theorem answer_listEntities (hentities : store.entities kind = .ok entities) (offset : Nat)
    (stamp : Stamp) :
    (store.perform stamp (.listEntities kind ⟨pageSize, offset⟩)).answer =
      .ok (pageAt entities offset) := by
  rw [Store.perform, hentities]
  rfl

/-- **A page is the last one** exactly when nothing comes after it. A page that is full and ends
with the last artifact is the last one too, for it is the total that is compared and not the length
of the page. -/
theorem isLast_iff {page : Page Entity} (hpage : page = pageAt entities offset) :
    (page.data.isEmpty || decide (page.total ≤ offset + pageSize)) = true ↔
      entities.length ≤ offset + pageSize := by
  subst hpage
  rw [Bool.or_eq_true, decide_eq_true_iff, total_pageAt, data_pageAt]
  refine or_iff_right_of_imp fun hempty => ?_
  have hlength := congrArg List.length (List.isEmpty_iff.1 hempty)
  have hsize : 0 < pageSize := by decide
  rw [List.length_take, List.length_drop, List.length_nil] at hlength
  omega

/-- The last page has all that is left. -/
theorem data_of_last (h : entities.length ≤ offset + pageSize) :
    (pageAt entities offset).data = entities.drop offset := by
  rw [data_pageAt, List.take_of_length_le]
  rw [List.length_drop]
  omega

/-- A page and what comes after it are all that is left. This is the step from one page to the next.
-/
theorem data_append_drop (entities : List Entity) (offset : Nat) :
    (pageAt entities offset).data ++ entities.drop (offset + pageSize) = entities.drop offset := by
  rw [data_pageAt, ← List.drop_drop, List.take_append_drop]

/-- **One page after another.** Whether there is a next page is decided by the page that was just
fetched. -/
theorem listFrom_bind {β : Type} (kind : Kind) (moves offset : Nat)
    (next : List Descriptor → Job Failure β) :
    (listFrom kind (moves + 1) offset).bind next =
      (ask (.listEntities kind ⟨pageSize, offset⟩)).bind fun page =>
        if page.data.isEmpty || page.total ≤ offset + pageSize then
          next (page.data.map Descriptor.ofEntity)
        else (listFrom kind moves (offset + pageSize)).bind fun rest =>
          next (page.data.map Descriptor.ofEntity ++ rest) := by
  rw [listFrom, bind_eq, bind_assoc]
  refine congrArg _ (funext fun page => ?_)
  dsimp only
  split
  · rfl
  · exact bind_assoc _ _ _

/-- **The pages of a kind** are what there is of it from the offset on. It takes at least one page
to see that nothing is left, and there have to be enough moves for the rest. -/
theorem listFrom_gives (hentities : store.entities kind = .ok entities) (hmoves : 0 < moves)
    (hlength : entities.length ≤ offset + pageSize * moves) :
    (listFrom kind moves offset).Gives store
      (.ok ((entities.drop offset).map Descriptor.ofEntity)) := by
  induction moves generalizing offset with
  | zero => exact absurd hmoves (Nat.lt_irrefl 0)
  | succ moves ih =>
    have hasked : (ask (.listEntities kind ⟨pageSize, offset⟩)).Gives store
        (.ok (pageAt entities offset)) := gives_ask rfl (answer_listEntities hentities offset)
    rw [← bind_done (listFrom kind (moves + 1) offset), listFrom_bind]
    refine hasked.bind ?_
    by_cases hlast : entities.length ≤ offset + pageSize
    · rw [if_pos ((isLast_iff rfl).2 hlast), data_of_last hlast]
      exact gives_done _
    · rw [if_neg fun h => hlast ((isLast_iff rfl).1 h)]
      -- as something is left, there is another page, and the offset can be moved on to it
      rw [Nat.mul_add, Nat.mul_one] at hlength
      have hleft : 0 < moves := by
        rcases Nat.eq_zero_or_pos moves with rfl | h
        · omega
        · exact h
      have hrest : (listFrom kind moves (offset + pageSize)).Gives store _ :=
        ih hleft (by omega)
      rw [← data_append_drop entities offset, List.map_append]
      exact hrest.bind (gives_done _)

/-! ## Kind by kind -/

/-- **The descriptors of a listing**: the collections and then the artifacts, kind by kind. The
collections are listed whether there is anything in them or not. -/
def descriptors (listed : Kind → List Entity) : List Descriptor :=
  Kind.resources.map Descriptor.ofCollection ++
    Kind.resources.flatMap fun kind => (listed kind).map Descriptor.ofEntity

/-- How many artifacts of a kind there may be at most for their listing to come to an end. With one
more the offset would have to be moved past its largest value. -/
def maxListed : Nat := pageSize * maxMoves

theorem listKinds_gives {listed : Kind → List Entity} {kinds : List Kind}
    (h : ∀ kind ∈ kinds, store.entities kind = .ok (listed kind) ∧
      (listed kind).length ≤ maxListed) :
    (listKinds kinds).Gives store
      (.ok (kinds.flatMap fun kind => (listed kind).map Descriptor.ofEntity)) := by
  induction kinds with
  | nil => exact gives_done _
  | cons kind kinds ih =>
    rw [List.forall_mem_cons] at h
    obtain ⟨⟨hentities, hlength⟩, hrest⟩ := h
    have hhere : (listFrom kind maxMoves 0).Gives store _ :=
      listFrom_gives hentities (by decide) (by rwa [Nat.zero_add])
    exact hhere.bind ((ih hrest).bind (gives_done _))

/-- **The listing of a store** in which there are not too many artifacts of any kind. What is listed
of each kind is given, so that it can be said later in which order that is. -/
theorem list_gives {listed : Kind → List Entity}
    (h : ∀ kind ∈ Kind.resources, store.entities kind = .ok (listed kind) ∧
      (listed kind).length ≤ maxListed) :
    list.Gives store (.ok (descriptors listed)) :=
  (listKinds_gives h).bind (gives_done _)

/-! ## What was created -/

/-- **Are these the artifacts that were created of a kind**, in this order? Titles and texts may
have been changed since; what was settled at the creation is the same. -/
structure Created (kind : Kind) (made : List Artifact) (listed : List Entity) : Prop where
  identities : listed.map Entity.identity = made.map Artifact.identity
  kinds : ∀ entity ∈ listed, entity.kind = kind
  distinct : (listed.map Entity.id).Nodup
  references : listed.map Entity.reference = Reference.firsts kind made.length

section Created

variable {users : List User} {prompts : List Prompt} {steps : List Step} {listed : List Entity}

/-- What the register of a kind tells of artifacts that are listed. Anything that can be told from
the identity alone can be told from the register. -/
theorem map_of_register {β : Type} {part : Identity → β} {look : Entity → β}
    (hlook : ∀ entity, look entity = part entity.identity)
    (h : listed.map Entity.identity = store.identities kind) :
    listed.map look = (store.register kind).map fun entry => part entry.2 := by
  have hpart := congrArg (List.map part) h
  rw [Store.identities, List.map_map, List.map_map] at hpart
  rw [← List.map_congr_left fun entity _ => (hlook entity).symm]
  exact hpart

/-- **The register tells** which artifacts were created. An artifact that is listed has an entry
there, entries are only ever added, and each creation has added its own. -/
theorem Created.of_register (hrun : (Store.initial users prompts).FreshRun steps)
    (h : listed.map Entity.identity =
      ((Store.initial users prompts).run steps).identities kind) :
    Created kind ((Store.initial users prompts).creationsOf kind steps) listed := by
  have hnumbered := ((Store.Reachable.initial users prompts).run hrun).numbered kind
  have hmade := h
  rw [Store.identities, Store.register_run_initial hrun, newEntries, List.map_map] at hmade
  refine ⟨hmade, fun entity hentity => ?_, ?_, ?_⟩
  · have hidentity : entity.identity ∈ listed.map Entity.identity := List.mem_map_of_mem hentity
    rw [hmade] at hidentity
    obtain ⟨artifact, hartifact, hsame⟩ := List.mem_map.1 hidentity
    -- its identity is that of something created of this kind, and an identity has its kind in it
    have hkind := (List.mem_filter.1 hartifact).2
    rw [beq_iff_eq] at hkind
    rw [← hkind, ← entity.identity_kind, ← hsame]
    rfl
  · rw [map_of_register (fun entity => entity.identity_id.symm) h,
      List.map_congr_left hnumbered.filed]
    exact hnumbered.distinct
  · rw [map_of_register (fun entity => entity.identity_reference.symm) h, hnumbered.references,
      Store.issued_run_initial]

end Created

/-! ## The addresses of a listing -/

theorem parse_uri_ofCollection (hkind : kind ∈ Kind.resources) :
    ResourceUri.parse (Descriptor.ofCollection kind).uri = .ok (.collection kind) :=
  ResourceUri.parse_eq_ok_iff.2 (.collection hkind)

theorem parse_uri_ofEntity {entity : Entity}
    (hreference : Reference.isReference entity.reference = true) :
    ResourceUri.parse (Descriptor.ofEntity entity).uri =
      .ok (.artifact entity.kind (.byReference entity.reference)) :=
  ResourceUri.parse_eq_ok_iff.2 (.artifact entity.kind_mem_resources (.byReference hreference))

variable {listed : Kind → List Entity}

/-- What is read of the addresses in a listing. To compare what was read is easier than to compare
texts, since a kind and a reference stand apart in it. -/
theorem map_parse_uri (h : ∀ kind ∈ Kind.resources, ∃ made, Created kind made (listed kind)) :
    (descriptors listed).map (fun descriptor => ResourceUri.parse descriptor.uri) =
      Kind.resources.map (fun kind => .ok (.collection kind)) ++
        Kind.resources.flatMap fun kind => ((listed kind).map Entity.reference).map fun reference =>
          .ok (.artifact kind (.byReference reference)) := by
  rw [descriptors, List.map_append, List.map_map, List.map_flatMap]
  refine congr (congrArg _ (List.map_congr_left fun kind hkind => ?_)) ?_
  · exact parse_uri_ofCollection hkind
  · refine List.flatMap_congr fun kind hkind => ?_
    obtain ⟨made, hcreated⟩ := h kind hkind
    rw [List.map_map, List.map_map]
    refine List.map_congr_left fun entity hentity => ?_
    have hreference : entity.reference ∈ (listed kind).map Entity.reference :=
      List.mem_map_of_mem hentity
    rw [hcreated.references] at hreference
    obtain ⟨n, -, hn⟩ := Reference.mem_firsts_iff.1 hreference
    have hread : Reference.isReference entity.reference = true := by
      rw [hn]
      exact Reference.isReference_ofNumber _ _
    have hparsed := parse_uri_ofEntity hread
    rw [hcreated.kinds entity hentity] at hparsed
    exact hparsed

/-- **No two addresses in a listing are the same**, since they are read as different ones. It is
enough that the reader is a function; that it inverts the printer is not needed here. -/
theorem nodup_uris (h : ∀ kind ∈ Kind.resources, ∃ made, Created kind made (listed kind)) :
    ((descriptors listed).map Descriptor.uri).Nodup := by
  refine List.Nodup.of_map ResourceUri.parse ?_
  rw [List.map_map]
  change ((descriptors listed).map fun descriptor => ResourceUri.parse descriptor.uri).Nodup
  rw [map_parse_uri h]
  have hresources : Kind.resources.Nodup := by decide
  -- collections among themselves, artifacts of one kind, those of two kinds, and one with the other
  refine List.Nodup.append (hresources.map fun a b hab => ?_) (List.nodup_flatMap.2 ⟨?_, ?_⟩) ?_
  · cases hab
    rfl
  · intro kind hkind
    obtain ⟨made, hcreated⟩ := h kind hkind
    have hreferences : ((listed kind).map Entity.reference).Nodup := by
      rw [hcreated.references]
      exact Reference.nodup_firsts _ _
    refine hreferences.map fun a b hab => ?_
    cases hab
    rfl
  · refine hresources.imp fun {a b} hab => ?_
    intro parsed ha hb
    obtain ⟨reference, -, rfl⟩ := List.mem_map.1 ha
    obtain ⟨other, -, hsame⟩ := List.mem_map.1 hb
    cases hsame
    exact hab rfl
  · intro parsed hcollection hartifact
    obtain ⟨kind, -, rfl⟩ := List.mem_map.1 hcollection
    obtain ⟨other, -, hsame⟩ := List.mem_flatMap.1 hartifact
    obtain ⟨reference, -, hsame⟩ := List.mem_map.1 hsame
    cases hsame

/-! ## A complete listing -/

/-- **Is the listing of a store complete?** `made` is what was created in it of each kind. The
fields say that nothing is left out, nothing is told twice and nothing is listed that cannot be
read. -/
structure Complete (store : Store) (made : Kind → List Artifact) : Prop where
  /-- The listing comes to an end, and tells of the artifacts of the store. -/
  gives : list.Gives store (.ok (descriptors store.artifacts))
  /-- It does not matter in which order they are kept. -/
  anyOrder : ∀ other : Store,
    (∀ kind ∈ Kind.resources, (other.shelf kind).entries.Perm (store.shelf kind).entries) →
    list.Gives other (.ok (descriptors store.artifacts))
  /-- They are all that is kept of each kind. -/
  shelved : ∀ kind ∈ Kind.resources,
    (store.artifacts kind).map Artifact.entity = (store.shelf kind).values
  /-- They come in the order in which they were created. -/
  created : ∀ kind ∈ Kind.resources, Created kind (made kind) (store.artifacts kind)
  /-- No two addresses are the same. -/
  distinct : ((descriptors store.artifacts).map Descriptor.uri).Nodup
  /-- Under each of the addresses something is read. -/
  readable : ∀ descriptor ∈ descriptors store.artifacts,
    ∃ contents, (read descriptor.uri).Gives store (.ok contents)
  /-- Under the address of an artifact this very artifact is read. -/
  told : ∀ kind ∈ Kind.resources, ∀ entity ∈ store.artifacts kind,
    (read (Descriptor.ofEntity entity).uri).Gives store (.ok (.ofEntity entity))

/-- **What is listed of a kind** that is not too large, in whatever order its records are kept. The
listing sorts by reference, and references are all different, so the order of the records cannot be
seen. -/
theorem entities_of_perm (hkind : kind ∈ Kind.resources) (hnumbered : store.Numbered kind)
    (hcount : (store.shelf kind).values.length ≤ maxListed)
    (hperm : (other.shelf kind).entries.Perm (store.shelf kind).entries) :
    other.entities kind = .ok (store.artifacts kind) ∧
      (store.artifacts kind).length ≤ maxListed := by
  have hbound : maxListed ≤ Reference.maxNumber := by decide
  have hissued : store.issued.get kind ≤ Reference.maxNumber := by
    rw [← hnumbered.length_values]
    exact Nat.le_trans hcount hbound
  rw [← store.map_artifacts hkind, List.length_map] at hcount
  exact ⟨hnumbered.entities_of_perm hkind hissued hperm, hcount⟩

/-- The address of an artifact in a listing is one of its own. -/
theorem read_uri_ofEntity {entity : Entity} (hstore : Store.Reachable store)
    (hentity : entity ∈ store.artifacts kind) :
    (read (Descriptor.ofEntity entity).uri).Gives store (.ok (.ofEntity entity)) := by
  rw [Store.mem_artifacts_iff] at hentity
  obtain rfl := (Artifact.kind_entity entity).symm.trans (store.kind_of_mem_values hentity)
  exact read_gives hstore hentity (.external .byReference)

/-- **All artifacts are listed.** After any run from the beginning in which fewer artifacts of each
kind were created than can be listed, the listing comes to an end. It has the collections, and then,
kind by kind, the artifacts of the store in the order in which they were created, each of them once,
however many pages they fill. No two addresses in it are the same, each of them can be read, and what
is read under that of an artifact is this artifact. -/
theorem list_complete (users : List User) (prompts : List Prompt) {steps : List Step}
    (hrun : (Store.initial users prompts).FreshRun steps)
    (hcount : ∀ kind ∈ Kind.resources,
      (((Store.initial users prompts).run steps).shelf kind).values.length <
        Nat.pow 2 32 - pageSize) :
    Complete ((Store.initial users prompts).run steps) fun kind =>
      (Store.initial users prompts).creationsOf kind steps := by
  have hstore := (Store.Reachable.initial users prompts).run hrun
  generalize hlast : (Store.initial users prompts).run steps = store at hstore hcount ⊢
  have hbound : Nat.pow 2 32 - pageSize ≤ maxListed := by decide
  have hentities : ∀ other : Store,
      (∀ kind ∈ Kind.resources, (other.shelf kind).entries.Perm (store.shelf kind).entries) →
      ∀ kind ∈ Kind.resources, other.entities kind = .ok (store.artifacts kind) ∧
        (store.artifacts kind).length ≤ maxListed := fun other hperm kind hkind =>
    entities_of_perm hkind (hstore.numbered kind)
      (Nat.le_of_lt (Nat.lt_of_lt_of_le (hcount kind hkind) hbound)) (hperm kind hkind)
  have hcreated : ∀ kind ∈ Kind.resources,
      Created kind ((Store.initial users prompts).creationsOf kind steps)
        (store.artifacts kind) := by
    intro kind hkind
    subst hlast
    exact .of_register hrun (Store.map_identity_artifacts hkind _)
  refine
    { gives := list_gives (hentities store fun _ _ => .refl _)
      anyOrder := fun other hperm => list_gives (hentities other hperm)
      shelved := fun kind hkind => store.map_artifacts hkind
      created := hcreated
      distinct := nodup_uris fun kind hkind => ⟨_, hcreated kind hkind⟩
      readable := fun descriptor hdescriptor => ?_
      told := fun kind _ entity hentity => read_uri_ofEntity hstore hentity }
  -- an address in the listing is that of a collection or that of an artifact, and each can be read
  rcases List.mem_append.1 hdescriptor with hcollection | hartifact
  · obtain ⟨kind, hkind, rfl⟩ := List.mem_map.1 hcollection
    obtain ⟨entities, -, hread⟩ := read_collection hkind store (.collection hkind)
    exact ⟨_, hread⟩
  · obtain ⟨kind, -, hdescriptor⟩ := List.mem_flatMap.1 hartifact
    obtain ⟨entity, hentity, rfl⟩ := List.mem_map.1 hdescriptor
    exact ⟨_, read_uri_ofEntity hstore hentity⟩

/-- The listing after two epics were created: four collections, and the epics in the order of their
numbers. -/
theorem list_complete_two :
    let store := (Store.initial [] []).run Store.twoEpics
    (descriptors store.artifacts).map Descriptor.uri =
        ["requirements://epics", "requirements://user-stories",
          "requirements://acceptance-criteria", "requirements://requirements",
          "requirements://epics/EP-001", "requirements://epics/EP-002"] ∧
      list.Gives store (.ok (descriptors store.artifacts)) := by
  have hfresh : (Store.initial [] []).FreshRun Store.twoEpics := by decide +kernel
  refine ⟨by decide +kernel, (list_complete [] [] hfresh ?_).gives⟩
  decide +kernel

end Planroom.Resource
