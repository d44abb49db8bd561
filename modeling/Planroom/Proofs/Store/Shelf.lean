import Planroom.Proofs.Keys
import Planroom.Store.Access

/-!
# Shelves

The store keeps each kind of artifact in a table of its own. Most of what is true of one of these
tables is true of all, and is said once, of the **shelf** of a kind.

* **Artifact** — a record of any kind. Its `Identity` is the part of it that no change touches.
* **Shelf** — `Store.shelf` is the table of a kind, with its records taken as artifacts.
* **Filing** — `Store.file` files an artifact where its kind belongs (`shelf_file`), and touches
  nothing else.
* **Finding** — `Store.fetch` finds an artifact of any kind, and is a look-up on a shelf
  (`fetch_eq`).
-/

namespace Planroom

/-! ## Artifacts of any kind -/

/-- **What never changes of an artifact**: what it is, who made it and when, and where it belongs.
The title, the texts, the state and the assignee are left out, and so is the time of the last
change. -/
structure Identity where
  kind : Kind
  id : Uuid
  reference : String
  parent : Option Uuid
  criteria : Option Uuid
  type : Option RequirementType
  creator : Uuid
  createdAt : Timestamp
  deriving DecidableEq, Repr

/-- The identity of an artifact that has a card and belongs to `parent`. -/
def Card.identity (card : Card) (kind : Kind) (parent : Option Uuid) : Identity :=
  { kind := kind
    id := card.id
    reference := card.reference
    parent := parent
    criteria := none
    type := none
    creator := card.creator
    createdAt := card.createdAt }

namespace Entity

/-- The identity of an artifact of the hierarchy. Acceptance criteria have no card, and their author
is their creator. -/
def identity : Entity → Identity
  | .epic e => e.card.identity .epic none
  | .story s => s.card.identity .userStory s.epic
  | .criteria c =>
    { kind := .acceptanceCriteria
      id := c.id
      reference := c.reference
      parent := c.story
      criteria := none
      type := none
      creator := c.author
      createdAt := c.createdAt }
  | .requirement r =>
    { r.card.identity .requirement r.story with criteria := r.criteria, type := some r.type }

/-- Whom an artifact is assigned to. Acceptance criteria are assigned to nobody. -/
def assignee : Entity → Option Uuid
  | .epic e => e.card.assignee
  | .story s => s.card.assignee
  | .criteria _ => none
  | .requirement r => r.card.assignee

/-- The identity of an artifact says of what kind it is, and so it does of its identifier and its
reference. -/
@[simp] theorem identity_kind (entity : Entity) : entity.identity.kind = entity.kind := by
  cases entity <;> rfl

@[simp] theorem identity_id (entity : Entity) : entity.identity.id = entity.id := by
  cases entity <;> rfl

@[simp] theorem identity_reference (entity : Entity) :
    entity.identity.reference = entity.reference := by
  cases entity <;> rfl

/-- What has the same identity has the same identifier. -/
theorem id_of_identity {first second : Entity} (h : first.identity = second.identity) :
    first.id = second.id := by
  rw [← identity_id, h, identity_id]

/-- And it has the same reference. -/
theorem reference_of_identity {first second : Entity} (h : first.identity = second.identity) :
    first.reference = second.reference := by
  rw [← identity_reference, h, identity_reference]

end Entity

/-- The identity of a steering document. -/
def SteeringDocument.identity (document : SteeringDocument) : Identity :=
  { kind := .steeringDocument
    id := document.id
    reference := document.reference
    parent := none
    criteria := none
    type := none
    creator := document.creator
    createdAt := document.createdAt }

/-- **An artifact**, of the hierarchy or beside it. With one type for all of them, what is true of
the five tables can be said once. -/
inductive Artifact where
  | entity (value : Entity)
  | document (value : SteeringDocument)
  deriving DecidableEq, Repr

namespace Artifact

/-- The identity of an artifact. -/
def identity : Artifact → Identity
  | .entity e => e.identity
  | .document d => d.identity

/-- The kind of an artifact. -/
def kind (artifact : Artifact) : Kind :=
  artifact.identity.kind

/-- The identifier of an artifact. -/
def id (artifact : Artifact) : Uuid :=
  artifact.identity.id

/-- The reference of an artifact. -/
def reference (artifact : Artifact) : String :=
  artifact.identity.reference

instance : Referenced Artifact := ⟨reference⟩

@[simp] theorem kind_entity (entity : Entity) : (Artifact.entity entity).kind = entity.kind :=
  entity.identity_kind

@[simp] theorem kind_document (document : SteeringDocument) :
    (Artifact.document document).kind = .steeringDocument := rfl

/-- What has the same identity is of the same kind. -/
theorem kind_of_identity {a b : Artifact} (h : a.identity = b.identity) : a.kind = b.kind :=
  congrArg Identity.kind h

end Artifact

/-! ## Tables with their records taken as others -/

namespace Table

variable {α β : Type}

/-- The table with every record taken as another. The identifiers under which they are filed stay.
-/
def map (f : α → β) (table : Table α) : Table β :=
  ⟨table.entries.map fun entry => (entry.1, f entry.2)⟩

/-- A look-up in a table that is taken as another finds the same record, taken as another. -/
theorem get?_map (f : α → β) (table : Table α) (id : Uuid) :
    (table.map f).get? id = (table.get? id).map f := by
  obtain ⟨entries⟩ := table
  simp only [get?, map, List.find?_map, Option.map_map]
  rfl

/-- Filing and taking a table as another one may be done in either order. -/
theorem map_insert (f : α → β) (table : Table α) (id : Uuid) (value : α) :
    (table.insert id value).map f = (table.map f).insert id (f value) := by
  obtain ⟨entries⟩ := table
  simp only [insert, map, mk.injEq]
  induction entries with
  | nil => rfl
  | cons entry rest ih =>
    by_cases h : entry.1 = id
    · simp [insertEntry, h]
    · simp [insertEntry, h, ih]

/-- Where nothing is under an identifier, a record comes after all others. So the order of the
entries is that of their first filing. -/
theorem entries_insert_of_none {table : Table α} {id : Uuid} {value : α}
    (h : table.get? id = none) :
    (table.insert id value).entries = table.entries ++ [(id, value)] := by
  obtain ⟨entries⟩ := table
  simp only [get?, insert, Option.map_eq_none_iff] at h ⊢
  induction entries with
  | nil => rfl
  | cons entry rest ih =>
    rw [List.find?_cons] at h
    split at h
    · cases h
    · next hne =>
      rw [insertEntry, if_neg (by simpa using hne), ih h]
      rfl

/-- Where no identifier comes twice, a record takes the place of the one that is under its identifier,
and all others stay where they are. -/
theorem entries_insert_of_found {table : Table α} (hids : (table.entries.map (·.1)).Nodup) {id : Uuid}
    {old new : α} (h : table.get? id = some old) :
    (table.insert id new).entries =
      table.entries.map fun entry => if entry.1 = id then (id, new) else entry := by
  obtain ⟨entries⟩ := table
  simp only [get?, insert, Option.map_eq_some_iff] at h hids ⊢
  obtain ⟨found, hfound, rfl⟩ := h
  induction entries with
  | nil => cases hfound
  | cons entry rest ih =>
    rw [List.map_cons, List.nodup_cons] at hids
    rw [insertEntry, List.map_cons]
    by_cases hfirst : entry.1 = id
    · -- the identifier does not come again
      have hrest : ∀ other ∈ rest, ¬ other.1 = id := by
        rintro other hother rfl
        exact hids.1 (hfirst ▸ List.mem_map_of_mem hother)
      rw [if_pos hfirst, if_pos hfirst,
        List.map_congr_left fun other hother => if_neg (hrest other hother), List.map_id']
    · rw [List.find?_cons, beq_eq_false_iff_ne.2 hfirst] at hfound
      rw [if_neg hfirst, if_neg hfirst, ih hids.2 hfound]

/-- A record that looks the same as the one in its place changes nothing about how the table looks.
With identities as the look, this is why a register does not see an update. -/
theorem map_entries_insert {γ : Type} {look : Uuid × α → γ} {table : Table α} {id : Uuid}
    {old new : α} (h : table.get? id = some old) (hlook : look (id, new) = look (id, old)) :
    (table.insert id new).entries.map look = table.entries.map look := by
  obtain ⟨entries⟩ := table
  simp only [get?, insert, Option.map_eq_some_iff] at h ⊢
  obtain ⟨found, hfound, rfl⟩ := h
  -- both the search and the filing stop at the first entry under the identifier
  induction entries with
  | nil => cases hfound
  | cons entry rest ih =>
    rw [List.find?_cons] at hfound
    split at hfound
    · next heq =>
      cases hfound
      rw [beq_iff_eq] at heq
      subst heq
      rw [insertEntry, if_pos rfl, List.map_cons, List.map_cons, hlook]
    · next hne =>
      rw [insertEntry, if_neg (by simpa using hne), List.map_cons, List.map_cons, ih hfound]

/-- What is found is filed. -/
theorem mem_of_get? {table : Table α} {id : Uuid} {value : α} (h : table.get? id = some value) :
    (id, value) ∈ table.entries := by
  obtain ⟨entry, hentry, rfl⟩ := Option.map_eq_some_iff.1 h
  obtain ⟨hmem, rfl⟩ := of_find?_key hentry
  exact hmem

/-- An identifier under which nothing is found is the identifier of no entry. -/
theorem not_mem_of_get?_none {table : Table α} {id : Uuid} (h : table.get? id = none) :
    id ∉ table.entries.map (·.1) := by
  intro hmem
  obtain ⟨entry, hentry, rfl⟩ := List.mem_map.1 hmem
  rw [get?, Option.map_eq_none_iff, List.find?_eq_none] at h
  exact h entry hentry (beq_self_eq_true entry.1)

/-- Records are found as before, if they keep their references. -/
theorem find?_map [Referenced α] [Referenced β] (f : α → β)
    (hf : ∀ a, Referenced.reference (f a) = Referenced.reference a) (table : Table α)
    (lookup : Lookup) : (table.map f).find? lookup = (table.find? lookup).map f := by
  cases lookup with
  | byId id => exact get?_map f table id
  | byReference reference =>
    have hvalues : (table.map f).values = table.values.map f := by
      simp only [values, map, List.map_map]
      rfl
    simp only [find?, hvalues, List.find?_map]
    have hsame : ((fun b : β => Referenced.reference b == reference) ∘ f) =
        fun a : α => Referenced.reference a == reference := by
      funext a
      simp only [Function.comp_apply, hf]
    rw [hsame]

end Table

/-! ## Shelves -/

namespace Store

/-- **The shelf of a kind.** It is a way of looking at one of the tables, and not another copy of
it. -/
def shelf (store : Store) : Kind → Table Artifact
  | .epic => store.epics.map fun e => .entity (.epic e)
  | .userStory => store.stories.map fun s => .entity (.story s)
  | .acceptanceCriteria => store.criteria.map fun c => .entity (.criteria c)
  | .requirement => store.requirements.map fun r => .entity (.requirement r)
  | .steeringDocument => store.documents.map .document

/-- **File an artifact** where its kind belongs. The operations file in their own tables; each of
them can be said with this one function. -/
def file (store : Store) (id : Uuid) : Artifact → Store
  | .entity (.epic e) => { store with epics := store.epics.insert id e }
  | .entity (.story s) => { store with stories := store.stories.insert id s }
  | .entity (.criteria c) => { store with criteria := store.criteria.insert id c }
  | .entity (.requirement r) => { store with requirements := store.requirements.insert id r }
  | .document d => { store with documents := store.documents.insert id d }

variable (store : Store) (id : Uuid) (artifact : Artifact)

/-- **Filing** puts an artifact on the shelf of its kind and leaves the others alone. Later proofs
know of filing no more than this. -/
theorem shelf_file (kind : Kind) :
    (store.file id artifact).shelf kind =
      if artifact.kind = kind then (store.shelf kind).insert id artifact
      else store.shelf kind := by
  by_cases h : artifact.kind = kind
  · subst h
    rw [if_pos rfl]
    rcases artifact with (e | s | c | r) | d
    · exact Table.map_insert (fun e => Artifact.entity (.epic e)) store.epics id e
    · exact Table.map_insert (fun s => Artifact.entity (.story s)) store.stories id s
    · exact Table.map_insert (fun c => Artifact.entity (.criteria c)) store.criteria id c
    · exact Table.map_insert (fun r => Artifact.entity (.requirement r)) store.requirements id r
    · exact Table.map_insert Artifact.document store.documents id d
  · rw [if_neg h]
    rcases artifact with (e | s | c | r) | d <;> cases kind <;>
      first
      | rfl
      | exact absurd rfl h

/-- Filing leaves alone everything but the tables: this and the following lemmas say so for each
part of a store. -/
@[simp] theorem file_relationships :
    (store.file id artifact).relationships = store.relationships := by
  rcases artifact with (e | s | c | r) | d <;> rfl

@[simp] theorem file_links : (store.file id artifact).links = store.links := by
  rcases artifact with (e | s | c | r) | d <;> rfl

@[simp] theorem file_comments : (store.file id artifact).comments = store.comments := by
  rcases artifact with (e | s | c | r) | d <;> rfl

@[simp] theorem file_issued : (store.file id artifact).issued = store.issued := by
  rcases artifact with (e | s | c | r) | d <;> rfl

@[simp] theorem file_users : (store.file id artifact).users = store.users := by
  rcases artifact with (e | s | c | r) | d <;> rfl

@[simp] theorem file_prompts : (store.file id artifact).prompts = store.prompts := by
  rcases artifact with (e | s | c | r) | d <;> rfl

/-- The shelves of a store depend on nothing but its five tables. -/
theorem shelf_congr {store other : Store} (hepics : other.epics = store.epics)
    (hstories : other.stories = store.stories) (hcriteria : other.criteria = store.criteria)
    (hrequirements : other.requirements = store.requirements)
    (hdocuments : other.documents = store.documents) : other.shelf = store.shelf := by
  funext kind
  cases kind with
  | epic => simp only [shelf, hepics]
  | userStory => simp only [shelf, hstories]
  | acceptanceCriteria => simp only [shelf, hcriteria]
  | requirement => simp only [shelf, hrequirements]
  | steeringDocument => simp only [shelf, hdocuments]

/-- What else a store keeps has nothing to do with its shelves. There is one lemma for each part of
it that an effect can change. -/
@[simp] theorem shelf_with_comments (comments : List Comment) :
    ({ store with comments := comments } : Store).shelf = store.shelf :=
  shelf_congr rfl rfl rfl rfl rfl

@[simp] theorem shelf_with_relationships (relationships : List Relationship) :
    ({ store with relationships := relationships } : Store).shelf = store.shelf :=
  shelf_congr rfl rfl rfl rfl rfl

@[simp] theorem shelf_with_links (links : List Link) :
    ({ store with links := links } : Store).shelf = store.shelf :=
  shelf_congr rfl rfl rfl rfl rfl

@[simp] theorem shelf_with_issued (issued : Counters) :
    ({ store with issued := issued } : Store).shelf = store.shelf :=
  shelf_congr rfl rfl rfl rfl rfl

/-- Of what is filed, exactly one record is different afterwards: that of its kind and under its
identifier. -/
theorem get?_shelf_file (kind : Kind) (other : Uuid) :
    ((store.file id artifact).shelf kind).get? other =
      if artifact.kind = kind ∧ id = other then some artifact
      else (store.shelf kind).get? other := by
  rw [shelf_file]
  by_cases hkind : artifact.kind = kind
  · rw [if_pos hkind, Table.get?_insert]
    simp only [hkind, true_and]
  · rw [if_neg hkind, if_neg fun h => hkind h.1]

/-- Everything on a shelf is of its kind. -/
theorem kind_of_mem_shelf {kind : Kind} {entry : Uuid × Artifact}
    (h : entry ∈ (store.shelf kind).entries) : entry.2.kind = kind := by
  cases kind <;>
  · obtain ⟨record, -, rfl⟩ := List.mem_map.1 h
    rfl

/-- Every artifact on a shelf is of the kind of the shelf. -/
theorem kind_of_mem_values {kind : Kind} {artifact : Artifact}
    (h : artifact ∈ (store.shelf kind).values) : artifact.kind = kind := by
  obtain ⟨entry, hentry, rfl⟩ := List.mem_map.1 h
  exact kind_of_mem_shelf store hentry

/-! ## Finding -/

/-- **Find an artifact of any kind**, where such artifacts are found. Steering documents are found
by a function of their own, and all others by a common one. -/
def fetch (store : Store) (kind : Kind) (lookup : Lookup) : Except Failure Artifact :=
  match kind with
  | .steeringDocument => (store.findDocument lookup).map .document
  | kind => (store.findEntity kind lookup).map .entity

/-- **Finding is looking on the shelf.** What is not there is missed under the text that was looked
for. -/
theorem fetch_eq (kind : Kind) (lookup : Lookup) :
    store.fetch kind lookup =
      match (store.shelf kind).find? lookup with
      | some artifact => .ok artifact
      | none => .error (.missing kind lookup.text) := by
  cases kind with
  | epic =>
    simp only [fetch, findEntity, shelf]
    rw [Table.find?_map (fun e : Epic => Artifact.entity (.epic e)) fun _ => rfl]
    cases store.epics.find? lookup <;> rfl
  | userStory =>
    simp only [fetch, findEntity, shelf]
    rw [Table.find?_map (fun s : UserStory => Artifact.entity (.story s)) fun _ => rfl]
    cases store.stories.find? lookup <;> rfl
  | acceptanceCriteria =>
    simp only [fetch, findEntity, shelf]
    rw [Table.find?_map (fun c : Criteria => Artifact.entity (.criteria c)) fun _ => rfl]
    cases store.criteria.find? lookup <;> rfl
  | requirement =>
    simp only [fetch, findEntity, shelf]
    rw [Table.find?_map (fun r : Requirement => Artifact.entity (.requirement r)) fun _ => rfl]
    cases store.requirements.find? lookup <;> rfl
  | steeringDocument =>
    simp only [fetch, findDocument, shelf]
    rw [Table.find?_map Artifact.document fun _ => rfl]
    cases store.documents.find? lookup <;> rfl

variable {store}

/-- An artifact is found exactly if it is on the shelf for this look-up. -/
theorem fetch_eq_ok_iff {kind : Kind} {lookup : Lookup} {artifact : Artifact} :
    store.fetch kind lookup = .ok artifact ↔ (store.shelf kind).find? lookup = some artifact := by
  rw [fetch_eq]
  cases (store.shelf kind).find? lookup with
  | none => exact ⟨nofun, nofun⟩
  | some found => exact ⟨fun h => by cases h; rfl, fun h => by cases h; rfl⟩

/-- What is found on a shelf of the hierarchy. There is no such look-up for steering documents, and
what is on another shelf is an artifact of the hierarchy. -/
theorem findEntity_eq_ok_iff {kind : Kind} {lookup : Lookup} {entity : Entity} :
    store.findEntity kind lookup = .ok entity ↔
      (store.shelf kind).find? lookup = some (.entity entity) := by
  rw [← fetch_eq_ok_iff]
  cases kind with
  | steeringDocument =>
    refine ⟨nofun, fun h => ?_⟩
    rw [fetch] at h
    cases hd : store.findDocument lookup <;> rw [hd] at h <;> cases h
  | _ =>
    simp only [fetch]
    cases store.findEntity _ lookup with
    | error failure => exact ⟨nofun, nofun⟩
    | ok found => exact ⟨fun h => by cases h; rfl, fun h => by cases h; rfl⟩

/-- What is found on the shelf of the steering documents. -/
theorem findDocument_eq_ok_iff {lookup : Lookup} {document : SteeringDocument} :
    store.findDocument lookup = .ok document ↔
      (store.shelf .steeringDocument).find? lookup = some (.document document) := by
  rw [← fetch_eq_ok_iff, fetch]
  cases store.findDocument lookup with
  | error failure => exact ⟨nofun, nofun⟩
  | ok found => exact ⟨fun h => by cases h; rfl, fun h => by cases h; rfl⟩

/-- What is found among the comments is the first one of its identifier. -/
theorem findComment_eq_ok_iff {id : Uuid} {comment : Comment} :
    store.findComment id = .ok comment ↔
      store.comments.find? (·.id == id) = some comment := by
  rw [findComment]
  cases store.comments.find? (·.id == id) with
  | none => exact ⟨nofun, nofun⟩
  | some found => exact ⟨fun h => by cases h; rfl, fun h => by cases h; rfl⟩

/-- An artifact of the hierarchy is not found among the steering documents, as these are not found
in this way. -/
theorem kind_ne_of_findEntity {kind : Kind} {lookup : Lookup} {entity : Entity}
    (h : store.findEntity kind lookup = .ok entity) : kind ≠ .steeringDocument := by
  rintro rfl
  cases h

/-- What is found among the artifacts of a kind is of this kind. -/
theorem kind_of_findEntity {kind : Kind} {id : Uuid} {entity : Entity}
    (h : store.findEntity kind (.byId id) = .ok entity) : entity.kind = kind := by
  rw [← Artifact.kind_entity]
  exact kind_of_mem_shelf store (Table.mem_of_get? (findEntity_eq_ok_iff.1 h))

/-- An artifact of the hierarchy that is filed in place of one with the same identity is found where
that one was. -/
theorem findEntity_file {kind : Kind} {id : Uuid} {old new : Entity}
    (hfound : store.findEntity kind (.byId id) = .ok old)
    (hidentity : new.identity = old.identity) :
    (store.file id (.entity new)).findEntity kind (.byId id) = .ok new := by
  have hkind := congrArg Identity.kind hidentity
  rw [Entity.identity_kind, Entity.identity_kind, kind_of_findEntity hfound] at hkind
  rw [findEntity_eq_ok_iff, Table.find?, get?_shelf_file, Artifact.kind_entity,
    if_pos ⟨hkind, rfl⟩]

/-- Looking up in the hierarchy depends on the shelves alone, and so what changes in a store beside
them does not matter. -/
theorem findEntity_congr {other : Store} (h : other.shelf = store.shelf) {kind : Kind}
    {lookup : Lookup} {entity : Entity} :
    other.findEntity kind lookup = .ok entity ↔ store.findEntity kind lookup = .ok entity := by
  rw [findEntity_eq_ok_iff, findEntity_eq_ok_iff, h]

end Store

end Planroom
