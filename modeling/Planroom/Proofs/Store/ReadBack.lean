import Planroom.Proofs.Store.Changes
import Planroom.Proofs.Store.Identifiers

/-!
# Reading what was written

What an access answers that creates or changes an artifact is what is found afterwards, and it was made
as the access says.

* **Made** — `Access.FulfilledBy`: what is kept of a draft, and how something new begins.
* **Changed** — what an artifact was before, and what has become of it.
* **Read back** — `Reachable.gets_written`: it is got under its identifier and under its reference.
-/

namespace Planroom

/-- **The artifact that an access answers with** when it creates or changes one. Comments, links and
relationships are no artifacts. -/
def Access.written? : (access : Access) → access.Result → Option Artifact
  | .updateEntity .., entity => some (.entity entity)
  | .updateDocument .., document => some (.document document)
  | access, result => access.created? result

/-- **What is kept of the draft of a card.** Only its two texts may be kept otherwise than they were
given. -/
structure CardDraft.KeptAs (draft : CardDraft) (card : Card) : Prop where
  title : KeptTitle draft.title card.title
  description : Altered KeptDescription none draft.description card.description
  priority : card.priority = draft.priority
  creator : card.creator = draft.creator
  assignee : card.assignee = draft.assignee

/-- **Is it made as the access says?** An epic and a user story begin in the backlog, and a
requirement as a draft. Of a change it is said elsewhere, since one has to know what was there
before. -/
def Access.FulfilledBy : (access : Access) → access.Result → Prop
  | .createEpic draft, epic => draft.KeptAs epic.card ∧ epic.status = .backlog
  | .createStory epic draft, story =>
    draft.KeptAs story.card ∧ story.epic = epic ∧ story.status = .backlog
  | .createCriteria story description author, criteria =>
    criteria.story = story ∧ criteria.description = description ∧ criteria.author = author
  | .createRequirement draft, requirement =>
    draft.card.KeptAs requirement.card ∧ requirement.story = draft.story ∧
      requirement.criteria = draft.criteria ∧ requirement.type = draft.type ∧
      requirement.status = .draft
  | .createDocument title description creator, document =>
    KeptTitle title document.title ∧ Altered KeptDescription none description document.description ∧
      document.creator = creator
  | _, _ => True

namespace Store

variable {store after : Store} {stamp : Stamp} {id : Uuid} {artifact : Artifact}

/-! ## Made -/

/-- A description that is kept. -/
theorem description_altered {given kept : Option String} (h : Rules.description given = .ok kept) :
    Altered KeptDescription none given kept :=
  altered_of_ok h rfl fun _ => Rules.description_kept

/-- A draft is kept in the card that it becomes. -/
theorem keptAs_toCard {draft : CardDraft} {reference title : String} {description : Option String}
    (htitle : Rules.title draft.title = .ok title)
    (hdescription : Rules.description draft.description = .ok description) :
    draft.KeptAs (draft.toCard stamp reference title description) :=
  ⟨Rules.title_kept htitle, description_altered hdescription, rfl, rfl, rfl⟩

/-- An epic that is created is made as its draft says. -/
theorem fulfilledBy_createEpic {draft : CardDraft} {epic : Epic}
    (h : store.createEpic stamp draft = .ok (epic, after)) :
    (Access.createEpic draft).FulfilledBy epic := by
  obtain ⟨title, htitle, h⟩ := ok_of_bind h
  obtain ⟨description, hdescription, h⟩ := ok_of_bind h
  obtain ⟨_, -, h⟩ := ok_of_bind h
  cases h
  exact ⟨keptAs_toCard htitle hdescription, rfl⟩

/-- A user story that is created is made as its draft says, and belongs to the epic. -/
theorem fulfilledBy_createStory {epic : Uuid} {draft : CardDraft} {story : UserStory}
    (h : store.createStory stamp epic draft = .ok (story, after)) :
    (Access.createStory epic draft).FulfilledBy story := by
  obtain ⟨title, htitle, h⟩ := ok_of_bind h
  obtain ⟨description, hdescription, h⟩ := ok_of_bind h
  obtain ⟨_, -, h⟩ := ok_of_bind h
  obtain ⟨_, -, h⟩ := ok_of_bind h
  cases h
  exact ⟨keptAs_toCard htitle hdescription, rfl, rfl⟩

/-- Acceptance criteria that are created have the description and the author that are given. -/
theorem fulfilledBy_createCriteria {story author : Uuid} {description : String} {criteria : Criteria}
    (h : store.createCriteria stamp story description author = .ok (criteria, after)) :
    (Access.createCriteria story description author).FulfilledBy criteria := by
  obtain ⟨kept, hkept, h⟩ := ok_of_bind h
  obtain ⟨_, -, h⟩ := ok_of_bind h
  cases h
  exact ⟨rfl, (Option.some.inj (Rules.requiredDescription_kept hkept).1).symm, rfl⟩

/-- A requirement that is created is made as its draft says. -/
theorem fulfilledBy_createRequirement {draft : RequirementDraft} {requirement : Requirement}
    (h : store.createRequirement stamp draft = .ok (requirement, after)) :
    (Access.createRequirement draft).FulfilledBy requirement := by
  obtain ⟨title, htitle, h⟩ := ok_of_bind h
  obtain ⟨description, hdescription, h⟩ := ok_of_bind h
  obtain ⟨_, -, h⟩ := ok_of_bind h
  obtain ⟨_, -, h⟩ := ok_of_bind h
  obtain ⟨_, -, h⟩ := ok_of_bind h
  cases h
  exact ⟨keptAs_toCard htitle hdescription, rfl, rfl, rfl, rfl⟩

/-- A steering document that is created has the texts and the creator that are given. -/
theorem fulfilledBy_createDocument {title : String} {description : Option String} {creator : Uuid}
    {document : SteeringDocument}
    (h : store.createDocument stamp title description creator = .ok (document, after)) :
    (Access.createDocument title description creator).FulfilledBy document := by
  obtain ⟨keptTitle, htitle, h⟩ := ok_of_bind h
  obtain ⟨keptDescription, hdescription, h⟩ := ok_of_bind h
  cases h
  exact ⟨Rules.title_kept htitle, description_altered hdescription, rfl⟩

/-- **What is answered is made as the access says.** There is one lemma for each kind of creation,
and the other accesses promise nothing here. -/
theorem fulfilledBy_of_ok {access : Access} {result : access.Result}
    (h : (store.perform stamp access).answer = .ok result) : access.FulfilledBy result := by
  cases access with
  | createEpic draft =>
    simp only [perform, run_createEpic] at h
    exact fulfilledBy_createEpic (write_of_ok h)
  | createStory epic draft =>
    simp only [perform, run_createStory] at h
    exact fulfilledBy_createStory (write_of_ok h)
  | createCriteria story description author =>
    simp only [perform, run_createCriteria] at h
    exact fulfilledBy_createCriteria (write_of_ok h)
  | createRequirement draft =>
    simp only [perform, run_createRequirement] at h
    exact fulfilledBy_createRequirement (write_of_ok h)
  | createDocument title description creator =>
    simp only [perform, run_createDocument] at h
    exact fulfilledBy_createDocument (write_of_ok h)
  | _ => exact trivial

/-! ## Changed -/

/-- **An artifact of the hierarchy that was changed** is what it was before, with the fields altered that
the change names, and is filed in its place. -/
theorem changed_of_ok {kind : Kind} {changes : Changes} {entity : Entity}
    (h : (store.perform stamp (.updateEntity kind id changes)).answer = .ok entity) :
    ∃ old, store.findEntity kind (.byId id) = .ok old ∧ entity.identity = old.identity ∧
      old.Altered changes stamp.now entity ∧
      (store.after ⟨.updateEntity kind id changes, stamp⟩).shelf =
        (store.file id (.entity entity)).shelf := by
  simp only [Store.after, perform, run_update] at h ⊢
  obtain ⟨old, revision, -, hrevise, hrevises, rfl, hafter⟩ := update_spec (writeNoting_of_ok h)
  refine ⟨old, hrevises.found, hrevises.identity, revise_altered hrevise hrevises.found, ?_⟩
  rw [hafter, shelf_with_comments]

/-- **A steering document that was changed**, likewise. Its identity is kept, and with it the
reference under which it is found. -/
theorem documentChanged_of_ok {title description : Option String} {actor : User}
    {document : SteeringDocument}
    (h : (store.perform stamp (.updateDocument id title description actor)).answer = .ok document) :
    ∃ old, store.findDocument (.byId id) = .ok old ∧ document.identity = old.identity ∧
      Altered KeptTitle old.title title document.title ∧
      Altered KeptDescription old.description description document.description ∧
      store.after ⟨.updateDocument id title description actor, stamp⟩ =
        store.file id (.document document) := by
  simp only [Store.after, perform, run_updateDocument] at h ⊢
  have hupdate := write_of_ok h
  generalize (Performed.write store _).store = after at hupdate ⊢
  dsimp only [updateDocument] at hupdate
  obtain ⟨-, hupdate⟩ := ok_of_unless hupdate
  obtain ⟨old, hfound, hupdate⟩ := ok_of_bind hupdate
  obtain ⟨-, hupdate⟩ := ok_of_unless hupdate
  obtain ⟨newTitle, htitle, hupdate⟩ := ok_of_bind hupdate
  obtain ⟨newDescription, hdescription, hupdate⟩ := ok_of_bind hupdate
  cases hupdate
  exact ⟨old, hfound, rfl, reviseTitle_altered htitle, reviseDescription_altered hdescription, rfl⟩

/-! ## Read back -/

/-- What is filed is on the shelf of its kind. -/
theorem mem_values_file : artifact ∈ ((store.file id artifact).shelf artifact.kind).values := by
  have hfound : ((store.file id artifact).shelf artifact.kind).get? id = some artifact := by
    rw [get?_shelf_file, if_pos ⟨rfl, rfl⟩]
  exact List.mem_map_of_mem (f := (·.2)) (Table.mem_of_get? hfound)

/-- **What was written is on its shelf.** An update has filed it in its place; a creation has filed
it at the end. -/
theorem mem_values_written {access : Access} {result : access.Result}
    (h : (store.perform stamp access).answer = .ok result)
    (hwritten : access.written? result = some artifact) :
    artifact ∈ ((store.after ⟨access, stamp⟩).shelf artifact.kind).values := by
  cases access with
  | updateEntity kind id changes =>
    cases hwritten
    obtain ⟨-, -, -, -, hshelf⟩ := changed_of_ok h
    rw [hshelf]
    exact mem_values_file
  | updateDocument id title description actor =>
    cases hwritten
    obtain ⟨-, -, -, -, -, hafter⟩ := documentChanged_of_ok h
    rw [hafter]
    exact mem_values_file
  | _ =>
    -- all other accesses that answer with an artifact create it, which is what their effect says
    have heffect := effect_of_ok h
    rw [show Access.created? _ result = some artifact from hwritten] at heffect
    change artifact ∈ ((store.perform stamp _).store.shelf artifact.kind).values
    generalize (store.perform stamp _).store = after at heffect ⊢
    cases heffect with
    | created =>
      rw [shelf_with_issued]
      exact mem_values_file

/-- **Is this what is got** under a look-up, by whoever asks for it? The stamp makes no difference
to a look-up, and so any may be used. -/
def Gets (store : Store) (lookup : Lookup) : Artifact → Prop
  | .entity entity => ∀ stamp,
    (store.perform stamp (.getEntity entity.kind lookup)).answer = .ok entity
  | .document document => ∀ stamp,
    (store.perform stamp (.getDocument lookup)).answer = .ok document

/-- What is found on its shelf is got. -/
theorem gets_of_find? {lookup : Lookup}
    (h : (store.shelf artifact.kind).find? lookup = some artifact) : store.Gets lookup artifact := by
  cases artifact with
  | entity entity =>
    rw [Artifact.kind_entity] at h
    exact fun _ => findEntity_eq_ok_iff.2 h
  | document document => exact fun _ => findDocument_eq_ok_iff.2 h

/-- **What was written is read back**, under its identifier and under its reference. It needs the
invariants of a reachable store: nothing else answers to either of them. -/
theorem Reachable.gets_written (hstore : Reachable store) {access : Access} {result : access.Result}
    (hfresh : store.Fresh ⟨access, stamp⟩) (h : (store.perform stamp access).answer = .ok result)
    (hwritten : access.written? result = some artifact) :
    (store.after ⟨access, stamp⟩).Gets (.byId artifact.id) artifact ∧
      (store.after ⟨access, stamp⟩).Gets (.byReference artifact.reference) artifact := by
  have hnumbered := (hstore.step _ hfresh).numbered artifact.kind
  have hmem := mem_values_written h hwritten
  exact ⟨gets_of_find? (hnumbered.find?_id hmem), gets_of_find? (hnumbered.find?_reference hmem)⟩

end Store

end Planroom
