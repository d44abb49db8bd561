import Planroom.Proofs.Store.Persistence

/-!
# Coherence

The records of a store name each other across its tables, and nothing in the tables themselves keeps
a name from leading nowhere. It is shown here that none does.

* **Admitted** — everything that an artifact refers to is there. It was so when the artifact was
  created, an update changes nothing of it but the assignee, and what is there stays there.
* **Sound** — all artifacts are admitted, and relationships and links join what is there. Every
  effect keeps a store sound.
* **Coherent** — what that comes to for each table.
-/

namespace Planroom

/-- A record of a table is also in the table with its records taken as others. -/
theorem Table.exists_mem_map {α β : Type} {table : Table α} {value : α} (h : value ∈ table.values)
    (f : α → β) : ∃ id, (id, f value) ∈ (table.map f).entries := by
  obtain ⟨entry, hentry, rfl⟩ := List.mem_map.1 h
  exact ⟨entry.1, List.mem_map_of_mem (f := fun entry => (entry.1, f entry.2)) hentry⟩

/-- What is in a table after filing was filed now or was there before. The record that it replaced
is not there any more, but nobody asks for that here. -/
theorem Table.mem_insert {α : Type} {table : Table α} {id : Uuid} {value : α} {entry : Uuid × α}
    (h : entry ∈ (table.insert id value).entries) :
    entry.2 = value ∨ entry ∈ table.entries := by
  obtain ⟨entries⟩ := table
  simp only [insert] at h ⊢
  induction entries with
  | nil =>
    obtain rfl := List.mem_singleton.1 h
    exact .inl rfl
  | cons first rest ih =>
    rw [insertEntry] at h
    split at h
    · rcases List.mem_cons.1 h with rfl | hrest
      · exact .inl rfl
      · exact .inr (List.mem_cons_of_mem first hrest)
    · rcases List.mem_cons.1 h with rfl | hrest
      · exact .inr List.mem_cons_self
      · exact (ih hrest).imp_right (List.mem_cons_of_mem first)

/-- **Are two relationships the same**, apart from who made them and when? Only one of such two is
let into a store. -/
def Relationship.SameAs (a b : Relationship) : Prop :=
  a.source = b.source ∧ a.target = b.target ∧ a.type = b.type

namespace Store

variable {store after : Store}

/-! ## What is there -/

/-- **Is there an artifact of a kind** under an identifier? It is asked of the shelf, which is how
the tables of all kinds are seen alike. -/
def Has (store : Store) (kind : Kind) (id : Uuid) : Prop :=
  ∃ artifact, (store.shelf kind).get? id = some artifact

theorem Extends.has (h : store.Extends after) {kind : Kind} {id : Uuid} (hhas : store.Has kind id) :
    after.Has kind id := by
  obtain ⟨artifact, hfound⟩ := hhas
  have hlookup : (store.shelf kind).find? (.byId id) = some artifact := hfound
  obtain ⟨again, hagain, -⟩ := h.find? hlookup
  exact ⟨again, hagain⟩

/-- A table holds a record when there is one on the shelf that it is. -/
theorem has_iff_of_map {α : Type} {table : Table α} {f : α → Artifact} {kind : Kind} {id : Uuid}
    (hshelf : store.shelf kind = table.map f) : store.Has kind id ↔ table.contains id = true := by
  rw [Has, hshelf, Table.get?_map, Table.contains, ← Option.isSome_iff_exists, Option.isSome_map]

theorem has_epic_iff {id : Uuid} : store.Has .epic id ↔ store.epics.contains id = true :=
  has_iff_of_map (f := fun e => .entity (.epic e)) rfl

theorem has_story_iff {id : Uuid} : store.Has .userStory id ↔ store.stories.contains id = true :=
  has_iff_of_map (f := fun s => .entity (.story s)) rfl

theorem has_requirement_iff {id : Uuid} :
    store.Has .requirement id ↔ store.requirements.contains id = true :=
  has_iff_of_map (f := fun r => .entity (.requirement r)) rfl

theorem has_document_iff {id : Uuid} :
    store.Has .steeringDocument id ↔ store.documents.contains id = true :=
  has_iff_of_map rfl

/-- A check that fails unless a test succeeds. -/
theorem ite_eq_ok_iff {test : Bool} {failure : Failure} :
    (if test = true then (.ok () : Except Failure Unit) else .error failure) = .ok () ↔
      test = true := by
  cases test with
  | false => exact ⟨nofun, nofun⟩
  | true => exact ⟨fun _ => rfl, fun _ => rfl⟩

theorem ensureEpic_eq_ok_iff {id : Uuid} : store.ensureEpic id = .ok () ↔ store.Has .epic id :=
  ite_eq_ok_iff.trans has_epic_iff.symm

theorem ensureStory_eq_ok_iff {id : Uuid} :
    store.ensureStory id = .ok () ↔ store.Has .userStory id :=
  ite_eq_ok_iff.trans has_story_iff.symm

theorem ensureRequirement_eq_ok_iff {id : Uuid} :
    store.ensureRequirement id = .ok () ↔ store.Has .requirement id :=
  ite_eq_ok_iff.trans has_requirement_iff.symm

theorem ensureUser_eq_ok_iff {id : Uuid} :
    store.ensureUser id = .ok () ↔ store.users.contains id = true :=
  ite_eq_ok_iff

/-- Criteria belong to a story when they are found and their parent is the story. -/
theorem ensureCriteriaOf_eq_ok_iff {story id : Uuid} :
    store.ensureCriteriaOf story (some id) = .ok () ↔
      ∃ criteria, store.criteria.get? id = some criteria ∧ criteria.story = story := by
  simp only [ensureCriteriaOf]
  cases store.criteria.get? id with
  | none => exact ⟨nofun, nofun⟩
  | some criteria =>
    by_cases hstory : criteria.story = story
    · simp [hstory]
    · simp [hstory]

/-! ## What is admitted -/

/-- **Is everything there that an artifact of this identity belongs to?** What an artifact belongs
to is part of its identity and never changes. -/
def Places (store : Store) (identity : Identity) : Prop :=
  match identity.kind, identity.parent with
  | .userStory, some epic => store.ensureEpic epic = .ok ()
  | .acceptanceCriteria, some story => store.ensureStory story = .ok ()
  | .requirement, some story =>
    store.ensureStory story = .ok () ∧ store.ensureCriteriaOf story identity.criteria = .ok ()
  | _, _ => True

/-- Whether an artifact is admitted depends on its identity and its assignee alone. -/
theorem admits_entity_iff {entity : Entity} :
    store.Admits (.entity entity) ↔
      store.Places entity.identity ∧ store.ensureAssignee entity.assignee = .ok () := by
  cases entity with
  | epic e => exact ⟨fun h => ⟨trivial, h⟩, fun h => h.2⟩
  | story s => exact Iff.rfl
  | criteria c => exact ⟨fun h => ⟨h, rfl⟩, fun h => h.1⟩
  | requirement r => exact and_assoc.symm

/-- **An artifact that has been updated** is admitted if the one that it was is, and its assignee is
the same or known. Of all that is checked at a creation, the assignee is the only thing that an
update can touch. -/
theorem Admits.of_updated {old new : Entity} (h : store.Admits (.entity old))
    (hidentity : new.identity = old.identity)
    (hassignee : ∀ user, new.assignee = some user →
      old.assignee = some user ∨ store.ensureUser user = .ok ()) :
    store.Admits (.entity new) := by
  rw [admits_entity_iff] at h ⊢
  obtain ⟨hplaces, hold⟩ := h
  refine ⟨hidentity ▸ hplaces, ?_⟩
  cases hnew : new.assignee with
  | none => rfl
  | some user =>
    rcases hassignee user hnew with hsame | hknown
    · rw [← hsame]
      exact hold
    · exact hknown

namespace Extends

variable (h : store.Extends after)

include h

theorem ensureAssignee (assignee : Option Uuid) :
    after.ensureAssignee assignee = store.ensureAssignee assignee := by
  cases assignee with
  | none => rfl
  | some user => simp only [Store.ensureAssignee, ensureUser, h.users]

theorem ensureCriteriaOf {story : Uuid} {criteria : Option Uuid}
    (hok : store.ensureCriteriaOf story criteria = .ok ()) :
    after.ensureCriteriaOf story criteria = .ok () := by
  cases criteria with
  | none => rfl
  | some id =>
    obtain ⟨criteria, hfound, hstory⟩ := ensureCriteriaOf_eq_ok_iff.1 hok
    have hentity : store.findEntity .acceptanceCriteria (.byId id) = .ok (.criteria criteria) := by
      simp [Store.findEntity, Table.find?, hfound]
    obtain ⟨again, hagain, hidentity⟩ := h.findEntity hentity
    -- whatever is found now is criteria too, of the same parent
    rw [findEntity_eq_ok_iff] at hagain
    obtain ⟨found, hget, hsame⟩ :=
      Option.map_eq_some_iff.1 ((Table.get?_map _ after.criteria id).symm.trans hagain)
    obtain rfl := Artifact.entity.inj hsame
    have hparent := congrArg Identity.parent hidentity
    exact ensureCriteriaOf_eq_ok_iff.2 ⟨found, hget, (Option.some.inj hparent).trans hstory⟩

/-- **What was admitted stays so**, as a later store has all that the earlier one had. -/
theorem admits {artifact : Artifact} (hadmits : store.Admits artifact) : after.Admits artifact := by
  rcases artifact with (e | s | c | r) | d
  · exact (h.ensureAssignee _).trans hadmits
  · obtain ⟨hepic, hassignee⟩ := hadmits
    exact ⟨ensureEpic_eq_ok_iff.2 (h.has (ensureEpic_eq_ok_iff.1 hepic)),
      (h.ensureAssignee _).trans hassignee⟩
  · exact ensureStory_eq_ok_iff.2 (h.has (ensureStory_eq_ok_iff.1 hadmits))
  · obtain ⟨hstory, hcriteria, hassignee⟩ := hadmits
    exact ⟨ensureStory_eq_ok_iff.2 (h.has (ensureStory_eq_ok_iff.1 hstory)),
      h.ensureCriteriaOf hcriteria, (h.ensureAssignee _).trans hassignee⟩
  · trivial

end Extends

/-! ## Sound stores -/

/-- **Is a store sound?** All artifacts are admitted, and what relationships and links join is
there. In this form it can be carried from effect to effect; what it means for each table is said by
`Coherent`. -/
structure Sound (store : Store) : Prop where
  admitted : ∀ kind, ∀ entry ∈ (store.shelf kind).entries, store.Admits entry.2
  related : ∀ r ∈ store.relationships,
    r.source ≠ r.target ∧ store.Has .requirement r.source ∧ store.Has .requirement r.target
  once : store.relationships.Pairwise fun a b => ¬ a.SameAs b
  linked : ∀ link ∈ store.links,
    store.Has .steeringDocument link.document ∧ store.Has .epic link.epic

namespace Sound

variable (h : store.Sound) (hextends : store.Extends after)

include h hextends

/-- Artifacts that are still on the shelves are still admitted. -/
theorem admitted_of_shelf_eq (hshelf : after.shelf = store.shelf) (kind : Kind) :
    ∀ entry ∈ (after.shelf kind).entries, after.Admits entry.2 := by
  intro entry hentry
  rw [hshelf] at hentry
  exact hextends.admits (h.admitted kind entry hentry)

/-- So are they after one has been filed that is admitted. -/
theorem admitted_of_filed {id : Uuid} {artifact : Artifact} (hadmits : store.Admits artifact)
    (hshelf : after.shelf = (store.file id artifact).shelf) (kind : Kind) :
    ∀ entry ∈ (after.shelf kind).entries, after.Admits entry.2 := by
  intro entry hentry
  rw [hshelf, shelf_file] at hentry
  split at hentry
  · rcases Table.mem_insert hentry with hnew | hold
    · rw [hnew]
      exact hextends.admits hadmits
    · exact hextends.admits (h.admitted kind entry hold)
  · exact hextends.admits (h.admitted kind entry hentry)

/-- What is joined is still there. -/
theorem related_after : ∀ r ∈ store.relationships,
    r.source ≠ r.target ∧ after.Has .requirement r.source ∧ after.Has .requirement r.target := by
  intro r hr
  obtain ⟨hother, hsource, htarget⟩ := h.related r hr
  exact ⟨hother, hextends.has hsource, hextends.has htarget⟩

theorem linked_after : ∀ link ∈ store.links,
    after.Has .steeringDocument link.document ∧ after.Has .epic link.epic := by
  intro link hlink
  obtain ⟨hdocument, hepic⟩ := h.linked link hlink
  exact ⟨hextends.has hdocument, hextends.has hepic⟩

/-- A store stays sound when its relationships stay and there are no new links. -/
theorem of_kept (hadmitted : ∀ kind, ∀ entry ∈ (after.shelf kind).entries, after.Admits entry.2)
    (hrelationships : after.relationships = store.relationships)
    (hlinks : ∀ link ∈ after.links, link ∈ store.links) : after.Sound where
  admitted := hadmitted
  related := by
    rw [hrelationships]
    exact h.related_after hextends
  once := by
    rw [hrelationships]
    exact h.once
  linked link hlink := h.linked_after hextends link (hlinks link hlink)

end Sound

/-- **Every effect** keeps a store sound. An effect that brings something new has checked that it
fits, and no effect takes anything away but links. -/
theorem Sound.effect {step : Step} {created : Option Artifact} (h : store.Sound)
    (hfresh : store.Fresh step) (heffect : Effect store step.stamp step.access created after) :
    after.Sound := by
  have hextends := Extends.of_effect hfresh heffect
  obtain ⟨access, stamp⟩ := step
  cases heffect with
  | nothing => exact h
  | created hdraws hid hreference hadmits =>
    refine h.of_kept hextends (h.admitted_of_filed hextends hadmits (shelf_with_issued _ _)) ?_ ?_
    · exact file_relationships store _ _
    · intro link hlink
      rwa [← file_links store]
  | @updated kind id changes old new bodyChanged hfound hidentity hassignee hbody =>
    have hold : store.Admits (.entity old) :=
      h.admitted kind _ (Table.mem_of_get? (findEntity_eq_ok_iff.1 hfound))
    have hnew := hold.of_updated hidentity hassignee
    refine h.of_kept hextends (h.admitted_of_filed hextends hnew (shelf_with_comments _ _)) ?_ ?_
    · exact file_relationships store _ _
    · intro link hlink
      rwa [← file_links store]
  | @documentUpdated _ _ _ _ old new hfound hactor hidentity =>
    have hnew : store.Admits (.document new) := trivial
    refine h.of_kept hextends (h.admitted_of_filed hextends hnew rfl) ?_ ?_
    · exact file_relationships store _ _
    · intro link hlink
      rwa [← file_links store]
  | @related draft relationship hid hsource htarget htype hother hsourceThere htargetThere hnew =>
    refine ⟨h.admitted_of_shelf_eq hextends (shelf_with_relationships _ _), ?_, ?_,
      h.linked_after hextends⟩
    · intro r hr
      rcases List.mem_append.1 hr with hold | hlast
      · exact h.related_after hextends r hold
      · obtain rfl := List.mem_singleton.1 hlast
        rw [hsource, htarget]
        exact ⟨hother, hextends.has (ensureRequirement_eq_ok_iff.1 hsourceThere),
          hextends.has (ensureRequirement_eq_ok_iff.1 htargetThere)⟩
    · -- none of the relationships before is like the new one, or it would have been refused
      refine List.pairwise_append.2 ⟨h.once, List.pairwise_singleton _ _, ?_⟩
      rintro r hr last hlast ⟨hsameSource, hsameTarget, hsameType⟩
      obtain rfl := List.mem_singleton.1 hlast
      rw [hasRelationship, List.any_eq_false] at hnew
      refine hnew r hr ?_
      simp [hsameSource, hsameTarget, hsameType, hsource, htarget, htype]
  | @linked document epic hdocument hepic hnew =>
    refine ⟨h.admitted_of_shelf_eq hextends (shelf_with_links _ _), h.related_after hextends, h.once,
      ?_⟩
    intro link hlink
    rcases Link.mem_insertIn.1 hlink with rfl | hold
    · obtain ⟨found, hfound⟩ := hdocument
      obtain ⟨entity, hentity⟩ := hepic
      exact ⟨hextends.has ⟨_, findDocument_eq_ok_iff.1 hfound⟩,
        hextends.has ⟨_, findEntity_eq_ok_iff.1 hentity⟩⟩
    · exact h.linked_after hextends link hold
  | unlinked hthere =>
    exact h.of_kept hextends (h.admitted_of_shelf_eq hextends (shelf_with_links _ _)) rfl
      fun _ hlink => List.mem_of_mem_erase hlink
  | commented =>
    exact h.of_kept hextends (h.admitted_of_shelf_eq hextends (shelf_with_comments _ _)) rfl
      fun _ hlink => hlink
  | resolved =>
    exact h.of_kept hextends (h.admitted_of_shelf_eq hextends (shelf_with_comments _ _)) rfl
      fun _ hlink => hlink

theorem sound_initial (users : List User) (prompts : List Prompt) :
    (initial users prompts).Sound where
  admitted kind entry hentry := by
    cases kind <;> cases hentry
  related := fun _ hr => nomatch hr
  once := List.Pairwise.nil
  linked := fun _ hlink => nomatch hlink

/-! ## Coherent stores -/

/-- **Is a store coherent?** Whatever a record names is in the table in which it is looked for.
There is one field for each way in which a record can name another. -/
structure Coherent (store : Store) : Prop where
  epicOfStory : ∀ story ∈ store.stories.values, store.epics.contains story.epic = true
  storyOfCriteria : ∀ criteria ∈ store.criteria.values,
    store.stories.contains criteria.story = true
  storyOfRequirement : ∀ requirement ∈ store.requirements.values,
    store.stories.contains requirement.story = true
  criteriaOfRequirement : ∀ requirement ∈ store.requirements.values, ∀ id,
    requirement.criteria = some id →
      ∃ criteria, store.criteria.get? id = some criteria ∧ criteria.story = requirement.story
  assigneeOfEpic : ∀ epic ∈ store.epics.values, ∀ user, epic.card.assignee = some user →
    store.users.contains user = true
  assigneeOfStory : ∀ story ∈ store.stories.values, ∀ user, story.card.assignee = some user →
    store.users.contains user = true
  assigneeOfRequirement : ∀ requirement ∈ store.requirements.values, ∀ user,
    requirement.card.assignee = some user → store.users.contains user = true
  ends : ∀ r ∈ store.relationships, r.source ≠ r.target ∧
    store.requirements.contains r.source = true ∧ store.requirements.contains r.target = true
  once : store.relationships.Pairwise fun a b =>
    ¬ (a.source = b.source ∧ a.target = b.target ∧ a.type = b.type)
  links : ∀ link ∈ store.links, store.documents.contains link.document = true ∧
    store.epics.contains link.epic = true

/-- An assignee who is checked is known. -/
theorem contains_of_ensureAssignee {assignee : Option Uuid}
    (h : store.ensureAssignee assignee = .ok ()) :
    ∀ user, assignee = some user → store.users.contains user = true := by
  rintro user rfl
  exact ensureUser_eq_ok_iff.1 h

namespace Sound

variable (h : store.Sound)

include h

theorem admits_epic {epic : Epic} (hepic : epic ∈ store.epics.values) :
    store.Admits (.entity (.epic epic)) := by
  obtain ⟨id, hentry⟩ := Table.exists_mem_map hepic fun e => Artifact.entity (.epic e)
  exact h.admitted .epic _ hentry

theorem admits_story {story : UserStory} (hstory : story ∈ store.stories.values) :
    store.Admits (.entity (.story story)) := by
  obtain ⟨id, hentry⟩ := Table.exists_mem_map hstory fun s => Artifact.entity (.story s)
  exact h.admitted .userStory _ hentry

theorem admits_criteria {criteria : Criteria} (hcriteria : criteria ∈ store.criteria.values) :
    store.Admits (.entity (.criteria criteria)) := by
  obtain ⟨id, hentry⟩ := Table.exists_mem_map hcriteria fun c => Artifact.entity (.criteria c)
  exact h.admitted .acceptanceCriteria _ hentry

theorem admits_requirement {requirement : Requirement}
    (hrequirement : requirement ∈ store.requirements.values) :
    store.Admits (.entity (.requirement requirement)) := by
  obtain ⟨id, hentry⟩ := Table.exists_mem_map hrequirement fun r => Artifact.entity (.requirement r)
  exact h.admitted .requirement _ hentry

/-- **A sound store is coherent.** Each field is the check of some creation, read on the tables. -/
theorem coherent : store.Coherent where
  epicOfStory _ hstory := has_epic_iff.1 (ensureEpic_eq_ok_iff.1 (h.admits_story hstory).1)
  storyOfCriteria _ hcriteria :=
    has_story_iff.1 (ensureStory_eq_ok_iff.1 (h.admits_criteria hcriteria))
  storyOfRequirement _ hrequirement :=
    has_story_iff.1 (ensureStory_eq_ok_iff.1 (h.admits_requirement hrequirement).1)
  criteriaOfRequirement _ hrequirement id hcriteria := by
    have hchecked := (h.admits_requirement hrequirement).2.1
    rw [hcriteria] at hchecked
    exact ensureCriteriaOf_eq_ok_iff.1 hchecked
  assigneeOfEpic _ hepic := contains_of_ensureAssignee (h.admits_epic hepic)
  assigneeOfStory _ hstory := contains_of_ensureAssignee (h.admits_story hstory).2
  assigneeOfRequirement _ hrequirement :=
    contains_of_ensureAssignee (h.admits_requirement hrequirement).2.2
  ends r hr := by
    obtain ⟨hother, hsource, htarget⟩ := h.related r hr
    exact ⟨hother, has_requirement_iff.1 hsource, has_requirement_iff.1 htarget⟩
  once := h.once
  links link hlink := by
    obtain ⟨hdocument, hepic⟩ := h.linked link hlink
    exact ⟨has_document_iff.1 hdocument, has_epic_iff.1 hepic⟩

end Sound

/-- **No name leads nowhere.** In a store that can come about, the epic of every user story is there,
and the user story of all acceptance criteria and of every requirement; acceptance criteria that a
requirement names are there and are of its own user story; every assignee is a known user; every
relationship joins two different requirements that are there, and no two relationships are of the
same type between the same two; every link joins a steering document and an epic that are there. -/
theorem reachable_coherent (hstore : Reachable store) : store.Coherent := by
  have hsound : store.Sound := hstore.invariant sound_initial Sound.effect
  exact hsound.coherent

/-- One artifact of each kind and a second requirement, all of them tied together. -/
def tiedRun : List Step :=
  let card (title : String) (assignee : Option Uuid) : CardDraft :=
    ⟨title, none, .high, (Stamp.nth 0).id, assignee⟩
  [⟨.createEpic (card "Search" none), .nth 1⟩,
    ⟨.createStory (Stamp.nth 1).id (card "Find a page" (some (Stamp.nth 0).id)), .nth 2⟩,
    ⟨.createCriteria (Stamp.nth 2).id "The page comes up" (Stamp.nth 0).id, .nth 3⟩,
    ⟨.createRequirement
      ⟨card "Index" none, (Stamp.nth 2).id, some (Stamp.nth 3).id, .functional⟩, .nth 4⟩,
    ⟨.createRequirement ⟨card "Rank" none, (Stamp.nth 2).id, none, .functional⟩, .nth 5⟩,
    ⟨.createRelationship
      ⟨(Stamp.nth 5).id, (Stamp.nth 4).id, .dependsOn, (Stamp.nth 0).id⟩, .nth 6⟩,
    ⟨.createDocument "Wording" none (Stamp.nth 0).id, .nth 7⟩,
    ⟨.linkDocument (Stamp.nth 7).id (Stamp.nth 1).id, .nth 8⟩]

/-- A store in which there is something to be named. -/
theorem reachable_coherent_tied :
    let store := (initial [⟨(Stamp.nth 0).id, "alice", .user⟩] []).run tiedRun
    Reachable store ∧ store.relationships.length = 1 ∧
      store.links = [⟨(Stamp.nth 7).id, (Stamp.nth 1).id⟩] ∧ store.Coherent := by
  intro store
  have hfresh : (initial [⟨(Stamp.nth 0).id, "alice", .user⟩] []).FreshRun tiedRun := by
    decide +kernel
  have hstore : Reachable store := (Reachable.initial _ []).run hfresh
  exact ⟨hstore, by decide +kernel, by decide +kernel, reachable_coherent hstore⟩

end Store

end Planroom
