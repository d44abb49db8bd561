import Planroom.Proofs.Store.Changes
import Planroom.Proofs.Store.Coherence
import Planroom.Proofs.Text.Split

/-!
# Writing back what was read

A change that gives an artifact the values that it has leaves everything as it is. That is so
because the store keeps nothing that its own rules would refuse or put into another form.

* **Settled** — a title or a description that has been kept once is kept as it is. Artifacts are
  made with such texts and changed to such texts, so that all that are kept are settled.
* **Values** — `Entity.values` are those of an artifact as a change would give them. A settled
  artifact stays the same when it is given any of them, but for the time (`Entity.revise_values`).
* **The store** — nothing else is touched: the text is the same, so that no comment is looked at.
-/

namespace Planroom

/-! ## Settled texts -/

namespace Rules

/-- **A title that is kept** is kept in the same form again. What has been trimmed is not trimmed
again, and so it is not longer either. -/
theorem title_settled {given kept : String} (h : title given = .ok kept) :
    title kept = .ok kept := by
  obtain rfl : kept = Text.trim given := title_kept h
  -- all that is checked of a title is checked of its form without the blanks
  have htrim : Text.trim given = Text.trim (Text.trim given) := (Text.padded_trim given).trim_eq
  rw [title, ← htrim]
  exact h

/-- **A description that is kept** is kept in the same form again. None is kept of an empty text,
which is how a caller writes that there is none. -/
theorem description_settled {given kept : Option String} (h : description given = .ok kept) :
    description (some (kept.getD "")) = .ok kept := by
  cases given with
  | none =>
    cases h
    rfl
  | some text =>
    cases description_kept h with
    | blank => rfl
    | verbatim => exact h

/-- A description that may not be missing is kept as it is, blanks and all. -/
theorem requiredDescription_settled {given : Option String} {kept : String}
    (h : requiredDescription given = .ok kept) : requiredDescription (some kept) = .ok kept := by
  obtain ⟨rfl, -⟩ := requiredDescription_kept h
  exact h

end Rules

/-- A title that stays, or is kept, is settled. -/
theorem reviseTitle_settled {old new : String} {given : Option String}
    (hold : Rules.title old = .ok old) (h : reviseTitle old given = .ok new) :
    Rules.title new = .ok new := by
  cases given with
  | none =>
    cases h
    exact hold
  | some given => exact Rules.title_settled h

/-- A description that stays, or is kept, is settled, likewise. -/
theorem reviseDescription_settled {old new : Option String} {given : Option String}
    (hold : Rules.description (some (old.getD "")) = .ok old)
    (h : reviseDescription old given = .ok new) :
    Rules.description (some (new.getD "")) = .ok new := by
  cases given with
  | none =>
    cases h
    exact hold
  | some given =>
    rw [reviseDescription] at h
    exact Rules.description_settled h

/-- **Would the texts of a card be kept as they are?** Its other fields have types that leave
nothing to be cleaned. -/
structure Card.Settled (card : Card) : Prop where
  title : Rules.title card.title = .ok card.title
  description : Rules.description (some (card.description.getD "")) = .ok card.description

/-- **Would the texts of an artifact be kept as they are?** The rule for acceptance criteria is
another one: their description may not be blank. -/
def Entity.Settled : Entity → Prop
  | .epic e => e.card.Settled
  | .story s => s.card.Settled
  | .criteria c => Rules.requiredDescription (some c.description) = .ok c.description
  | .requirement r => r.card.Settled

/-- A card is settled whatever else a draft says of it. -/
theorem CardDraft.settled_toCard {draft : CardDraft} {stamp : Stamp} {reference title : String}
    {description : Option String} (htitle : Rules.title draft.title = .ok title)
    (hdescription : Rules.description draft.description = .ok description) :
    (draft.toCard stamp reference title description).Settled :=
  ⟨Rules.title_settled htitle, Rules.description_settled hdescription⟩

section Settled

variable {now : Timestamp} {changes : Changes}

/-- **After a change** a settled card is settled. -/
theorem Card.Settled.revise {card new : Card} (h : card.Settled)
    (hrevise : card.revise now changes = .ok new) : new.Settled := by
  obtain ⟨title, htitle, hrevise⟩ := Store.ok_of_bind hrevise
  obtain ⟨description, hdescription, hrevise⟩ := Store.ok_of_bind hrevise
  cases hrevise
  exact ⟨reviseTitle_settled h.title htitle, reviseDescription_settled h.description hdescription⟩

/-- **After a change** a settled artifact is settled. Each text is the old one or has just been
kept. -/
theorem Entity.Settled.revise {old new : Entity} (h : old.Settled)
    (hrevise : old.revise now changes = .ok new) : new.Settled := by
  cases revised_of_ok hrevise with
  | epic hcard => exact Card.Settled.revise h hcard
  | story hcard => exact Card.Settled.revise h hcard
  | criteria hdescription => exact Rules.requiredDescription_settled hdescription
  | requirement hcard => exact Card.Settled.revise h hcard

end Settled

/-! ## Settled stores -/

namespace Store

variable {store : Store} {kind : Kind} {id : Uuid} {entity : Entity} {stamp : Stamp}

section Create

variable {after : Store} {draft : CardDraft}

/-- An epic that is created is settled; its texts have just been kept. -/
theorem settled_createEpic {epic : Epic} (h : store.createEpic stamp draft = .ok (epic, after)) :
    epic.card.Settled := by
  obtain ⟨title, htitle, h⟩ := ok_of_bind h
  obtain ⟨description, hdescription, h⟩ := ok_of_bind h
  obtain ⟨_, -, h⟩ := ok_of_bind h
  cases h
  exact CardDraft.settled_toCard htitle hdescription

/-- It is the same with a user story. -/
theorem settled_createStory {epic : Uuid} {story : UserStory}
    (h : store.createStory stamp epic draft = .ok (story, after)) : story.card.Settled := by
  obtain ⟨title, htitle, h⟩ := ok_of_bind h
  obtain ⟨description, hdescription, h⟩ := ok_of_bind h
  obtain ⟨_, -, h⟩ := ok_of_bind h
  obtain ⟨_, -, h⟩ := ok_of_bind h
  cases h
  exact CardDraft.settled_toCard htitle hdescription

/-- Acceptance criteria have one text, which is kept as it is given. -/
theorem settled_createCriteria {story author : Uuid} {description : String} {criteria : Criteria}
    (h : store.createCriteria stamp story description author = .ok (criteria, after)) :
    (Entity.criteria criteria).Settled := by
  obtain ⟨kept, hdescription, h⟩ := ok_of_bind h
  obtain ⟨_, -, h⟩ := ok_of_bind h
  cases h
  exact Rules.requiredDescription_settled hdescription

/-- A requirement has a card like an epic, and its texts are kept in the same way. -/
theorem settled_createRequirement {draft : RequirementDraft} {requirement : Requirement}
    (h : store.createRequirement stamp draft = .ok (requirement, after)) :
    requirement.card.Settled := by
  obtain ⟨title, htitle, h⟩ := ok_of_bind h
  obtain ⟨description, hdescription, h⟩ := ok_of_bind h
  obtain ⟨_, -, h⟩ := ok_of_bind h
  obtain ⟨_, -, h⟩ := ok_of_bind h
  obtain ⟨_, -, h⟩ := ok_of_bind h
  cases h
  exact CardDraft.settled_toCard htitle hdescription

end Create

/-- **What is created** is settled. Steering documents are not spoken of: they are changed in
another way. -/
theorem settled_of_created {access : Access} {result : access.Result}
    (h : (store.perform stamp access).answer = .ok result)
    (hcreated : access.created? result = some (.entity entity)) : entity.Settled := by
  cases access with
  | createEpic draft =>
    simp only [perform, run_createEpic] at h
    cases hcreated
    exact settled_createEpic (write_of_ok h)
  | createStory epic draft =>
    simp only [perform, run_createStory] at h
    cases hcreated
    exact settled_createStory (write_of_ok h)
  | createCriteria story description author =>
    simp only [perform, run_createCriteria] at h
    cases hcreated
    exact settled_createCriteria (write_of_ok h)
  | createRequirement draft =>
    simp only [perform, run_createRequirement] at h
    cases hcreated
    exact settled_createRequirement (write_of_ok h)
  | _ => cases hcreated

/-- **Where an artifact comes from** that is there after an access: it was there before, the access
has created it, or it is what the access has made of the one that was there before. The cases are
those of the effects. -/
theorem origin_of_found {access : Access} {result : access.Result}
    (h : (store.perform stamp access).answer = .ok result)
    (hfound : (store.perform stamp access).store.findEntity kind (.byId id) = .ok entity) :
    store.findEntity kind (.byId id) = .ok entity ∨
      access.created? result = some (.entity entity) ∨
      ∃ old changes, store.findEntity kind (.byId id) = .ok old ∧
        old.revise stamp.now changes = .ok entity := by
  have heffect := effect_of_ok h
  generalize access.created? result = created at heffect ⊢
  generalize hafter : (store.perform stamp access).store = after at heffect hfound
  cases heffect with
  | nothing => exact .inl hfound
  | @created _ artifact =>
    rw [findEntity_eq_ok_iff, shelf_with_issued, Table.find?, get?_shelf_file] at hfound
    split at hfound
    · exact .inr (.inl hfound)
    · exact .inl (findEntity_eq_ok_iff.2 hfound)
  | @updated place key changes =>
    obtain ⟨old, hold, hrevise, hplace, hstore⟩ := perform_update_of_ok h
    rw [← hafter, hstore] at hfound
    -- it is the one that was changed, or another one, which the change has left alone
    by_cases hhere : place = kind ∧ key = id
    · obtain ⟨rfl, rfl⟩ := hhere
      rw [findEntity_put hplace] at hfound
      cases hfound
      exact .inr (.inr ⟨old, changes, hold, hrevise⟩)
    · exact .inl ((findEntity_put_elsewhere hplace hhere).1 hfound)
  | documentUpdated =>
    rw [findEntity_eq_ok_iff, Table.find?, get?_shelf_file] at hfound
    split at hfound
    · cases hfound
    · exact .inl (findEntity_eq_ok_iff.2 hfound)
  | related => exact .inl ((findEntity_congr (shelf_with_relationships _ _)).1 hfound)
  | linked => exact .inl ((findEntity_congr (shelf_with_links _ _)).1 hfound)
  | unlinked => exact .inl ((findEntity_congr (shelf_with_links _ _)).1 hfound)
  | commented => exact .inl ((findEntity_congr (shelf_with_comments _ _)).1 hfound)
  | resolved => exact .inl ((findEntity_congr (shelf_with_comments _ _)).1 hfound)

/-- **Are all artifacts settled?** It is asked of all that can be found, wherever they are kept. -/
def Settled (store : Store) : Prop :=
  ∀ kind id entity, store.findEntity kind (.byId id) = .ok entity → entity.Settled

/-- **Every step** keeps a store settled. -/
theorem Settled.after (h : store.Settled) (step : Step) : (store.after step).Settled := by
  intro kind id entity hfound
  rw [Store.after] at hfound
  cases hanswer : (store.perform step.stamp step.access).answer with
  | error failure =>
    rw [perform_of_error hanswer] at hfound
    exact h kind id entity hfound
  | ok result =>
    rcases origin_of_found hanswer hfound with hold | hcreated | ⟨old, changes, hold, hrevise⟩
    · exact h kind id entity hold
    · exact settled_of_created hanswer hcreated
    · exact (h kind id old hold).revise hrevise

/-- **Nothing unsettled comes about**, for the rules have been applied to every text that is kept.
-/
theorem Reachable.settled (hstore : Reachable store) : store.Settled := by
  induction hstore with
  | initial users prompts =>
    intro kind id entity hfound
    cases kind <;> cases hfound
  | step step _ _ ih => exact ih.after step

end Store

/-! ## Values -/

/-- The assignee as a change would give it. That there is none has to be said, for otherwise the old
one would stay. -/
def AssigneeChange.of : Option Uuid → AssigneeChange
  | some user => .assign user
  | none => .unassign

@[simp] theorem AssigneeChange.apply_of (assignee old : Option Uuid) :
    (AssigneeChange.of assignee).apply old = assignee := by
  cases assignee <;> rfl

/-- **The values of a card** that is in a state, as a change would give them. An empty text stands
for no description. -/
def Card.values (card : Card) (status : String) : Changes :=
  { title := some card.title
    description := some (card.description.getD "")
    priority := some card.priority
    status := some status
    assignee := .of card.assignee }

/-- **The values of an artifact**, as a change would give them. -/
def Entity.values : Entity → Changes
  | .epic e => e.card.values e.status.name
  | .story s => s.card.values s.status.name
  | .criteria c => { Changes.none with description := some c.description }
  | .requirement r => r.card.values r.status.name

/-- **Is all that a change gives among these values?** Any part of them may be given, so that all
ways of writing back are covered. -/
structure Changes.PartOf (changes values : Changes) : Prop where
  title : changes.title = .none ∨ changes.title = values.title
  description : changes.description = .none ∨ changes.description = values.description
  priority : changes.priority = .none ∨ changes.priority = values.priority
  status : changes.status = .none ∨ changes.status = values.status
  assignee : changes.assignee = .keep ∨ changes.assignee = values.assignee

/-- What comes of a part is the same if it comes of nothing and of the whole. -/
theorem eq_of_part {α β : Type} {f : α → β} {given absent value : α} {result : β}
    (h : given = absent ∨ given = value) (habsent : f absent = result) (hvalue : f value = result) :
    f given = result := by
  rcases h with rfl | rfl
  · exact habsent
  · exact hvalue

/-- A state is read from its name. -/
theorem WorkflowStatus.parse_name (status : WorkflowStatus) : parse status.name = .ok status := by
  cases status <;> decide +kernel

/-- The state of a requirement is read from its name as well. -/
theorem RequirementStatus.parse_name (status : RequirementStatus) :
    parse status.name = .ok status := by
  cases status <;> decide +kernel

variable {changes : Changes}

/-- **A settled card** stays the same when it is given its values, but for the time of the change.
-/
theorem Card.revise_values {card : Card} {status : String} (h : card.Settled)
    (hpart : changes.PartOf (card.values status)) (now : Timestamp) :
    card.revise now changes = .ok (card.modifiedOn now) := by
  have htitle : reviseTitle card.title changes.title = .ok card.title :=
    eq_of_part (f := reviseTitle card.title) hpart.title rfl h.title
  have hdescription :
      reviseDescription card.description changes.description = .ok card.description :=
    eq_of_part (f := reviseDescription card.description) hpart.description rfl h.description
  have hpriority : changes.priority.getD card.priority = card.priority :=
    eq_of_part (f := (·.getD card.priority)) hpart.priority rfl rfl
  have hassignee : changes.assignee.apply card.assignee = card.assignee :=
    eq_of_part (f := (·.apply card.assignee)) hpart.assignee rfl (AssigneeChange.apply_of _ _)
  rw [Card.revise, htitle, hdescription, hpriority, hassignee]
  rfl

/-- A state stays the same when it is given by its name, or not at all. -/
theorem WorkflowStatus.revise_name {status : WorkflowStatus} {given : Option String}
    (h : given = none ∨ given = some status.name) : status.revise given = .ok status :=
  eq_of_part (f := status.revise) h rfl status.parse_name

/-- It is so with the states of a requirement. -/
theorem RequirementStatus.revise_name {status : RequirementStatus} {given : Option String}
    (h : given = none ∨ given = some status.name) : status.revise given = .ok status :=
  eq_of_part (f := status.revise) h rfl status.parse_name

/-- A change that is not the empty one gives something. -/
theorem Changes.isEmpty_eq_false (h : changes ≠ Changes.none) : changes.isEmpty = false := by
  obtain ⟨title, description, priority, status, assignee⟩ := changes
  rw [Bool.eq_false_iff]
  intro hempty
  simp only [isEmpty, namesMoreThanDescription, Bool.and_eq_true, Bool.not_eq_true',
    Bool.or_eq_false_iff, Option.isSome_eq_false_iff, Option.isNone_iff_eq_none,
    bne_eq_false_iff_eq] at hempty
  obtain ⟨⟨⟨⟨rfl, rfl⟩, rfl⟩, rfl⟩, rfl⟩ := hempty
  exact h rfl

/-- A change that gives something of acceptance criteria gives all that they have, which is a
description. -/
theorem Changes.PartOf.eq_of_criteria {criteria : Criteria}
    (hpart : changes.PartOf (Entity.criteria criteria).values) (hgiven : changes ≠ Changes.none) :
    changes = (Entity.criteria criteria).values := by
  obtain ⟨title, description, priority, status, assignee⟩ := changes
  obtain ⟨htitle, hdescription, hpriority, hstatus, hassignee⟩ := hpart
  obtain rfl : title = .none := htitle.elim id id
  obtain rfl : priority = .none := hpriority.elim id id
  obtain rfl : status = .none := hstatus.elim id id
  obtain rfl : assignee = .keep := hassignee.elim id id
  rcases hdescription with hnone | hsame
  · cases hnone
    exact absurd rfl hgiven
  · cases hsame
    rfl

/-- **A settled artifact** stays the same when it is given some of its values. Of acceptance
criteria this can only be the description. -/
theorem Entity.revise_values {entity : Entity} (h : entity.Settled)
    (hpart : changes.PartOf entity.values) (hgiven : changes ≠ Changes.none) (now : Timestamp) :
    entity.revise now changes = .ok (entity.modifiedOn now) := by
  cases entity with
  | epic e =>
    rw [revise, Card.revise_values h hpart, WorkflowStatus.revise_name hpart.status]
    rfl
  | story s =>
    rw [revise, Card.revise_values h hpart, WorkflowStatus.revise_name hpart.status]
    rfl
  | criteria c =>
    have hkept : Rules.requiredDescription (Entity.criteria c).values.description =
        .ok c.description := h
    rw [hpart.eq_of_criteria hgiven, revise, hkept]
    rfl
  | requirement r =>
    rw [revise, Card.revise_values h hpart, RequirementStatus.revise_name hpart.status]
    rfl

/-! ## Writing back -/

namespace Store

variable {store : Store} {kind : Kind} {id : Uuid} {entity : Entity}

/-- **Whom a known artifact is assigned to** is known, and nobody has to be known where it is
assigned to none. -/
theorem ensureNewAssignee_values (h : store.ensureAssignee entity.assignee = .ok ()) :
    store.ensureNewAssignee entity.values.assignee = .ok () := by
  have hcard : ∀ assignee, store.ensureAssignee assignee = .ok () →
      store.ensureNewAssignee (.of assignee) = .ok () := by
    rintro (_ | user) hassignee
    · rfl
    · exact hassignee
  cases entity with
  | epic e => exact hcard _ h
  | story s => exact hcard _ h
  | criteria c => rfl
  | requirement r => exact hcard _ h

/-- **The check lets pass** what an artifact already has: it is not empty, the assignee is known,
and of acceptance criteria nothing but their description is named. -/
theorem checkChanges_values (h : store.ensureAssignee entity.assignee = .ok ())
    (hpart : changes.PartOf entity.values) (hgiven : changes ≠ Changes.none) :
    store.checkChanges entity.kind changes = .ok () := by
  have hempty : changes.isEmpty = false := Changes.isEmpty_eq_false hgiven
  have hassignee : store.ensureNewAssignee changes.assignee = .ok () :=
    eq_of_part (f := store.ensureNewAssignee) hpart.assignee rfl (ensureNewAssignee_values h)
  have honly : ¬ (entity.kind = .acceptanceCriteria ∧ changes.namesMoreThanDescription = true) := by
    rintro ⟨hkind, hmore⟩
    cases entity with
    | criteria c =>
      rw [hpart.eq_of_criteria hgiven] at hmore
      cases hmore
    | _ => cases hkind
  rw [checkChanges, hempty, hassignee, if_neg honly]
  rfl

/-- **Writing back what was read changes nothing.** In a store that can come about, an artifact is
given some of the values that it has: its title, its description or an empty text where there is
none, its priority, its state by its name, its assignee or that there is nobody; of acceptance
criteria it is the description. Then the change succeeds, and the artifact stands in its place as it
was but for the time. Nothing else in the store is different, and no anchor is touched. -/
theorem writing_back_changes_nothing (hstore : Reachable store)
    (hfound : store.findEntity kind (.byId id) = .ok entity) (hpart : changes.PartOf entity.values)
    (hgiven : changes ≠ Changes.none) (stamp : Stamp) :
    store.perform stamp (.updateEntity kind id changes) =
      ⟨.ok (entity.modifiedOn stamp.now), store.file id (.entity (entity.modifiedOn stamp.now)),
        []⟩ := by
  obtain rfl : entity.kind = kind := kind_of_findEntity hfound
  have hsound : store.Sound := hstore.invariant sound_initial Sound.effect
  have hadmits : store.Admits (.entity entity) :=
    hsound.admitted _ _ (Table.mem_of_get? (findEntity_eq_ok_iff.1 hfound))
  have hcheck : store.checkChanges entity.kind changes = .ok () :=
    checkChanges_values (admits_entity_iff.1 hadmits).2 hpart hgiven
  have hrevise : entity.revise stamp.now changes = .ok (entity.modifiedOn stamp.now) :=
    Entity.revise_values (hstore.settled _ _ _ hfound) hpart hgiven stamp.now
  have htext : entity.text = (entity.modifiedOn stamp.now).text :=
    (entity.text_modifiedOn stamp.now).symm
  rw [perform_update_eq, hcheck, hfound]
  change Performed.writeNoting store (entity.revise stamp.now changes >>= _) = _
  rw [hrevise]
  change Performed.mk _ (store.put _ _ _ _) (store.notesAfter _ _ _ _) = _
  rw [put_of_text_eq htext, notesAfter, if_pos htext]

/-- An epic that has a comment on a word of its text is given all that it has. -/
theorem writing_back_changes_nothing_commented :
    let store := (initial [] []).run (movingRun.take 2)
    let epic := Entity.epic searchEpic
    Reachable store ∧ epic.values ≠ Changes.none ∧ store.comments.length = 1 ∧
      store.perform (.nth 3) (.updateEntity .epic (Stamp.nth 1).id epic.values) =
        ⟨.ok (epic.modifiedOn (Stamp.nth 3).now),
          store.file (Stamp.nth 1).id (.entity (epic.modifiedOn (Stamp.nth 3).now)), []⟩ := by
  intro store epic
  have hfresh : (initial [] []).FreshRun (movingRun.take 2) := by decide +kernel
  have hstore : Reachable store := (Reachable.initial [] []).run hfresh
  have hfound : store.findEntity .epic (.byId (Stamp.nth 1).id) = .ok epic := by decide +kernel
  have hcommented : store.comments.length = 1 := by decide +kernel
  have hpart : epic.values.PartOf epic.values := ⟨.inr rfl, .inr rfl, .inr rfl, .inr rfl, .inr rfl⟩
  have hgiven : epic.values ≠ Changes.none := by decide +kernel
  exact ⟨hstore, hgiven, hcommented,
    writing_back_changes_nothing hstore hfound hpart hgiven (.nth 3)⟩

end Store

end Planroom
