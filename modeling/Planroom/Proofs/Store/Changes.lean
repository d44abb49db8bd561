import Planroom.Proofs.Artifact.Reconcile
import Planroom.Proofs.Store.Anchors
import Planroom.Proofs.Store.Numbering

/-!
# What a change changes

A change names some fields of one artifact. It is shown here what becomes of these fields, and that
nothing else becomes different anywhere, except for the anchors that point into the artifact's text.

* **Fields** — `Altered`: a field that is not named is what it was, and one that is named has the
  form in which it is kept.
* **Artifacts** — `Card.Altered` and `Entity.Altered` say this of all fields together. Acceptance
  criteria have one field only.
* **The store** — `Replaces`: one artifact is another one, in its place, and the anchors on it are in
  line with its text.
-/

namespace Planroom

/-! ## Fields -/

/-- **A field after a change.** It is `kept` of what is given, and as before where nothing is. What
`kept` is depends on the field: most fields are cleaned or read before they are kept. -/
inductive Altered {α β : Type} (kept : α → β → Prop) (old : β) : Option α → β → Prop where
  | absent : Altered kept old none old
  | given {value : α} {new : β} (hkept : kept value new) : Altered kept old (some value) new

/-- A field for which nothing is given. -/
theorem Altered.of_absent {α β : Type} {kept : α → β → Prop} {old new : β}
    (h : Altered kept old none new) : new = old := by
  cases h with
  | absent => rfl

/-- A field for which something is given. -/
theorem Altered.of_given {α β : Type} {kept : α → β → Prop} {old new : β} {value : α}
    (h : Altered kept old (some value) new) : kept value new := by
  cases h with
  | given hkept => exact hkept

/-- **The form of a title.** Blanks around it are dropped; that it is not too long or empty is
checked and does not show in the form. -/
def KeptTitle (given kept : String) : Prop :=
  kept = Text.trim given

/-- **The form of a description.** A blank one is none, and any other one stays as it is, with the
blanks around it. -/
inductive KeptDescription : String → Option String → Prop where
  | blank {given : String} (hblank : Text.trim given = "") : KeptDescription given none
  | verbatim {given : String} (hfilled : Text.trim given ≠ "") : KeptDescription given (some given)

/-- A description in which there is something is kept as it is given. -/
theorem KeptDescription.eq_some {given : String} {kept : Option String}
    (h : KeptDescription given kept) (hfilled : Text.trim given ≠ "") : kept = some given := by
  cases h with
  | blank hblank => exact absurd hblank hfilled
  | verbatim => rfl

/-- **An assignee after a change.** To say that there is none is another thing than to say nothing.
-/
inductive AssigneeChange.Leaves (old : Option Uuid) : AssigneeChange → Option Uuid → Prop where
  | keep : Leaves old .keep old
  | unassign : Leaves old .unassign none
  | assign (user : Uuid) : Leaves old (.assign user) (some user)

/-- Who is assigned is the assignee. -/
theorem AssigneeChange.Leaves.of_assign {old new : Option Uuid} {user : Uuid}
    (h : Leaves old (.assign user) new) : new = some user := by
  cases h with
  | assign => rfl

theorem AssigneeChange.leaves_apply (change : AssigneeChange) (old : Option Uuid) :
    change.Leaves old (change.apply old) := by
  cases change with
  | keep => exact .keep
  | unassign => exact .unassign
  | assign user => exact .assign user

theorem Rules.title_kept {given kept : String} (h : Rules.title given = .ok kept) :
    KeptTitle given kept := by
  dsimp only [Rules.title] at h
  split at h
  · cases h
  split at h
  · cases h
  · cases h
    rfl

theorem Rules.description_kept {given : String} {kept : Option String}
    (h : Rules.description (some given) = .ok kept) : KeptDescription given kept := by
  rw [Rules.description] at h
  split at h
  · cases h
  split at h
  · next hblank =>
    cases h
    exact .blank (Text.isBlankText_iff_trim.1 hblank)
  · next hfilled =>
    cases h
    exact .verbatim fun hempty => hfilled (Text.isBlankText_iff_trim.2 hempty)

/-- A description that must be there is one that is not blank. -/
theorem Rules.requiredDescription_kept {given : Option String} {kept : String}
    (h : Rules.requiredDescription given = .ok kept) : given = some kept ∧ Text.trim kept ≠ "" := by
  obtain ⟨description, hdescription, h⟩ := Store.ok_of_bind h
  cases given with
  | none =>
    cases hdescription
    cases h
  | some given =>
    cases Rules.description_kept hdescription with
    | blank => cases h
    | verbatim hfilled =>
      cases h
      exact ⟨rfl, hfilled⟩

/-- A field that is read from what is given, and stays where nothing is. -/
theorem altered_of_ok {α β : Type} {kept : α → β → Prop} {revise : Option α → Except Failure β}
    {old new : β} {given : Option α} (h : revise given = .ok new) (habsent : revise none = .ok old)
    (hkept : ∀ value, revise (some value) = .ok new → kept value new) :
    Altered kept old given new := by
  cases given with
  | none =>
    rw [habsent] at h
    cases h
    exact .absent
  | some value => exact .given (hkept value h)

theorem reviseTitle_altered {old new : String} {given : Option String}
    (h : reviseTitle old given = .ok new) : Altered KeptTitle old given new :=
  altered_of_ok h rfl fun _ => Rules.title_kept

theorem reviseDescription_altered {old new : Option String} {given : Option String}
    (h : reviseDescription old given = .ok new) : Altered KeptDescription old given new :=
  altered_of_ok h rfl fun _ => Rules.description_kept

theorem WorkflowStatus.revise_altered {old new : WorkflowStatus} {given : Option String}
    (h : old.revise given = .ok new) :
    Altered (fun given kept => WorkflowStatus.parse given = .ok kept) old given new :=
  altered_of_ok h rfl fun _ hread => hread

theorem RequirementStatus.revise_altered {old new : RequirementStatus} {given : Option String}
    (h : old.revise given = .ok new) :
    Altered (fun given kept => RequirementStatus.parse given = .ok kept) old given new :=
  altered_of_ok h rfl fun _ hread => hread

/-- What takes the place of the old value where it is given. -/
theorem altered_getD {α : Type} (old : α) (given : Option α) :
    Altered (fun given kept => kept = given) old given (given.getD old) := by
  cases given with
  | none => exact .absent
  | some given => exact .given rfl

/-! ## Artifacts -/

/-- **A card after a change**, apart from its identity. Each field is spoken of by itself, so that
no field can be taken for another one. -/
structure Card.Altered (changes : Changes) (now : Timestamp) (old new : Card) : Prop where
  title : Planroom.Altered KeptTitle old.title changes.title new.title
  description :
    Planroom.Altered KeptDescription old.description changes.description new.description
  priority :
    Planroom.Altered (fun given kept => kept = given) old.priority changes.priority new.priority
  assignee : changes.assignee.Leaves old.assignee new.assignee
  modifiedAt : new.modifiedAt = now

/-- **An artifact after a change**, apart from its identity. A change of acceptance criteria gives
them a description, which is not blank, and names nothing else. No change turns one kind into
another. -/
inductive Entity.Altered (changes : Changes) (now : Timestamp) : Entity → Entity → Prop where
  | epic {old new : Epic} (hcard : old.card.Altered changes now new.card)
      (hstatus : Planroom.Altered (fun given kept => WorkflowStatus.parse given = .ok kept)
        old.status changes.status new.status) :
      Altered changes now (.epic old) (.epic new)
  | story {old new : UserStory} (hcard : old.card.Altered changes now new.card)
      (hstatus : Planroom.Altered (fun given kept => WorkflowStatus.parse given = .ok kept)
        old.status changes.status new.status) :
      Altered changes now (.story old) (.story new)
  | requirement {old new : Requirement} (hcard : old.card.Altered changes now new.card)
      (hstatus : Planroom.Altered (fun given kept => RequirementStatus.parse given = .ok kept)
        old.status changes.status new.status) :
      Altered changes now (.requirement old) (.requirement new)
  | criteria {old new : Criteria}
      (honly : changes = { Changes.none with description := some new.description })
      (hfilled : Text.trim new.description ≠ "") (hmodified : new.modifiedAt = now) :
      Altered changes now (.criteria old) (.criteria new)

theorem Card.revise_altered {card new : Card} {now : Timestamp} {changes : Changes}
    (h : card.revise now changes = .ok new) : card.Altered changes now new := by
  obtain ⟨title, htitle, h⟩ := Store.ok_of_bind h
  obtain ⟨description, hdescription, h⟩ := Store.ok_of_bind h
  cases h
  exact
    { title := reviseTitle_altered htitle
      description := reviseDescription_altered hdescription
      priority := altered_getD card.priority changes.priority
      assignee := changes.assignee.leaves_apply card.assignee
      modifiedAt := rfl }

/-- A change that names nothing but a description. -/
theorem Changes.eq_of_only_description {changes : Changes} {description : String}
    (honly : ¬ changes.namesMoreThanDescription = true)
    (hgiven : changes.description = some description) :
    changes = { Changes.none with description := some description } := by
  obtain ⟨title, given, priority, status, assignee⟩ := changes
  simp only [namesMoreThanDescription, Bool.or_eq_true, not_or, Option.not_isSome_iff_eq_none,
    bne_iff_ne, ne_eq, not_not] at honly
  obtain ⟨⟨⟨rfl, rfl⟩, rfl⟩, rfl⟩ := honly
  cases hgiven
  rfl

/-- **An artifact that is changed** is altered as the change says. That criteria are given nothing
but a description is checked before, and so it is a premise here. -/
theorem Entity.revise_altered {old new : Entity} {now : Timestamp} {changes : Changes}
    (h : old.revise now changes = .ok new)
    (honly : ¬ (old.kind = .acceptanceCriteria ∧ changes.namesMoreThanDescription = true)) :
    old.Altered changes now new := by
  cases revised_of_ok h with
  | epic hcard hstatus =>
    exact .epic (Card.revise_altered hcard) (WorkflowStatus.revise_altered hstatus)
  | story hcard hstatus =>
    exact .story (Card.revise_altered hcard) (WorkflowStatus.revise_altered hstatus)
  | criteria hdescription =>
    obtain ⟨hgiven, hfilled⟩ := Rules.requiredDescription_kept hdescription
    have hnoMore : ¬ changes.namesMoreThanDescription = true := fun hmore => honly ⟨rfl, hmore⟩
    exact .criteria (Changes.eq_of_only_description hnoMore hgiven) hfilled rfl
  | requirement hcard hstatus =>
    exact .requirement (Card.revise_altered hcard) (RequirementStatus.revise_altered hstatus)

namespace Store

variable {store after : Store} {kind : Kind} {id : Uuid} {changes : Changes} {now : Timestamp}
  {old entity : Entity} {revision : Revision}

/-- What has been revised is altered as the change says. -/
theorem revise_altered (h : store.revise now kind id changes = .ok revision)
    (hfound : store.findEntity kind (.byId id) = .ok old) :
    old.Altered changes now revision.entity := by
  obtain ⟨found, hsame, hrevise, -, honly⟩ := revise_of_ok h
  rw [hfound] at hsame
  cases hsame
  refine Entity.revise_altered hrevise ?_
  rwa [kind_of_findEntity hfound]

/-! ## The store -/

/-- **Has one artifact been replaced, and nothing else changed?** Of the comments on it the anchors
are brought in line with its text if this is another one. Every part of a store has its field here.
-/
structure Replaces (store after : Store) (kind : Kind) (id : Uuid) (old new : Entity) : Prop where
  shelves : ∀ other, (after.shelf other).entries = (store.shelf other).entries.map fun entry =>
    if other = kind ∧ entry.1 = id then (id, .entity new) else entry
  relationships : after.relationships = store.relationships
  links : after.links = store.links
  issued : after.issued = store.issued
  users : after.users = store.users
  prompts : after.prompts = store.prompts
  comments : after.comments = store.comments.map fun comment =>
    { comment with
      anchor :=
        if comment.kind = kind ∧ comment.artifact = id ∧ new.body ≠ old.body then
          comment.anchor.map fun anchor => (anchor.reconcile new.body).2
        else comment.anchor }

/-- **On the shelves** the artifact is another one in its place, and everything else is as before.
No other record has the identifier, and so only one entry is replaced. -/
theorem shelf_entries_file (hstore : ∀ kind, store.Numbered kind)
    (hfound : store.findEntity kind (.byId id) = .ok old) (hkind : entity.kind = kind) (other : Kind) :
    ((store.file id (.entity entity)).shelf other).entries =
      (store.shelf other).entries.map fun entry =>
        if other = kind ∧ entry.1 = id then (id, .entity entity) else entry := by
  rw [shelf_file, Artifact.kind_entity, hkind]
  by_cases hother : kind = other
  · subst hother
    rw [if_pos rfl, Table.entries_insert_of_found (hstore kind).nodup_ids
      (findEntity_eq_ok_iff.1 hfound)]
    simp only [true_and]
  · have hnone : ∀ entry : Uuid × Artifact, ¬ (other = kind ∧ entry.1 = id) :=
      fun _ h => hother h.1.symm
    simp only [if_neg hother, hnone, if_false, List.map_id']

/-- A comment is reconciled in its anchor alone. -/
theorem reconcile_eq (comment : Comment) (body : String) :
    comment.reconcile body =
      { comment with anchor := comment.anchor.map fun anchor => (anchor.reconcile body).2 } := by
  obtain ⟨_, _, _, _, _, _, _, anchor, _, _⟩ := comment
  cases anchor <;> rfl

/-- **Among the comments** nothing is different but the anchors on the artifact, and these only if
its text is. That they were in line is what makes it so when they are reconciled with the same text.
Nothing is assumed of the test but that it does not miss a change. -/
theorem comments_after_change (hanchors : store.AnchorsInLine)
    (hfound : store.findEntity kind (.byId id) = .ok old) {bodyChanged : Bool}
    (hbody : bodyChanged = false → entity.body = old.body) :
    (if bodyChanged then reconcileComments store.comments kind id entity.body else store.comments) =
      store.comments.map fun comment =>
        { comment with
          anchor :=
            if comment.kind = kind ∧ comment.artifact = id ∧ entity.body ≠ old.body then
              comment.anchor.map fun anchor => (anchor.reconcile entity.body).2
            else comment.anchor } := by
  cases bodyChanged with
  | false =>
    have hsame : ∀ comment : Comment,
        ¬ (comment.kind = kind ∧ comment.artifact = id ∧ entity.body ≠ old.body) :=
      fun _ h => h.2.2 (hbody rfl)
    simp only [Bool.false_eq_true, if_false, hsame, List.map_id']
  | true =>
    rw [if_pos rfl, reconcileComments]
    refine List.map_congr_left fun comment hmem => ?_
    by_cases hon : comment.isOn kind id = true
    · rw [if_pos hon, reconcile_eq]
      obtain ⟨hkind, hartifact⟩ := isOn_iff.1 hon
      by_cases hbody : entity.body = old.body
      · rw [if_neg fun h => h.2.2 hbody]
        -- the text is what it was, and the anchor is in line with it
        cases hanchor : comment.anchor with
        | none => rfl
        | some anchor =>
          obtain ⟨found, hfoundHere, hinLine⟩ := hanchors comment hmem anchor hanchor
          rw [hkind, hartifact, hfound] at hfoundHere
          cases hfoundHere
          rw [hbody, Option.map_some, Anchor.reconcile_of_inLine hinLine]
      · rw [if_pos ⟨hkind, hartifact, hbody⟩]
    · rw [if_neg hon, if_neg fun h => hon (isOn_iff.2 ⟨h.1, h.2.1⟩)]

/-- An artifact that is filed in place of another one replaces it. -/
theorem replaces_of_revises (hstore : Reachable store) (h : Revises store kind id changes old revision) :
    store.Replaces { store.file id (.entity revision.entity) with
      comments := if revision.bodyChanged then
          reconcileComments store.comments kind id revision.entity.body
        else store.comments } kind id old revision.entity := by
  have hkind : revision.entity.kind = kind := by
    rw [← Entity.identity_kind, h.identity, Entity.identity_kind]
    exact kind_of_findEntity h.found
  have hanchors : store.AnchorsInLine := hstore.invariant anchorsInLine_initial AnchorsInLine.effect
  refine ⟨?_, ?_, ?_, ?_, ?_, ?_, comments_after_change hanchors h.found h.body⟩
  · intro other
    rw [shelf_with_comments]
    exact shelf_entries_file hstore.numbered h.found hkind other
  · exact file_relationships store id _
  · exact file_links store id _
  · exact file_issued store id _
  · exact file_users store id _
  · exact file_prompts store id _

/-- **A change changes what it names.** In a store that can come about, a change that succeeds answers
with the artifact that is filed from then on in place of the one that it names. This artifact has the
identity of the one before: its identifier and reference, where it belongs, who made it and when, and
what type it is of. Each of its fields is what it was unless the change names it, and has the form in
which it is kept if it does. All other artifacts, and all relationships, links, users, prompts and
numbers, are what they were, in their order; so are the comments, but for the anchors on the artifact
when its text is another one, and these are reconciled with it. -/
theorem change_changes_what_it_names (hstore : Reachable store) {stamp : Stamp}
    (h : (store.perform stamp (.updateEntity kind id changes)).answer = .ok entity) :
    let after := (store.perform stamp (.updateEntity kind id changes)).store
    ∃ old, store.findEntity kind (.byId id) = .ok old ∧
      after.findEntity kind (.byId id) = .ok entity ∧ entity.identity = old.identity ∧
      old.Altered changes stamp.now entity ∧ store.Replaces after kind id old entity := by
  intro after
  simp only [perform, run_update] at h
  have hupdate := writeNoting_of_ok h
  rw [← run_update] at hupdate
  change store.update stamp.now kind id changes = .ok (entity, after, _) at hupdate
  obtain ⟨old, revision, -, hrevise, hrevises, rfl, hafter⟩ := update_spec hupdate
  rw [hafter]
  refine ⟨old, hrevises.found, ?_, hrevises.identity, ?_, replaces_of_revises hstore hrevises⟩
  · rw [findEntity_congr (shelf_with_comments _ _)]
    exact findEntity_file hrevises.found hrevises.identity
  · exact revise_altered hrevise hrevises.found

/-- A new title with blanks around it, and a description in which a word stands further back. -/
def severalChanges : Changes :=
  { Changes.none with title := some " Find ", description := some "find old things" }

/-- The epic of `movingRun`, before its description is changed there. -/
def searchEpic : Epic :=
  { card :=
      { id := (Stamp.nth 1).id
        reference := "EP-001"
        title := "Search"
        description := some "find things"
        priority := .high
        creator := (Stamp.nth 0).id
        assignee := none
        createdAt := (Stamp.nth 1).now
        modifiedAt := (Stamp.nth 1).now }
    status := .backlog }

/-- The comment on the word is moved with it. -/
theorem change_changes_what_it_names_several :
    let store := (initial [] []).run (movingRun.take 2)
    let performed := store.perform (.nth 3) (.updateEntity .epic (Stamp.nth 1).id severalChanges)
    ∃ new, Reachable store ∧ performed.answer = .ok new ∧ new.title = "Find" ∧
      performed.store.comments = [movedComment] ∧
      (Entity.epic searchEpic).Altered severalChanges (Stamp.nth 3).now new ∧
      store.Replaces performed.store .epic (Stamp.nth 1).id (.epic searchEpic) new := by
  intro store performed
  have hfresh : (initial [] []).FreshRun (movingRun.take 2) := by decide +kernel
  have hstore : Reachable store := (Reachable.initial [] []).run hfresh
  have hsearch : store.findEntity .epic (.byId (Stamp.nth 1).id) = .ok (.epic searchEpic) := by
    decide +kernel
  let new : Entity := .epic
    { searchEpic with
      card := { searchEpic.card with
        title := "Find"
        description := some "find old things"
        modifiedAt := (Stamp.nth 3).now } }
  have hanswer : performed.answer = .ok new := by decide +kernel
  have hmoved : performed.store.comments = [movedComment] := by decide +kernel
  obtain ⟨old, hfound, -, -, haltered, hreplaces⟩ := change_changes_what_it_names hstore hanswer
  rw [hsearch] at hfound
  cases hfound
  exact ⟨new, hstore, hanswer, rfl, hmoved, haltered, hreplaces⟩

end Store

end Planroom
