import Planroom.Proofs.Store.Shelf
import Planroom.Proofs.Store.Transaction

/-!
# A change, whatever the kind

Each kind of artifact has a function of its own that changes it. What they do is said here once for
all kinds.

* **One artifact** — `Entity.revise` is an artifact after a change, or the reason why there is none.
  Whether there is one depends on the kind of the artifact alone (`outcome_revise_congr`), and of
  the time nothing depends but when it was modified (`revise_modifiedOn`).
* **One store** — `Store.put` is a store in which an artifact has taken the place of another one,
  with the anchors on it in line.
* **The change** — `update_eq`: what is asked for is checked, the artifact is looked up and revised,
  and the result is put in its place.
-/

namespace Planroom

/-! ## Outcomes -/

section Outcome

variable {α β γ δ : Type}

/-- **Did it succeed**, and if not, why? Two attempts can have the same outcome though they lead to
different things. -/
def outcome (result : Except Failure α) : Except Failure Unit :=
  result.map fun _ => ()

/-- Two attempts that go on alike after the same outcome have the same outcome. -/
theorem outcome_bind {first : Except Failure α} {second : Except Failure β}
    {next : α → Except Failure γ} {other : β → Except Failure δ}
    (h : outcome first = outcome second)
    (hnext : ∀ a b, first = .ok a → second = .ok b → outcome (next a) = outcome (other b)) :
    outcome (first >>= next) = outcome (second >>= other) := by
  cases first with
  | error failure =>
    cases second with
    | error same =>
      cases h
      rfl
    | ok b => cases h
  | ok a =>
    cases second with
    | error failure => cases h
    | ok b => exact hnext a b rfl rfl

/-- An attempt with the outcome of one that succeeds succeeds too. -/
theorem ok_of_outcome {first : Except Failure α} {second : Except Failure β} {a : α}
    (h : outcome second = outcome first) (hfirst : first = .ok a) : ∃ b, second = .ok b := by
  subst hfirst
  cases second with
  | error failure => cases h
  | ok b => exact ⟨b, rfl⟩

/-- One with the outcome of one that fails fails too, and for the same reason. -/
theorem error_of_outcome {first : Except Failure α} {second : Except Failure β} {failure : Failure}
    (h : outcome second = outcome first) (hfirst : first = .error failure) :
    second = .error failure := by
  subst hfirst
  cases second with
  | error same =>
    cases h
    rfl
  | ok b => cases h

end Outcome

/-! ## One artifact -/

/-- The card as if it had been modified at another time. -/
def Card.modifiedOn (card : Card) (now : Timestamp) : Card :=
  { card with modifiedAt := now }

section Fields

variable {old other : Option String} {given : Option String}

/-- A title is refused for what it is, not for the one that it replaces. -/
theorem outcome_reviseTitle (old other : String) :
    outcome (reviseTitle old given) = outcome (reviseTitle other given) := by
  cases given <;> rfl

/-- A description is refused for what it is, likewise. -/
theorem outcome_reviseDescription :
    outcome (reviseDescription old given) = outcome (reviseDescription other given) := by
  cases given <;> rfl

/-- Any state may follow any other one, so that a state is refused only if it cannot be read. -/
theorem WorkflowStatus.outcome_revise (old other : WorkflowStatus) :
    outcome (old.revise given) = outcome (other.revise given) := by
  cases given <;> rfl

/-- It is the same with the states of a requirement. -/
theorem RequirementStatus.outcome_revise (old other : RequirementStatus) :
    outcome (old.revise given) = outcome (other.revise given) := by
  cases given <;> rfl

/-- Whether a card can be changed does not depend on the card. -/
theorem Card.outcome_revise (card other : Card) (now later : Timestamp) (changes : Changes) :
    outcome (card.revise now changes) = outcome (other.revise later changes) := by
  refine outcome_bind (outcome_reviseTitle _ _) fun _ _ _ _ => ?_
  exact outcome_bind outcome_reviseDescription fun _ _ _ _ => rfl

/-- A card is revised whenever it was modified before, and has been modified when it is revised. -/
theorem Card.revise_modifiedOn (card : Card) (now before later : Timestamp) (changes : Changes) :
    (card.modifiedOn before).revise later changes =
      (card.revise now changes).map (·.modifiedOn later) := by
  simp only [Card.revise, modifiedOn]
  cases reviseTitle card.title changes.title with
  | error failure => rfl
  | ok title =>
    cases reviseDescription card.description changes.description <;> rfl

end Fields

namespace Entity

/-- **The text that comments point into**, where there is one. For acceptance criteria there always
is. -/
def text : Entity → Option String
  | .epic e => e.card.description
  | .story s => s.card.description
  | .criteria c => some c.description
  | .requirement r => r.card.description

/-- An artifact without a text has the empty one as its body. -/
theorem body_eq (entity : Entity) : entity.body = entity.text.getD "" := by
  cases entity <;> rfl

/-- **An artifact as if it had been modified at another time.** Two artifacts that are the same on
the same time differ in their times at most. -/
def modifiedOn (now : Timestamp) : Entity → Entity
  | .epic e => .epic { e with card := e.card.modifiedOn now }
  | .story s => .story { s with card := s.card.modifiedOn now }
  | .criteria c => .criteria { c with modifiedAt := now }
  | .requirement r => .requirement { r with card := r.card.modifiedOn now }

@[simp] theorem kind_modifiedOn (entity : Entity) (now : Timestamp) :
    (entity.modifiedOn now).kind = entity.kind := by
  cases entity <;> rfl

@[simp] theorem text_modifiedOn (entity : Entity) (now : Timestamp) :
    (entity.modifiedOn now).text = entity.text := by
  cases entity <;> rfl

/-- Artifacts that differ in their times at most are of one kind. -/
theorem kind_eq_of_modifiedOn {entity other : Entity} {now : Timestamp}
    (h : entity.modifiedOn now = other.modifiedOn now) : entity.kind = other.kind := by
  rw [← entity.kind_modifiedOn now, h, kind_modifiedOn]

/-- And they have the same text. -/
theorem text_eq_of_modifiedOn {entity other : Entity} {now : Timestamp}
    (h : entity.modifiedOn now = other.modifiedOn now) : entity.text = other.text := by
  rw [← entity.text_modifiedOn now, h, text_modifiedOn]

/-- **An artifact after a change.** The store has one function for each kind, which looks the
artifact up, changes it and files it; this is the middle part of all of them. -/
def revise (entity : Entity) (now : Timestamp) (changes : Changes) : Except Failure Entity :=
  match entity with
  | .epic e => do
    let card ← e.card.revise now changes
    let status ← e.status.revise changes.status
    return .epic ⟨card, status⟩
  | .story s => do
    let card ← s.card.revise now changes
    let status ← s.status.revise changes.status
    return .story { s with card := card, status := status }
  | .criteria c => do
    let description ← Rules.requiredDescription changes.description
    return .criteria { c with description := description, modifiedAt := now }
  | .requirement r => do
    let card ← r.card.revise now changes
    let status ← r.status.revise changes.status
    return .requirement { r with card := card, status := status }

variable {old new other : Entity} {now later : Timestamp} {changes : Changes}

/-- **Whether an artifact can be changed** depends on its kind alone. Each field that is given is
checked by itself, and none is compared with what is there. -/
theorem outcome_revise_congr (hkind : old.kind = other.kind) :
    outcome (old.revise now changes) = outcome (other.revise later changes) := by
  cases old with
  | epic e =>
    cases other with
    | epic f =>
      refine outcome_bind (Card.outcome_revise _ _ _ _ _) fun _ _ _ _ => ?_
      exact outcome_bind (WorkflowStatus.outcome_revise _ _) fun _ _ _ _ => rfl
    | _ => cases hkind
  | story s =>
    cases other with
    | story t =>
      refine outcome_bind (Card.outcome_revise _ _ _ _ _) fun _ _ _ _ => ?_
      exact outcome_bind (WorkflowStatus.outcome_revise _ _) fun _ _ _ _ => rfl
    | _ => cases hkind
  | criteria c =>
    cases other with
    | criteria d => exact outcome_bind rfl fun _ _ _ _ => rfl
    | _ => cases hkind
  | requirement r =>
    cases other with
    | requirement t =>
      refine outcome_bind (Card.outcome_revise _ _ _ _ _) fun _ _ _ _ => ?_
      exact outcome_bind (RequirementStatus.outcome_revise _ _) fun _ _ _ _ => rfl
    | _ => cases hkind

/-- **What an artifact becomes** when it can be changed. What the constructors do not name stays as
it is. -/
inductive Revised (now : Timestamp) (changes : Changes) : Entity → Entity → Prop where
  | epic {epic : Epic} {card : Card} {status : WorkflowStatus}
      (hcard : epic.card.revise now changes = .ok card)
      (hstatus : epic.status.revise changes.status = .ok status) :
      Revised now changes (.epic epic) (.epic ⟨card, status⟩)
  | story {story : UserStory} {card : Card} {status : WorkflowStatus}
      (hcard : story.card.revise now changes = .ok card)
      (hstatus : story.status.revise changes.status = .ok status) :
      Revised now changes (.story story) (.story { story with card := card, status := status })
  | criteria {criteria : Criteria} {description : String}
      (hdescription : Rules.requiredDescription changes.description = .ok description) :
      Revised now changes (.criteria criteria)
        (.criteria { criteria with description := description, modifiedAt := now })
  | requirement {requirement : Requirement} {card : Card} {status : RequirementStatus}
      (hcard : requirement.card.revise now changes = .ok card)
      (hstatus : requirement.status.revise changes.status = .ok status) :
      Revised now changes (.requirement requirement)
        (.requirement { requirement with card := card, status := status })

/-- A change that succeeds makes of an artifact what `Revised` says. -/
theorem revised_of_ok (h : old.revise now changes = .ok new) : Revised now changes old new := by
  cases old with
  | epic e =>
    obtain ⟨card, hcard, h⟩ := Store.ok_of_bind h
    obtain ⟨status, hstatus, h⟩ := Store.ok_of_bind h
    cases h
    exact .epic hcard hstatus
  | story s =>
    obtain ⟨card, hcard, h⟩ := Store.ok_of_bind h
    obtain ⟨status, hstatus, h⟩ := Store.ok_of_bind h
    cases h
    exact .story hcard hstatus
  | criteria c =>
    obtain ⟨description, hdescription, h⟩ := Store.ok_of_bind h
    cases h
    exact .criteria hdescription
  | requirement r =>
    obtain ⟨card, hcard, h⟩ := Store.ok_of_bind h
    obtain ⟨status, hstatus, h⟩ := Store.ok_of_bind h
    cases h
    exact .requirement hcard hstatus

/-- A change does not make an artifact one of another kind. -/
theorem kind_of_revise (h : old.revise now changes = .ok new) : new.kind = old.kind := by
  cases revised_of_ok h <;> rfl

/-- Putting a new time into what a card and a state are made into. -/
theorem map_bind_revised {α : Type} {card : Except Failure Card} {status : Except Failure α}
    {make : Card → α → Entity}
    (hmake : ∀ c s, make (c.modifiedOn later) s = (make c s).modifiedOn later) :
    (do
      let c ← card.map (·.modifiedOn later)
      let s ← status
      return make c s) =
    (do
      let c ← card
      let s ← status
      return make c s : Except Failure Entity).map (·.modifiedOn later) := by
  cases card with
  | error failure => rfl
  | ok c =>
    cases status with
    | error failure => rfl
    | ok s => exact congrArg Except.ok (hmake c s)

/-- **When an artifact was modified before** makes no difference to a change, and the time of the
change none but for when it is modified. So two changes that are made in either order lead to the
same artifact but for its times. -/
theorem revise_modifiedOn (old : Entity) (now before later : Timestamp) (changes : Changes) :
    (old.modifiedOn before).revise later changes =
      (old.revise now changes).map (·.modifiedOn later) := by
  cases old with
  | epic e =>
    simp only [revise, modifiedOn, e.card.revise_modifiedOn now]
    exact map_bind_revised fun _ _ => rfl
  | story s =>
    simp only [revise, modifiedOn, s.card.revise_modifiedOn now]
    exact map_bind_revised fun _ _ => rfl
  | criteria c =>
    simp only [revise, modifiedOn]
    cases Rules.requiredDescription changes.description <;> rfl
  | requirement r =>
    simp only [revise, modifiedOn, r.card.revise_modifiedOn now]
    exact map_bind_revised fun _ _ => rfl

end Entity

/-! ## One store -/

namespace Store

/-- **The comments when an artifact has become another one.** The anchors on it are brought in line
with its text if this is not the same. Comments on other artifacts stay as they are. -/
def commentsAfter (kind : Kind) (id : Uuid) (old new : Entity) (comments : List Comment) :
    List Comment :=
  if old.text = new.text then comments else reconcileComments comments kind id new.body

/-- **The store with one artifact in place of another one**, and the comments in line with it. It
speaks of no change, so that two ways of changing an artifact can be compared by what they put. -/
def put (store : Store) (kind : Kind) (id : Uuid) (old new : Entity) : Store :=
  { store.file id (.entity new) with comments := commentsAfter kind id old new store.comments }

/-- What happens to the anchors then. -/
def notesAfter (store : Store) (kind : Kind) (id : Uuid) (old new : Entity) : List AnchorNote :=
  if old.text = new.text then [] else anchorNotes store.comments kind id new.body

variable {store other : Store} {kind later : Kind} {id key : Uuid} {old new : Entity}
  {now : Timestamp} {changes : Changes}

@[simp] theorem commentsAfter_of_text_eq (h : old.text = new.text) (comments : List Comment) :
    commentsAfter kind id old new comments = comments :=
  if_pos h

@[simp] theorem shelf_put :
    (store.put kind id old new).shelf = (store.file id (.entity new)).shelf :=
  shelf_with_comments _ _

/-- An artifact with the same text is merely filed. -/
theorem put_of_text_eq (h : old.text = new.text) :
    store.put kind id old new = store.file id (.entity new) := by
  rw [put, commentsAfter_of_text_eq h, ← file_comments store id (.entity new)]

/-- The new artifact is found in the place of the old one. -/
theorem findEntity_put (hkind : new.kind = kind) :
    (store.put kind id old new).findEntity kind (.byId id) = .ok new := by
  rw [findEntity_eq_ok_iff, shelf_put, Table.find?, get?_shelf_file, Artifact.kind_entity,
    if_pos ⟨hkind, rfl⟩]

/-- Everywhere else what was there is found. A shelf may be of another kind or the identifier
another one. -/
theorem findEntity_put_elsewhere {found : Entity} (hkind : new.kind = kind)
    (hapart : ¬ (kind = later ∧ id = key)) :
    (store.put kind id old new).findEntity later (.byId key) = .ok found ↔
      store.findEntity later (.byId key) = .ok found := by
  rw [findEntity_eq_ok_iff, findEntity_eq_ok_iff, shelf_put, Table.find?, get?_shelf_file,
    Artifact.kind_entity, hkind, if_neg hapart]
  rfl

/-! ## The change -/

/-- **What is checked of a change** before the artifact is looked up. So a change that asks for
nothing fails whether or not there is such an artifact. -/
def checkChanges (store : Store) (kind : Kind) (changes : Changes) : Except Failure Unit := do
  if changes.isEmpty then throw (.invalid .nothingToUpdate)
  store.ensureNewAssignee changes.assignee
  if kind = .acceptanceCriteria ∧ changes.namesMoreThanDescription = true then
    throw (.invalid .descriptionOnly)

/-- Of the store it matters only who is known. -/
theorem checkChanges_congr (husers : other.users = store.users) :
    other.checkChanges kind changes = store.checkChanges kind changes := by
  have hassignee : other.ensureNewAssignee = store.ensureNewAssignee := by
    funext change
    cases change <;> simp only [ensureNewAssignee, ensureUser, husers]
  simp only [checkChanges, hassignee]

/-- The change of an artifact into another one. -/
def revision (store : Store) (id : Uuid) (old new : Entity) : Revision :=
  ⟨new, store.file id (.entity new), old.text != new.text⟩

/-- A card is revised and a state is read, and then there is an artifact with which it goes on. -/
theorem bind_revised {α β γ δ ε : Type} (first : Except ε α) (second : Except ε β)
    (make : α → β → γ) (rest : γ → Except ε δ) :
    (do
      let card ← first
      let status ← second
      rest (make card status)) =
    (do
      let new ← (do
        let card ← first
        let status ← second
        return make card status)
      rest new) := by
  cases first with
  | error failure => rfl
  | ok card => cases second <;> rfl

/-- An artifact of any kind is looked up and revised. Acceptance criteria are asked first whether
more is named than their description; this has been answered where the equation is used. -/
theorem revise_eq
    (hkind : ¬ (kind = .acceptanceCriteria ∧ changes.namesMoreThanDescription = true)) :
    store.revise now kind id changes = (do
      let old ← store.findEntity kind (.byId id)
      let new ← old.revise now changes
      return store.revision id old new) := by
  cases kind with
  | epic =>
    simp only [revise, reviseEpic, findEntity, Table.find?]
    cases store.epics.get? id with
    | none => rfl
    | some epic =>
      exact bind_revised (epic.card.revise now changes) (epic.status.revise changes.status)
        (fun card status => Entity.epic ⟨card, status⟩)
        fun new => .ok (store.revision id (.epic epic) new)
  | userStory =>
    simp only [revise, reviseStory, findEntity, Table.find?]
    cases store.stories.get? id with
    | none => rfl
    | some story =>
      exact bind_revised (story.card.revise now changes) (story.status.revise changes.status)
        (fun card status => Entity.story { story with card := card, status := status })
        fun new => .ok (store.revision id (.story story) new)
  | acceptanceCriteria =>
    rw [not_and, Bool.not_eq_true] at hkind
    simp only [revise, reviseCriteria, findEntity, Table.find?, hkind rfl]
    cases store.criteria.get? id with
    | none => rfl
    | some criteria =>
      simp only [require, Entity.revise]
      cases Rules.requiredDescription changes.description with
      | error failure => rfl
      | ok description =>
        -- criteria always have a text, and the code compares it as it is
        have htext : (criteria.description != description) =
            (some criteria.description != some description) := by
          rw [bne, bne, Option.some_beq_some]
        exact congrArg (fun changed => Except.ok (Revision.mk _ _ changed)) htext
  | requirement =>
    simp only [revise, reviseRequirement, findEntity, Table.find?]
    cases store.requirements.get? id with
    | none => rfl
    | some requirement =>
      exact bind_revised (requirement.card.revise now changes)
        (requirement.status.revise changes.status)
        (fun card status => Entity.requirement { requirement with card := card, status := status })
        fun new => .ok (store.revision id (.requirement requirement) new)
  | steeringDocument => rfl

/-- **What has been revised** was found, and is in its place. That a change of criteria which names
more does not get so far is part of it. -/
theorem revise_of_ok {revision : Revision} (h : store.revise now kind id changes = .ok revision) :
    ∃ old, store.findEntity kind (.byId id) = .ok old ∧
      old.revise now changes = .ok revision.entity ∧
      revision = store.revision id old revision.entity ∧
      ¬ (kind = .acceptanceCriteria ∧ changes.namesMoreThanDescription = true) := by
  have hkind : ¬ (kind = .acceptanceCriteria ∧ changes.namesMoreThanDescription = true) := by
    rintro ⟨rfl, hmore⟩
    simp only [revise, reviseCriteria, hmore] at h
    cases h
  rw [revise_eq hkind] at h
  obtain ⟨old, hfound, h⟩ := ok_of_bind h
  obtain ⟨new, hrevise, h⟩ := ok_of_bind h
  cases h
  exact ⟨old, hfound, hrevise, rfl, hkind⟩

/-- The comments are looked at once the artifact is in its place, which has not touched them.
Whether this is done depends on the text alone. -/
theorem settle_revision {ε : Type} :
    (let revision := store.revision id old new
    if revision.bodyChanged then
      .ok (revision.entity,
        { revision.store with
          comments := reconcileComments revision.store.comments kind id revision.entity.body },
        anchorNotes revision.store.comments kind id revision.entity.body)
    else .ok (revision.entity, revision.store, [])) =
      (.ok (new, store.put kind id old new, store.notesAfter kind id old new) :
        Except ε (Entity × Store × List AnchorNote)) := by
  have hcomments : (store.file id (.entity new)).comments = store.comments :=
    file_comments store id _
  by_cases htext : old.text = new.text
  · simp only [revision, put_of_text_eq htext, notesAfter, htext, bne_self_eq_false,
      Bool.false_eq_true, if_false, if_true]
  · simp only [revision, put, commentsAfter, notesAfter, bne_iff_ne.2 htext, if_true, if_neg htext,
      hcomments]

/-- **A change** is checked, then the artifact is looked up and revised, and then put in its place.
This is all that later proofs know of a change. -/
theorem update_eq : store.update now kind id changes = (do
    store.checkChanges kind changes
    let old ← store.findEntity kind (.byId id)
    let new ← old.revise now changes
    return (new, store.put kind id old new, store.notesAfter kind id old new)) := by
  unfold update checkChanges
  cases changes.isEmpty with
  | true => rfl
  | false =>
    cases store.ensureNewAssignee changes.assignee with
    | error failure => rfl
    | ok _ =>
      by_cases hkind : kind = .acceptanceCriteria ∧ changes.namesMoreThanDescription = true
      · -- the store looks at this once it revises the criteria, and by then nothing has been looked
        -- up
        obtain ⟨rfl, hmore⟩ := hkind
        simp only [revise, reviseCriteria, hmore]
        rfl
      · rw [if_neg hkind, revise_eq hkind]
        cases store.findEntity kind (.byId id) with
        | error failure => rfl
        | ok old =>
          change ((old.revise now changes >>= _) >>= _) = (old.revise now changes >>= _)
          cases old.revise now changes with
          | error failure => rfl
          | ok new => exact settle_revision

variable {stamp : Stamp}

/-- What a change comes to that is asked for. -/
theorem perform_update_eq : store.perform stamp (.updateEntity kind id changes) =
    .writeNoting store (do
      store.checkChanges kind changes
      let old ← store.findEntity kind (.byId id)
      let new ← old.revise stamp.now changes
      return (new, store.put kind id old new, store.notesAfter kind id old new)) := by
  rw [perform, run_update, update_eq]

/-- **A change that succeeds** puts what has become of the artifact in its place. The artifact keeps
its kind, so that it stays on its shelf. -/
theorem perform_update_of_ok
    (h : (store.perform stamp (.updateEntity kind id changes)).answer = .ok new) :
    ∃ old, store.findEntity kind (.byId id) = .ok old ∧ old.revise stamp.now changes = .ok new ∧
      new.kind = kind ∧
      (store.perform stamp (.updateEntity kind id changes)).store = store.put kind id old new := by
  rw [perform_update_eq] at h ⊢
  have hupdate := writeNoting_of_ok h
  obtain ⟨_, -, hupdate⟩ := ok_of_bind hupdate
  obtain ⟨old, hfound, hupdate⟩ := ok_of_bind hupdate
  obtain ⟨revised, hrevise, hupdate⟩ := ok_of_bind hupdate
  obtain ⟨rfl, hrest⟩ := Prod.mk.inj (Except.ok.inj hupdate)
  have hkind := (Entity.kind_of_revise hrevise).trans (kind_of_findEntity hfound)
  exact ⟨old, hfound, hrevise, hkind, (Prod.mk.inj hrest).1.symm⟩

end Store

end Planroom
