import Planroom.Proofs.Store.Revision

/-!
# What an access does to a store

There are nine things that an access can do to a store, and one of them is nothing. `Effect` lists
them, each with what was checked before it was done; `perform_effect` says that there are no others.
What is to hold of a store whatever is asked of it is shown effect by effect.

* **Created** — an artifact is filed under the identifier of the stamp, and its number is used up.
  This is the only effect with an artifact that was created.
* **Updated** — an artifact is filed in place of one with the same identity; when its body is
  different, the anchors on it are brought in line.
* **Related, linked, unlinked, commented, resolved** — one of the lists is longer, or shorter, by
  one entry, or one entry of it is different.
-/

namespace Planroom

/-- Does the access draw an identifier, for what it creates? -/
def Access.drawsId : Access → Bool
  | .createEpic .. | .createStory .. | .createCriteria .. | .createRequirement ..
  | .createDocument .. | .createRelationship .. | .createComment .. => true
  | _ => false

/-- **The sorts of what users make.** Links are nobody's. -/
inductive Product where
  | artifact
  | relationship
  | remark
  deriving DecidableEq, Repr

/-- **What an access makes, and whose it is**, if it makes something. The store does not check
whether there is such a user. -/
def Access.makes? : Access → Option (Product × Uuid)
  | .createEpic draft => some (.artifact, draft.creator)
  | .createStory _ draft => some (.artifact, draft.creator)
  | .createCriteria _ _ author => some (.artifact, author)
  | .createRequirement draft => some (.artifact, draft.card.creator)
  | .createDocument _ _ creator => some (.artifact, creator)
  | .createRelationship draft => some (.relationship, draft.creator)
  | .createComment draft => some (.remark, draft.author)
  | _ => none

/-- Only a write makes something. -/
theorem Access.isWrite_of_makes? {access : Access} {made : Product × Uuid}
    (h : access.makes? = some made) : access.isWrite = true := by
  cases access <;> first | rfl | cases h

/-- The artifact that an access answers with when it creates one. -/
def Access.created? : (access : Access) → access.Result → Option Artifact
  | .createEpic _, epic => some (.entity (.epic epic))
  | .createStory _ _, story => some (.entity (.story story))
  | .createCriteria _ _ _, criteria => some (.entity (.criteria criteria))
  | .createRequirement _, requirement => some (.entity (.requirement requirement))
  | .createDocument _ _ _, document => some (.document document)
  | _, _ => none

namespace Store

/-- **The artifact that an access creates**, if it creates one and succeeds. It is read from the
answer. -/
def created? (store : Store) (stamp : Stamp) (access : Access) : Option Artifact :=
  match (store.perform stamp access).answer with
  | .ok result => access.created? result
  | .error _ => none

/-- **Is everything there that an artifact refers to?** Documents refer to nothing. -/
def Admits (store : Store) : Artifact → Prop
  | .entity (.epic e) => store.ensureAssignee e.card.assignee = .ok ()
  | .entity (.story s) =>
    store.ensureEpic s.epic = .ok () ∧ store.ensureAssignee s.card.assignee = .ok ()
  | .entity (.criteria c) => store.ensureStory c.story = .ok ()
  | .entity (.requirement r) =>
    store.ensureStory r.story = .ok () ∧ store.ensureCriteriaOf r.story r.criteria = .ok () ∧
      store.ensureAssignee r.card.assignee = .ok ()
  | .document _ => True

/-- **What an access did**, with the artifact that it created, if any, and the store after it. The
store is written down as an expression, so that all that is not mentioned is as it was; and the
premises are what later proofs may know of the access. -/
inductive Effect (store : Store) (stamp : Stamp) : Access → Option Artifact → Store → Prop where
  | nothing (access : Access) : Effect store stamp access none store
  | created {access : Access} {artifact : Artifact}
      (hdraws : access.drawsId = true)
      (hid : artifact.id = stamp.id)
      (hreference : artifact.reference = store.nextReference artifact.kind)
      (hadmits : store.Admits artifact)
      (hmakes : access.makes? = some (.artifact, artifact.identity.creator)) :
      Effect store stamp access (some artifact)
        { store.file stamp.id artifact with issued := store.issued.issue artifact.kind }
  | updated {kind : Kind} {id : Uuid} {changes : Changes} {old new : Entity} {bodyChanged : Bool}
      (hfound : store.findEntity kind (.byId id) = .ok old)
      (hidentity : new.identity = old.identity)
      (hassignee : ∀ user, new.assignee = some user →
        old.assignee = some user ∨ store.ensureUser user = .ok ())
      (hbody : bodyChanged = false → new.body = old.body) :
      Effect store stamp (.updateEntity kind id changes) none
        { store.file id (.entity new) with
          comments := if bodyChanged then reconcileComments store.comments kind id new.body
            else store.comments }
  | documentUpdated {id : Uuid} {title description : Option String} {actor : User}
      {old new : SteeringDocument}
      (hfound : store.findDocument (.byId id) = .ok old)
      (hactor : actor.mayActFor old.creator = true)
      (hidentity : new.identity = old.identity) :
      Effect store stamp (.updateDocument id title description actor) none
        (store.file id (.document new))
  | related {draft : RelationshipDraft} {relationship : Relationship}
      (hid : relationship.id = stamp.id)
      (hsource : relationship.source = draft.source) (htarget : relationship.target = draft.target)
      (htype : relationship.type = draft.type)
      (hother : draft.source ≠ draft.target)
      (hsourceThere : store.ensureRequirement draft.source = .ok ())
      (htargetThere : store.ensureRequirement draft.target = .ok ())
      (hnew : store.hasRelationship draft = false)
      (hcreator : relationship.creator = draft.creator) :
      Effect store stamp (.createRelationship draft) none
        { store with relationships := store.relationships ++ [relationship] }
  | linked {document epic : Uuid}
      (hdocument : ∃ found, store.findDocument (.byId document) = .ok found)
      (hepic : ∃ found, store.findEntity .epic (.byId epic) = .ok found)
      (hnew : store.links.contains ⟨document, epic⟩ = false) :
      Effect store stamp (.linkDocument document epic) none
        { store with links := Link.insertIn ⟨document, epic⟩ store.links }
  | unlinked {document epic : Uuid}
      (hthere : store.links.contains ⟨document, epic⟩ = true) :
      Effect store stamp (.unlinkDocument document epic) none
        { store with links := store.links.erase ⟨document, epic⟩ }
  | commented {draft : CommentDraft} {comment : Comment} {entity : Entity}
      (hid : comment.id = stamp.id)
      (hkind : comment.kind = draft.kind) (hartifact : comment.artifact = draft.artifact)
      (hauthor : comment.author = draft.author) (hparent : comment.parent = draft.parent)
      (hopen : comment.resolved = false)
      (hcontent : Rules.content draft.content = .ok comment.content)
      (hfound : store.findEntity draft.kind (.byId draft.artifact) = .ok entity)
      (hcheck : store.checkParent draft = .ok ())
      (hanchor : draft.selection.anchor entity.body = .ok comment.anchor) :
      Effect store stamp (.createComment draft) none
        { store with comments := store.comments ++ [comment] }
  | resolved {id : Uuid} {resolved : Bool} {actor : User} {comment : Comment}
      (hfound : store.findComment id = .ok comment)
      (hactor : actor.mayActFor comment.author = true) :
      Effect store stamp (.setResolved id resolved actor) none
        { store with
          comments := replaceComment id
            (fun c => { c with resolved := resolved, updatedAt := stamp.now }) store.comments }

/-! ## Creating -/

variable {store after : Store} {stamp : Stamp}

theorem effect_createEpic {draft : CardDraft} {epic : Epic}
    (h : store.createEpic stamp draft = .ok (epic, after)) :
    Effect store stamp (.createEpic draft) (some (.entity (.epic epic))) after := by
  obtain ⟨title, -, h⟩ := ok_of_bind h
  obtain ⟨description, -, h⟩ := ok_of_bind h
  obtain ⟨_, hassignee, h⟩ := ok_of_bind h
  cases h
  exact .created rfl rfl rfl hassignee rfl

theorem effect_createStory {epic : Uuid} {draft : CardDraft} {story : UserStory}
    (h : store.createStory stamp epic draft = .ok (story, after)) :
    Effect store stamp (.createStory epic draft) (some (.entity (.story story))) after := by
  obtain ⟨title, -, h⟩ := ok_of_bind h
  obtain ⟨description, -, h⟩ := ok_of_bind h
  obtain ⟨_, hepic, h⟩ := ok_of_bind h
  obtain ⟨_, hassignee, h⟩ := ok_of_bind h
  cases h
  exact .created rfl rfl rfl ⟨hepic, hassignee⟩ rfl

theorem effect_createCriteria {story author : Uuid} {description : String} {criteria : Criteria}
    (h : store.createCriteria stamp story description author = .ok (criteria, after)) :
    Effect store stamp (.createCriteria story description author)
      (some (.entity (.criteria criteria))) after := by
  obtain ⟨kept, -, h⟩ := ok_of_bind h
  obtain ⟨_, hstory, h⟩ := ok_of_bind h
  cases h
  exact .created rfl rfl rfl hstory rfl

theorem effect_createRequirement {draft : RequirementDraft} {requirement : Requirement}
    (h : store.createRequirement stamp draft = .ok (requirement, after)) :
    Effect store stamp (.createRequirement draft) (some (.entity (.requirement requirement)))
      after := by
  obtain ⟨title, -, h⟩ := ok_of_bind h
  obtain ⟨description, -, h⟩ := ok_of_bind h
  obtain ⟨_, hstory, h⟩ := ok_of_bind h
  obtain ⟨_, hcriteria, h⟩ := ok_of_bind h
  obtain ⟨_, hassignee, h⟩ := ok_of_bind h
  cases h
  exact .created rfl rfl rfl ⟨hstory, hcriteria, hassignee⟩ rfl

theorem effect_createDocument {title : String} {description : Option String} {creator : Uuid}
    {document : SteeringDocument}
    (h : store.createDocument stamp title description creator = .ok (document, after)) :
    Effect store stamp (.createDocument title description creator) (some (.document document))
      after := by
  obtain ⟨keptTitle, -, h⟩ := ok_of_bind h
  obtain ⟨keptDescription, -, h⟩ := ok_of_bind h
  cases h
  exact .created rfl rfl rfl trivial rfl

theorem effect_createRelationship {draft : RelationshipDraft} {relationship : Relationship}
    (h : store.createRelationship stamp draft = .ok (relationship, after)) :
    Effect store stamp (.createRelationship draft) none after := by
  dsimp only [createRelationship] at h
  obtain ⟨hother, h⟩ := ok_of_unless h
  obtain ⟨_, hsource, h⟩ := ok_of_bind h
  obtain ⟨_, htarget, h⟩ := ok_of_bind h
  obtain ⟨hnew, h⟩ := ok_of_unless h
  cases h
  exact .related rfl rfl rfl rfl hother hsource htarget (Bool.eq_false_iff.2 hnew) rfl

/-! ## Changing -/

/-- **A change of an artifact**, apart from what becomes of the comments on it. It is the part that
all kinds have in common. -/
structure Revises (store : Store) (kind : Kind) (id : Uuid) (changes : Changes) (old : Entity)
    (revision : Revision) : Prop where
  found : store.findEntity kind (.byId id) = .ok old
  identity : revision.entity.identity = old.identity
  filed : revision.store = store.file id (.entity revision.entity)
  assignee : ∀ user, revision.entity.assignee = some user →
    old.assignee = some user ∨ changes.assignee = .assign user
  body : revision.bodyChanged = false → revision.entity.body = old.body

/-- A card keeps its identity, and is given to nobody that the change does not name. -/
theorem revise_card {card new : Card} {now : Timestamp} {changes : Changes}
    (h : card.revise now changes = .ok new) :
    (∀ kind parent, new.identity kind parent = card.identity kind parent) ∧
      ∀ user, new.assignee = some user →
        card.assignee = some user ∨ changes.assignee = .assign user := by
  obtain ⟨title, -, h⟩ := ok_of_bind h
  obtain ⟨description, -, h⟩ := ok_of_bind h
  cases h
  refine ⟨fun _ _ => rfl, fun user huser => ?_⟩
  change changes.assignee.apply card.assignee = some user at huser
  -- there is nobody new unless the change assigns somebody
  cases hchange : changes.assignee with
  | keep =>
    rw [hchange] at huser
    exact .inl huser
  | unassign =>
    rw [hchange] at huser
    cases huser
  | assign other =>
    rw [hchange] at huser
    cases huser
    exact .inr rfl

/-- **An artifact** keeps its identity, and is given to nobody that the change does not name. It is
the same for the three kinds with a card, and criteria have no assignee. -/
theorem revise_entity {old new : Entity} {now : Timestamp} {changes : Changes}
    (h : old.revise now changes = .ok new) :
    new.identity = old.identity ∧ ∀ user, new.assignee = some user →
      old.assignee = some user ∨ changes.assignee = .assign user := by
  cases Entity.revised_of_ok h with
  | epic hcard =>
    obtain ⟨hidentity, hassignee⟩ := revise_card hcard
    exact ⟨hidentity _ _, hassignee⟩
  | story hcard =>
    obtain ⟨hidentity, hassignee⟩ := revise_card hcard
    exact ⟨hidentity _ _, hassignee⟩
  | criteria => exact ⟨rfl, nofun⟩
  | requirement hcard =>
    obtain ⟨hidentity, hassignee⟩ := revise_card hcard
    refine ⟨?_, hassignee⟩
    simp only [Entity.identity, hidentity]

theorem revise_spec {now : Timestamp} {kind : Kind} {id : Uuid} {changes : Changes}
    {revision : Revision} (h : store.revise now kind id changes = .ok revision) :
    ∃ old, Revises store kind id changes old revision := by
  obtain ⟨old, hfound, hrevise, hrevision, -⟩ := revise_of_ok h
  obtain ⟨hidentity, hassignee⟩ := revise_entity hrevise
  rw [hrevision]
  refine ⟨old, hfound, hidentity, rfl, hassignee, fun hsame => ?_⟩
  have htext : old.text = revision.entity.text := bne_eq_false_iff_eq.1 hsame
  exact (Entity.body_eq _).trans ((congrArg (·.getD "") htext.symm).trans (Entity.body_eq old).symm)

/-- **An update that succeeds** is a change, after which the comments are brought in line if there
is need to. What was checked is told with it. -/
theorem update_spec {now : Timestamp} {kind : Kind} {id : Uuid} {changes : Changes} {entity : Entity}
    {notes : List AnchorNote} (h : store.update now kind id changes = .ok (entity, after, notes)) :
    ∃ old revision, store.ensureNewAssignee changes.assignee = .ok () ∧
      store.revise now kind id changes = .ok revision ∧
      Revises store kind id changes old revision ∧ revision.entity = entity ∧
      after = { store.file id (.entity entity) with
        comments := if revision.bodyChanged then reconcileComments store.comments kind id entity.body
          else store.comments } := by
  dsimp only [update] at h
  obtain ⟨-, h⟩ := ok_of_unless h
  obtain ⟨_, hknown, h⟩ := ok_of_bind h
  obtain ⟨revision, hrevise, h⟩ := ok_of_bind h
  obtain ⟨old, hrevises⟩ := revise_spec hrevise
  have hcomments : revision.store.comments = store.comments := by
    rw [hrevises.filed, file_comments]
  refine ⟨old, revision, hknown, hrevise, hrevises, ?_⟩
  -- what is reconciled are the comments of the store before, which the change has not touched
  cases hbody : revision.bodyChanged with
  | false =>
    rw [hbody, if_neg Bool.false_ne_true] at h
    cases h
    refine ⟨rfl, ?_⟩
    rw [if_neg Bool.false_ne_true, ← hcomments, ← hrevises.filed]
  | true =>
    rw [hbody, if_pos rfl] at h
    cases h
    refine ⟨rfl, ?_⟩
    rw [if_pos rfl, ← hcomments, ← hrevises.filed]

theorem effect_update {kind : Kind} {id : Uuid} {changes : Changes} {entity : Entity}
    {notes : List AnchorNote}
    (h : store.update stamp.now kind id changes = .ok (entity, after, notes)) :
    Effect store stamp (.updateEntity kind id changes) none after := by
  obtain ⟨old, revision, hknown, -, hrevises, rfl, rfl⟩ := update_spec h
  refine .updated hrevises.found hrevises.identity ?_ hrevises.body
  intro user huser
  rcases hrevises.assignee user huser with hold | hnew
  · exact .inl hold
  · rw [hnew] at hknown
    exact .inr hknown

theorem effect_updateDocument {id : Uuid} {title description : Option String} {actor : User}
    {document : SteeringDocument}
    (h : store.updateDocument stamp.now id title description actor = .ok (document, after)) :
    Effect store stamp (.updateDocument id title description actor) none after := by
  dsimp only [updateDocument] at h
  obtain ⟨-, h⟩ := ok_of_unless h
  obtain ⟨old, hfound, h⟩ := ok_of_bind h
  obtain ⟨hactor, h⟩ := ok_of_unless h
  obtain ⟨newTitle, -, h⟩ := ok_of_bind h
  obtain ⟨newDescription, -, h⟩ := ok_of_bind h
  cases h
  rw [Bool.not_eq_true', Bool.not_eq_false] at hactor
  exact .documentUpdated hfound hactor rfl

/-! ## Linking -/

theorem effect_link {document epic : Uuid} (h : store.link document epic = .ok after) :
    Effect store stamp (.linkDocument document epic) none after := by
  obtain ⟨found, hdocument, h⟩ := ok_of_bind h
  obtain ⟨entity, hepic, h⟩ := ok_of_bind h
  obtain ⟨hnew, h⟩ := ok_of_unless h
  cases h
  exact .linked ⟨found, hdocument⟩ ⟨entity, hepic⟩ (Bool.eq_false_iff.2 hnew)

theorem effect_unlink {document epic : Uuid} (h : store.unlink document epic = .ok after) :
    Effect store stamp (.unlinkDocument document epic) none after := by
  dsimp only [unlink] at h
  split at h
  · next hthere =>
    cases h
    exact .unlinked hthere
  · cases h

/-! ## Commenting -/

theorem effect_createComment {draft : CommentDraft} {comment : Comment}
    (h : store.createComment stamp draft = .ok (comment, after)) :
    Effect store stamp (.createComment draft) none after := by
  dsimp only [createComment] at h
  obtain ⟨-, h⟩ := ok_of_unless h
  obtain ⟨content, hcontent, h⟩ := ok_of_bind h
  obtain ⟨entity, hfound, h⟩ := ok_of_bind h
  obtain ⟨_, hcheck, h⟩ := ok_of_bind h
  obtain ⟨anchor, hanchor, h⟩ := ok_of_bind h
  cases h
  exact .commented rfl rfl rfl rfl rfl rfl hcontent hfound hcheck hanchor

theorem effect_setResolved {id : Uuid} {resolved : Bool} {actor : User} {comment : Comment}
    (h : store.setResolved stamp.now id resolved actor = .ok (comment, after)) :
    Effect store stamp (.setResolved id resolved actor) none after := by
  obtain ⟨found, hfound, h⟩ := ok_of_bind h
  obtain ⟨hactor, h⟩ := ok_of_unless h
  cases h
  rw [Bool.not_eq_true', Bool.not_eq_false] at hactor
  exact .resolved hfound hactor

/-! ## Every access -/

/-- What an access that succeeds did. -/
theorem effect_of_ok {access : Access} {result : access.Result}
    (h : (store.perform stamp access).answer = .ok result) :
    Effect store stamp access (access.created? result) (store.perform stamp access).store := by
  cases access with
  | createEpic draft =>
    simp only [perform, run_createEpic] at h ⊢
    exact effect_createEpic (write_of_ok h)
  | createStory epic draft =>
    simp only [perform, run_createStory] at h ⊢
    exact effect_createStory (write_of_ok h)
  | createCriteria story description author =>
    simp only [perform, run_createCriteria] at h ⊢
    exact effect_createCriteria (write_of_ok h)
  | createRequirement draft =>
    simp only [perform, run_createRequirement] at h ⊢
    exact effect_createRequirement (write_of_ok h)
  | updateEntity kind id changes =>
    simp only [perform, run_update] at h ⊢
    exact effect_update (writeNoting_of_ok h)
  | createRelationship draft =>
    simp only [perform, run_createRelationship] at h ⊢
    exact effect_createRelationship (write_of_ok h)
  | createDocument title description creator =>
    simp only [perform, run_createDocument] at h ⊢
    exact effect_createDocument (write_of_ok h)
  | updateDocument id title description actor =>
    simp only [perform, run_updateDocument] at h ⊢
    exact effect_updateDocument (write_of_ok h)
  | linkDocument document epic =>
    simp only [perform, run_link] at h ⊢
    exact effect_link (change_of_ok h)
  | unlinkDocument document epic =>
    simp only [perform, run_unlink] at h ⊢
    exact effect_unlink (change_of_ok h)
  | createComment draft =>
    simp only [perform, run_createComment] at h ⊢
    exact effect_createComment (write_of_ok h)
  | setResolved comment resolved actor =>
    simp only [perform, run_setResolved] at h ⊢
    exact effect_setResolved (write_of_ok h)
  | _ => exact .nothing _

/-- **Every access has one of the effects**, whether it succeeds or fails. From here on no proof has
to look at how an access is carried out. -/
theorem perform_effect (store : Store) (stamp : Stamp) (access : Access) :
    Effect store stamp access (store.created? stamp access)
      (store.perform stamp access).store := by
  unfold created?
  cases h : (store.perform stamp access).answer with
  | ok result => exact effect_of_ok h
  | error failure =>
    rw [perform_of_error h]
    exact .nothing access

end Store

end Planroom
