import Planroom.Store.Access

/-!
# Operations are transactions

An operation works on the store in place. Here each of them is shown to do what the function of the
same name on stores says: it is done as a whole, or the store is left as it was.

* **Asking first** — `run_ask_settle`: an operation that begins by asking does not touch the store
  before it knows the answer.
* **Changing last** — once the first change is made, no step fails.
* **Links** — putting in a link that is there already, and taking out one that is not, fail after
  the step that would have changed the store, and that step has changed nothing.
* **Succeeding** — what succeeds has succeeded at every step (`ok_of_bind`), and left what it came to.
* **Failing** — `perform_of_error`: an access that fails comes to the same as one that only reads.
-/

namespace Planroom

/-- **A row of stamps** with different identifiers, at different times. -/
def Stamp.nth (n : Nat) : Stamp :=
  ⟨.ofNat n, ⟨n⟩⟩

/-- The second of the priorities. -/
def Priority.high : Priority :=
  ⟨2, by decide⟩

namespace Edit

variable {α β γ : Type} {store : Store}

/-- **Asking first.** An operation that asks, and goes on as a transaction when it knows the answer,
is itself a transaction. `settle` says what comes of one that fails: nothing. -/
theorem run_ask_settle {settle : Except Failure γ → Performed β}
    {question : Store → Except Failure α} {next : α → Edit β} {rest : α → Except Failure γ}
    (hfail : ∀ failure, settle (.error failure) = ⟨.error failure, store, []⟩)
    (hnext : ∀ value, (next value).run store = settle (rest value)) :
    (ask question >>= next).run store = settle (question store >>= rest) := by
  change Edit.bind (ask question) next store = _
  simp only [Edit.bind, Edit.run, ask]
  cases question store with
  | error failure => exact (hfail failure).symm
  | ok value =>
    have hrun := hnext value
    simp only [Edit.run] at hrun
    simp only [List.nil_append, hrun]
    rfl

/-- Asking for something that does not depend on the store. A text may be checked before the store
is looked at, or after. -/
theorem run_check_settle {settle : Except Failure γ → Performed β}
    {result : Except Failure α} {next : α → Edit β} {rest : α → Except Failure γ}
    (hfail : ∀ failure, settle (.error failure) = ⟨.error failure, store, []⟩)
    (hnext : ∀ value, (next value).run store = settle (rest value)) :
    (check result >>= next).run store = settle (result >>= rest) :=
  run_ask_settle hfail hnext

/-- **Going on** after a step that has succeeded, without anything to note. What comes next meets
the store that the step has left. -/
theorem run_bind_of_ok {edit : Edit α} {next : α → Edit β} {value : α} {after : Store}
    (hfirst : edit.run store = ⟨.ok value, after, []⟩) :
    (edit >>= next).run store = (next value).run after := by
  change Edit.bind edit next store = _
  simp only [Edit.bind, hfirst]
  rfl

end Edit

open Edit

namespace Store

variable (store : Store)

/-! ## Creating -/

/-- **A creation is a transaction**: the operation, done in place, comes to what the function on
stores says. It is so for each sort of artifact, with the checks in its own order. -/
theorem run_createEpic (stamp : Stamp) (draft : CardDraft) :
    (Edit.createEpic stamp draft).run store = .write store (store.createEpic stamp draft) := by
  refine run_check_settle (fun _ => rfl) fun title => ?_
  refine run_check_settle (fun _ => rfl) fun description => ?_
  exact run_ask_settle (fun _ => rfl) fun _ => rfl

/-- A user story belongs to an epic, which is looked up before a number is issued. -/
theorem run_createStory (stamp : Stamp) (epic : Uuid) (draft : CardDraft) :
    (Edit.createStory stamp epic draft).run store =
      .write store (store.createStory stamp epic draft) := by
  refine run_check_settle (fun _ => rfl) fun title => ?_
  refine run_check_settle (fun _ => rfl) fun description => ?_
  refine run_ask_settle (fun _ => rfl) fun _ => ?_
  exact run_ask_settle (fun _ => rfl) fun _ => rfl

/-- Acceptance criteria belong to a user story, and there is one text to be checked. -/
theorem run_createCriteria (stamp : Stamp) (story : Uuid) (description : String) (author : Uuid) :
    (Edit.createCriteria stamp story description author).run store =
      .write store (store.createCriteria stamp story description author) := by
  refine run_check_settle (fun _ => rfl) fun description => ?_
  exact run_ask_settle (fun _ => rfl) fun _ => rfl

/-- A requirement belongs to a user story and may name acceptance criteria of it; both are looked up
before a number is issued. -/
theorem run_createRequirement (stamp : Stamp) (draft : RequirementDraft) :
    (Edit.createRequirement stamp draft).run store =
      .write store (store.createRequirement stamp draft) := by
  refine run_check_settle (fun _ => rfl) fun title => ?_
  refine run_check_settle (fun _ => rfl) fun description => ?_
  refine run_ask_settle (fun _ => rfl) fun _ => ?_
  refine run_ask_settle (fun _ => rfl) fun _ => ?_
  exact run_ask_settle (fun _ => rfl) fun _ => rfl

/-- A steering document belongs to nothing, so that only its texts are checked. -/
theorem run_createDocument (stamp : Stamp) (title : String) (description : Option String)
    (creator : Uuid) :
    (Edit.createDocument stamp title description creator).run store =
      .write store (store.createDocument stamp title description creator) := by
  refine run_check_settle (fun _ => rfl) fun title => ?_
  exact run_check_settle (fun _ => rfl) fun description => rfl

/-- A relationship is put in once it is known that there is none of the same sort. -/
theorem run_createRelationship (stamp : Stamp) (draft : RelationshipDraft) :
    (Edit.createRelationship stamp draft).run store =
      .write store (store.createRelationship stamp draft) := by
  unfold Edit.createRelationship Store.createRelationship
  split
  · rfl
  · refine run_ask_settle (fun _ => rfl) fun _ => ?_
    refine run_ask_settle (fun _ => rfl) fun _ => ?_
    cases h : store.hasRelationship draft <;>
      simp [Edit.run, bind, Edit.bind, Edit.ask, Edit.modify, h] <;> rfl

/-! ## Changing -/

/-- What the change of an artifact leaves, once it is made. -/
def Revision.performed (revision : Revision) : Performed (Entity × Bool) :=
  ⟨.ok (revision.entity, revision.bodyChanged), revision.store, []⟩

/-- What comes of an attempt to change an artifact. One that fails leaves the store as it was. -/
def settleRevision : Except Failure Revision → Performed (Entity × Bool)
  | .ok revision => revision.performed
  | .error failure => ⟨.error failure, store, []⟩

/-- To change an artifact in place comes to the same as to change it in a new store, for each kind.
-/
theorem run_reviseEpic (now : Timestamp) (id : Uuid) (changes : Changes) :
    (Edit.reviseEpic now id changes).run store =
      store.settleRevision (store.reviseEpic now id changes) := by
  refine run_ask_settle (fun _ => rfl) fun epic => ?_
  refine run_check_settle (fun _ => rfl) fun card => ?_
  exact run_check_settle (fun _ => rfl) fun status => rfl

theorem run_reviseStory (now : Timestamp) (id : Uuid) (changes : Changes) :
    (Edit.reviseStory now id changes).run store =
      store.settleRevision (store.reviseStory now id changes) := by
  refine run_ask_settle (fun _ => rfl) fun story => ?_
  refine run_check_settle (fun _ => rfl) fun card => ?_
  exact run_check_settle (fun _ => rfl) fun status => rfl

theorem run_reviseRequirement (now : Timestamp) (id : Uuid) (changes : Changes) :
    (Edit.reviseRequirement now id changes).run store =
      store.settleRevision (store.reviseRequirement now id changes) := by
  refine run_ask_settle (fun _ => rfl) fun requirement => ?_
  refine run_check_settle (fun _ => rfl) fun card => ?_
  exact run_check_settle (fun _ => rfl) fun status => rfl

theorem run_reviseCriteria (now : Timestamp) (id : Uuid) (changes : Changes) :
    (Edit.reviseCriteria now id changes).run store =
      store.settleRevision (store.reviseCriteria now id changes) := by
  unfold Edit.reviseCriteria Store.reviseCriteria
  split
  · rfl
  · refine run_ask_settle (fun _ => rfl) fun criteria => ?_
    exact run_check_settle (fun _ => rfl) fun description => rfl

/-- The kind of the artifact says which of these it is; a steering document is not changed in this
way. -/
theorem run_revise (now : Timestamp) (kind : Kind) (id : Uuid) (changes : Changes) :
    (Edit.revise now kind id changes).run store =
      store.settleRevision (store.revise now kind id changes) := by
  cases kind with
  | epic => exact run_reviseEpic store now id changes
  | userStory => exact run_reviseStory store now id changes
  | acceptanceCriteria => exact run_reviseCriteria store now id changes
  | requirement => exact run_reviseRequirement store now id changes
  | steeringDocument => rfl

/-- **An update is a transaction** of two changes: the artifact is filed, and then the anchors on it
are moved. No step after the first change can fail. -/
theorem run_update (now : Timestamp) (kind : Kind) (id : Uuid) (changes : Changes) :
    (Edit.update now kind id changes).run store =
      .writeNoting store (store.update now kind id changes) := by
  unfold Edit.update Store.update
  split
  · rfl
  · refine run_ask_settle (fun _ => rfl) fun _ => ?_
    have hrevise := run_revise store now kind id changes
    cases hr : store.revise now kind id changes with
    | error failure =>
      rw [hr] at hrevise
      change Edit.bind (Edit.revise now kind id changes) _ store = _
      rw [Edit.bind, hrevise]
      rfl
    | ok revision =>
      -- from here on the artifact has been filed, and the comments are looked at in the store as it
      -- is then
      obtain ⟨entity, after, bodyChanged⟩ := revision
      rw [hr] at hrevise
      refine (run_bind_of_ok hrevise).trans ?_
      cases bodyChanged with
      | false => rfl
      | true =>
        -- the notes of the last step are followed by those of no further step
        refine congrArg (Performed.mk _ _) ?_
        exact List.append_nil _

/-- A steering document is changed by whoever may do so, and nobody else gets as far as its title.
-/
theorem run_updateDocument (now : Timestamp) (id : Uuid) (title description : Option String)
    (actor : User) :
    (Edit.updateDocument now id title description actor).run store =
      .write store (store.updateDocument now id title description actor) := by
  unfold Edit.updateDocument Store.updateDocument
  split
  · rfl
  · refine run_ask_settle (fun _ => rfl) fun document => ?_
    split
    · rfl
    · refine run_check_settle (fun _ => rfl) fun newTitle => ?_
      exact run_check_settle (fun _ => rfl) fun newDescription => rfl

/-! ## Linking -/

/-- **Linking is a transaction**, although whether the link is there is known only from putting it
in. -/
theorem run_link (document epic : Uuid) :
    (Edit.link document epic).run store = .change store (store.link document epic) := by
  refine run_ask_settle (fun _ => rfl) fun _ => ?_
  refine run_ask_settle (fun _ => rfl) fun _ => ?_
  -- the set of links answers for itself, and what it answers is what was asked for
  cases h : store.links.contains ⟨document, epic⟩ with
  | false =>
    have hput : (Edit.insertLink ⟨document, epic⟩).run store =
        ⟨.ok true, { store with links := Link.insertIn ⟨document, epic⟩ store.links }, []⟩ := by
      simp only [Edit.run, Edit.insertLink, h, Bool.false_eq_true, if_false]
    refine (run_bind_of_ok hput).trans ?_
    simp only [h]
    rfl
  | true =>
    have hput : (Edit.insertLink ⟨document, epic⟩).run store = ⟨.ok false, store, []⟩ := by
      simp only [Edit.run, Edit.insertLink, h, if_true]
    refine (run_bind_of_ok hput).trans ?_
    simp only [h]
    rfl

/-- **And so is unlinking**, although whether the link was there is known only from taking it out.
-/
theorem run_unlink (document epic : Uuid) :
    (Edit.unlink document epic).run store = .change store (store.unlink document epic) := by
  unfold Store.unlink
  cases h : store.links.contains ⟨document, epic⟩ with
  | false =>
    have htake : (Edit.removeLink ⟨document, epic⟩).run store = ⟨.ok false, store, []⟩ := by
      simp only [Edit.run, Edit.removeLink, h, Bool.false_eq_true, if_false]
    refine (run_bind_of_ok htake).trans ?_
    simp only [h]
    rfl
  | true =>
    have htake : (Edit.removeLink ⟨document, epic⟩).run store =
        ⟨.ok true, { store with links := store.links.erase ⟨document, epic⟩ }, []⟩ := by
      simp only [Edit.run, Edit.removeLink, h, if_true]
    refine (run_bind_of_ok htake).trans ?_
    simp only [h]
    rfl

/-! ## Commenting -/

/-- A comment is added at the end, after everything has been checked. -/
theorem run_createComment (stamp : Stamp) (draft : CommentDraft) :
    (Edit.createComment stamp draft).run store =
      .write store (store.createComment stamp draft) := by
  unfold Edit.createComment Store.createComment
  split
  · rfl
  · refine run_check_settle (fun _ => rfl) fun content => ?_
    refine run_ask_settle (fun _ => rfl) fun entity => ?_
    refine run_ask_settle (fun _ => rfl) fun _ => ?_
    exact run_check_settle (fun _ => rfl) fun anchor => rfl

/-- A comment is resolved or opened again in its place in the list. -/
theorem run_setResolved (now : Timestamp) (id : Uuid) (resolved : Bool) (actor : User) :
    (Edit.setResolved now id resolved actor).run store =
      .write store (store.setResolved now id resolved actor) := by
  refine run_ask_settle (fun _ => rfl) fun comment => ?_
  split
  · rfl
  · rfl

end Store

namespace Performed

variable {α : Type} {store : Store} {failure : Failure}

/-! ## Failing -/

/-- What fails is as if the store had only been read. There are four forms in which an access comes
to something, and one lemma for each. -/
theorem write_of_error {result : Except Failure (α × Store)}
    (h : (write store result).answer = .error failure) :
    write store result = read store (.error failure) := by
  cases result with
  | ok pair => cases h
  | error other =>
    cases h
    rfl

theorem change_of_error {result : Except Failure Store}
    (h : (change store result).answer = .error failure) :
    change store result = read store (.error failure) := by
  cases result with
  | ok after => cases h
  | error other =>
    cases h
    rfl

theorem writeNoting_of_error {result : Except Failure (α × Store × List AnchorNote)}
    (h : (writeNoting store result).answer = .error failure) :
    writeNoting store result = read store (.error failure) := by
  cases result with
  | ok triple => cases h
  | error other =>
    cases h
    rfl

theorem read_of_error {answer : Except Failure α}
    (h : (read store answer).answer = .error failure) :
    read store answer = read store (.error failure) :=
  congrArg (read store) h

end Performed

namespace Store

variable {store : Store} {stamp : Stamp} {failure : Failure}

/-! ## Succeeding -/

/-- What succeeds has succeeded at every step. By this the operations are taken apart, from the
first step to the last. -/
theorem ok_of_bind {ε α β : Type} {first : Except ε α} {next : α → Except ε β} {value : β}
    (h : first >>= next = .ok value) : ∃ a, first = .ok a ∧ next a = .ok value := by
  cases first with
  | error failure => cases h
  | ok a => exact ⟨a, rfl, h⟩

/-- What goes on after a test has not been stopped by it. -/
theorem ok_of_unless {ε β : Type} {test : Prop} [Decidable test] {failure : ε}
    {next : Unit → Except ε β} {value : β}
    (h : (if test then throw failure >>= next else next ()) = .ok value) :
    ¬ test ∧ next () = .ok value := by
  by_cases htest : test
  · rw [if_pos htest] at h
    cases h
  · rw [if_neg htest] at h
    exact ⟨htest, h⟩

/-- What a write that succeeds comes to: the value that it answers, and the store that it has left.
-/
theorem write_of_ok {α : Type} {result : Except Failure (α × Store)} {value : α}
    (h : (Performed.write store result).answer = .ok value) :
    result = .ok (value, (Performed.write store result).store) := by
  cases result with
  | error failure => cases h
  | ok pair =>
    cases h
    rfl

/-- A change without an answer, likewise. -/
theorem change_of_ok {result : Except Failure Store} {value : Unit}
    (h : (Performed.change store result).answer = .ok value) :
    result = .ok (Performed.change store result).store := by
  cases result with
  | error failure => cases h
  | ok changed => rfl

/-- A write that notes what has become of anchors, likewise. -/
theorem writeNoting_of_ok {α : Type} {result : Except Failure (α × Store × List AnchorNote)}
    {value : α} (h : (Performed.writeNoting store result).answer = .ok value) :
    result = .ok (value, (Performed.writeNoting store result).store,
      (Performed.writeNoting store result).notes) := by
  cases result with
  | error failure => cases h
  | ok triple =>
    cases h
    rfl

/-! ## Accesses -/

/-- **A failed access has only read.** Each write comes to a settled transaction, whichever of its
checks fails. The proof goes through the writes; what is none reads in any case. -/
theorem perform_of_error {access : Access}
    (h : (store.perform stamp access).answer = .error failure) :
    store.perform stamp access = .read store (.error failure) := by
  cases access with
  | createEpic draft =>
    simp only [perform, run_createEpic] at h ⊢
    exact Performed.write_of_error h
  | createStory epic draft =>
    simp only [perform, run_createStory] at h ⊢
    exact Performed.write_of_error h
  | createCriteria story description author =>
    simp only [perform, run_createCriteria] at h ⊢
    exact Performed.write_of_error h
  | createRequirement draft =>
    simp only [perform, run_createRequirement] at h ⊢
    exact Performed.write_of_error h
  | updateEntity kind id changes =>
    -- an update also notes anchors, and none have been noted when it fails
    simp only [perform, run_update] at h ⊢
    exact Performed.writeNoting_of_error h
  | createRelationship draft =>
    simp only [perform, run_createRelationship] at h ⊢
    exact Performed.write_of_error h
  | createDocument title description creator =>
    simp only [perform, run_createDocument] at h ⊢
    exact Performed.write_of_error h
  | updateDocument id title description actor =>
    simp only [perform, run_updateDocument] at h ⊢
    exact Performed.write_of_error h
  | linkDocument document epic =>
    simp only [perform, run_link] at h ⊢
    exact Performed.change_of_error h
  | unlinkDocument document epic =>
    simp only [perform, run_unlink] at h ⊢
    exact Performed.change_of_error h
  | createComment draft =>
    simp only [perform, run_createComment] at h ⊢
    exact Performed.write_of_error h
  | setResolved comment resolved actor =>
    simp only [perform, run_setResolved] at h ⊢
    exact Performed.write_of_error h
  | _ => exact Performed.read_of_error h

/-- **A failed operation leaves the store as it was**: artifacts, relationships, links, comments
with their anchors, users, prompts, and the numbers that have been issued. Nothing is noted of an
anchor either. -/
theorem failed_access_keeps_store (store : Store) (stamp : Stamp) (access : Access)
    (failure : Failure) (h : (store.perform stamp access).answer = .error failure) :
    (store.perform stamp access).store = store ∧ (store.perform stamp access).notes = [] := by
  rw [perform_of_error h]
  exact ⟨rfl, rfl⟩

/-- A store with one epic, the first of a row of identifiers. It has the reference `EP-001`. -/
def withEpic : Store :=
  ((initial [] []).perform (.nth 1)
    (.createEpic ⟨"Search", some "find things", .high, (Stamp.nth 0).id, none⟩)).store

/-- A title that would do beside a state that there is not. The title is read first. -/
def lateFailure : Access :=
  .updateEntity .epic (Stamp.nth 1).id
    { Changes.none with title := some "Find", status := some "unheard of" }

/-- A change that fails at the last of its checks. -/
theorem failed_access_keeps_store_late :
    (withEpic.perform (.nth 2) lateFailure).answer = .error (.invalid .workflowStatus) ∧
      (withEpic.perform (.nth 2) lateFailure).store = withEpic ∧
      (withEpic.perform (.nth 2) lateFailure).notes = [] :=
  have hfails : (withEpic.perform (.nth 2) lateFailure).answer =
      .error (.invalid .workflowStatus) := rfl
  ⟨hfails, failed_access_keeps_store withEpic (.nth 2) lateFailure _ hfails⟩

end Store

end Planroom
