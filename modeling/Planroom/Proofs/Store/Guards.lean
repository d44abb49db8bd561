import Planroom.Proofs.Store.History
import Planroom.Proofs.Store.Identifiers

/-!
# Who may change what

Most of a store may be changed by anybody who may change anything. Two things may not: whether a
comment is resolved is for its author to say, and what a steering document says is for its creator,
each of them beside the administrators. Both rules are checked in one place only, and there is no way
around it.

* **One step** — `Guarded`: when a comment is resolved or opened again, or a document has other words,
  it was by the access that is meant for this, with somebody who may do so. In particular no other
  access has a kind or an identifier with which it gets there.
* **A run** — so it is for the difference between any two stores of a run: there was a step, by
  somebody who may do so, that made it.
-/

namespace Planroom

/-- Whoever may act for the owner is the owner or an administrator. What role the owner has does not
matter. -/
theorem User.mayActFor_iff {user : User} {owner : Uuid} :
    user.mayActFor owner = true ↔ user.id = owner ∨ user.role = .administrator := by
  rw [mayActFor, Bool.or_eq_true, beq_iff_eq, beq_iff_eq, eq_comm]

/-- **Does a step resolve this comment, or open it again**, for somebody who may do so? Both are
done by one access. -/
def Step.Resolves (step : Step) (comment : Comment) (resolved : Bool) : Prop :=
  ∃ actor : User, step.access = .setResolved comment.id resolved actor ∧
    (actor.id = comment.author ∨ actor.role = .administrator)

/-- **Does a step reword this document**, for somebody who may do so? What it gives may be a title,
a description or both. -/
def Step.Rewords (step : Step) (document : SteeringDocument) : Prop :=
  ∃ (title description : Option String) (actor : User),
    step.access = .updateDocument document.id title description actor ∧
      (actor.id = document.creator ∨ actor.role = .administrator)

/-- **Does a document have other words** than another one? The time of the last change is no word.
-/
def SteeringDocument.WordedUnlike (document other : SteeringDocument) : Prop :=
  document.title ≠ other.title ∨ document.description ≠ other.description

namespace Store

variable {store after : Store} {step : Step} {created : Option Artifact}

/-- **Is a step guarded?** It is asked of what can be seen before and after it, and not of how it is
carried out. -/
structure Guarded (store : Store) (step : Step) : Prop where
  resolving : ∀ comment ∈ store.comments, ∀ again ∈ (store.after step).comments,
    again.id = comment.id → again.resolved ≠ comment.resolved → step.Resolves comment again.resolved
  rewording : ∀ document ∈ store.documents.values, ∀ again ∈ (store.after step).documents.values,
    again.id = document.id → again.WordedUnlike document → step.Rewords document

/-! ## Comments -/

/-- **A comment is resolved or opened again** only by the access for it. Of all other effects, those
that touch comments change their anchors only. -/
theorem resolves_of_effect (hstore : Reachable store) (hfresh : store.Fresh step)
    (heffect : Effect store step.stamp step.access created after) {comment again : Comment}
    (hcomment : comment ∈ store.comments) (hagain : again ∈ after.comments)
    (hid : again.id = comment.id) (hchanged : again.resolved ≠ comment.resolved) :
    step.Resolves comment again.resolved := by
  rcases origin_effect heffect hagain with ⟨hdraws, hnew⟩ | ⟨old, hold, hremark, horigin⟩
  · -- the identifier of a comment that is there is not drawn again
    have hunused := not_mem_remarks_of_not_uses (hfresh hdraws)
    rw [← hnew, hid] at hunused
    exact absurd (List.mem_map_of_mem (remark_mem hcomment)) hunused
  · have hsame : old.id = comment.id := (congrArg Remark.id hremark).symm.trans hid
    obtain rfl := comment_eq_of_id hstore.distinct_remarks hcomment hold hsame
    rcases horigin with hkept | ⟨actor, haccess, hactor⟩
    · exact absurd hkept hchanged
    · exact ⟨actor, haccess, User.mayActFor_iff.1 hactor⟩

/-- What a comment is resolved by depends on its remark alone. -/
theorem resolves_of_remark_eq {comment other : Comment} {resolved : Bool}
    (hremark : other.remark = comment.remark) (h : step.Resolves other resolved) :
    step.Resolves comment resolved := by
  obtain ⟨actor, haccess, hactor⟩ := h
  have hid : other.id = comment.id := congrArg Remark.id hremark
  have hauthor : other.author = comment.author := congrArg Remark.author hremark
  rw [hid] at haccess
  rw [hauthor] at hactor
  exact ⟨actor, haccess, hactor⟩

/-- **A comment that has been resolved or opened again** in a run was so at one of its steps. There
may be several; one is found at which it came to be as it is in the end. -/
theorem exists_resolving {steps : List Step} (hstore : Reachable store) (hrun : store.FreshRun steps)
    {comment again : Comment} (hcomment : comment ∈ store.comments)
    (hagain : again ∈ (store.run steps).comments) (hid : again.id = comment.id)
    (hchanged : again.resolved ≠ comment.resolved) :
    ∃ before step rest, steps = before ++ step :: rest ∧
      step.Resolves comment again.resolved := by
  -- at the turn it is open if it is to be resolved in the end, and resolved if it is to be open
  have hend : ¬∃ old ∈ (store.run steps).comments,
      old.remark = comment.remark ∧ old.resolved ≠ again.resolved := by
    rintro ⟨old, hold, hremark, hunlike⟩
    have hsame : old.id = again.id := (congrArg Remark.id hremark).trans hid.symm
    obtain rfl := comment_eq_of_id (hstore.run hrun).distinct_remarks hagain hold hsame
    exact hunlike rfl
  obtain ⟨before, step, rest, rfl, ⟨old, hold, hremark, hunlike⟩, hdone⟩ :=
    exists_turn (P := fun store => ∃ old ∈ store.comments,
      old.remark = comment.remark ∧ old.resolved ≠ again.resolved)
      ⟨comment, hcomment, rfl, hchanged.symm⟩ hend
  obtain ⟨hbefore, hfresh, -⟩ := hrun.of_append
  obtain ⟨new, hnew, hkept⟩ :=
    List.mem_map.1 ((KeptIn.of_step hfresh).remarks.subset (remark_mem hold))
  have hnow : new.resolved = again.resolved := by
    by_contra hne
    exact hdone ⟨new, hnew, hkept.trans hremark, hne⟩
  have hresolves := resolves_of_effect (hstore.run hbefore) hfresh (perform_effect _ _ _) hold hnew
    (congrArg Remark.id hkept)
  rw [hnow] at hresolves
  exact ⟨before, step, rest, rfl, resolves_of_remark_eq hremark (hresolves hunlike.symm)⟩

/-! ## Documents -/

/-- **A document is changed** only by the access for it. An update of the hierarchy may have the
identifier of a document, but it is looked up on other shelves. -/
theorem document_effect (hfresh : store.Fresh step)
    (heffect : Effect store step.stamp step.access created after) {document again : SteeringDocument}
    {id : Uuid} (hfound : store.findDocument (.byId id) = .ok document)
    (hagain : after.findDocument (.byId id) = .ok again) :
    again = document ∨ ∃ title description actor,
      step.access = .updateDocument id title description actor ∧
        actor.mayActFor document.creator = true := by
  rw [findDocument_eq_ok_iff, Table.find?] at hfound hagain
  -- most effects leave this shelf as it is, at least under this identifier
  have hkept (hsame : (after.shelf .steeringDocument).get? id =
      (store.shelf .steeringDocument).get? id) : again = document := by
    rw [hsame, hfound] at hagain
    cases hagain
    rfl
  obtain ⟨access, stamp⟩ := step
  cases heffect with
  | nothing => exact .inl (hkept rfl)
  | created hdraws =>
    refine .inl (hkept ?_)
    rw [shelf_with_issued, get?_shelf_file, if_neg]
    rintro ⟨-, hid⟩
    exact ne_of_found (hfresh hdraws) hfound hid
  | @updated _ _ _ old new =>
    refine .inl (hkept ?_)
    rw [shelf_with_comments, get?_shelf_file, if_neg]
    rintro ⟨hkind, -⟩
    rw [Artifact.kind_entity] at hkind
    cases new <;> cases hkind
  | @documentUpdated other title description actor old new hthere hactor =>
    by_cases hid : other = id
    · subst hid
      rw [findDocument_eq_ok_iff, Table.find?, hfound] at hthere
      cases hthere
      exact .inr ⟨title, description, actor, rfl, hactor⟩
    · refine .inl (hkept ?_)
      rw [get?_shelf_file, if_neg]
      rintro ⟨-, hsame⟩
      exact hid hsame
  | related => exact .inl (hkept (by rw [shelf_with_relationships]))
  | linked => exact .inl (hkept (by rw [shelf_with_links]))
  | unlinked => exact .inl (hkept (by rw [shelf_with_links]))
  | commented => exact .inl (hkept (by rw [shelf_with_comments]))
  | resolved => exact .inl (hkept (by rw [shelf_with_comments]))

/-- **A document gets other words** only by the access for it, of which the actor was checked. -/
theorem rewords_of_effect (hfresh : store.Fresh step)
    (heffect : Effect store step.stamp step.access created after) {document again : SteeringDocument}
    (hfound : store.findDocument (.byId document.id) = .ok document)
    (hagain : after.findDocument (.byId document.id) = .ok again)
    (hchanged : again.WordedUnlike document) : step.Rewords document := by
  rcases document_effect hfresh heffect hfound hagain with
    rfl | ⟨title, description, actor, haccess, hactor⟩
  · rcases hchanged with htitle | hdescription
    · exact absurd rfl htitle
    · exact absurd rfl hdescription
  · exact ⟨title, description, actor, haccess, User.mayActFor_iff.1 hactor⟩

/-- What a document is reworded by depends on its identity alone. -/
theorem rewords_of_identity_eq {document other : SteeringDocument}
    (hidentity : other.identity = document.identity) (h : step.Rewords other) :
    step.Rewords document := by
  obtain ⟨title, description, actor, haccess, hactor⟩ := h
  have hid : other.id = document.id := congrArg Identity.id hidentity
  have hcreator : other.creator = document.creator := congrArg Identity.creator hidentity
  rw [hid] at haccess
  rw [hcreator] at hactor
  exact ⟨title, description, actor, haccess, hactor⟩

/-- **A document that has been reworded** in a run was so at one of its steps. As with comments, it
is the step at which the words came to be those of the end. -/
theorem exists_rewording {steps : List Step} (hrun : store.FreshRun steps)
    {document again : SteeringDocument}
    (hfound : store.findDocument (.byId document.id) = .ok document)
    (hagain : (store.run steps).findDocument (.byId document.id) = .ok again)
    (hchanged : again.WordedUnlike document) :
    ∃ before step rest, steps = before ++ step :: rest ∧ step.Rewords document := by
  have hend : ¬∃ old, (store.run steps).findDocument (.byId document.id) = .ok old ∧
      old.identity = document.identity ∧ again.WordedUnlike old := by
    rintro ⟨old, hold, -, hunlike⟩
    cases hold.symm.trans hagain
    rcases hunlike with htitle | hdescription
    · exact htitle rfl
    · exact hdescription rfl
  obtain ⟨before, step, rest, rfl, ⟨old, hold, hidentity, hunlike⟩, hdone⟩ :=
    exists_turn (P := fun store => ∃ old, store.findDocument (.byId document.id) = .ok old ∧
      old.identity = document.identity ∧ again.WordedUnlike old)
      ⟨document, hfound, rfl, hchanged⟩ hend
  obtain ⟨-, hfresh, -⟩ := hrun.of_append
  obtain ⟨new, hnew, hkept⟩ := (KeptIn.of_step hfresh).findDocument hold
  have hnow : ¬again.WordedUnlike new := fun hstill =>
    hdone ⟨new, hnew, hkept.trans hidentity, hstill⟩
  -- the words are those of the end now, so that they are not those of before
  rw [SteeringDocument.WordedUnlike, not_or, not_not, not_not] at hnow
  rw [SteeringDocument.WordedUnlike, hnow.1, hnow.2] at hunlike
  have hid : old.id = document.id := congrArg Identity.id hidentity
  rw [← hid] at hold hnew
  exact ⟨before, step, rest, rfl,
    rewords_of_identity_eq hidentity (rewords_of_effect hfresh (perform_effect _ _ _) hold hnew hunlike)⟩

/-- In a reachable store a document is found under its identifier. -/
theorem Reachable.findDocument (hstore : Reachable store) {document : SteeringDocument}
    (hdocument : document ∈ store.documents.values) :
    store.findDocument (.byId document.id) = .ok document := by
  obtain ⟨id, hentry⟩ := Table.exists_mem_map hdocument Artifact.document
  have hmem : .document document ∈ (store.shelf .steeringDocument).values :=
    List.mem_map_of_mem hentry
  exact findDocument_eq_ok_iff.2 ((hstore.numbered .steeringDocument).find?_id hmem)

/-! ## Steps and runs -/

/-- **Every step is guarded.** That it is fresh counts, since otherwise a new artifact could take
the place of a document. -/
theorem Reachable.guarded (hstore : Reachable store) (hfresh : store.Fresh step) :
    store.Guarded step where
  resolving _ hcomment _ hagain :=
    resolves_of_effect hstore hfresh (perform_effect _ _ _) hcomment hagain
  rewording _ hdocument _ hagain hid := by
    have hafter := (hstore.step step hfresh).findDocument hagain
    rw [hid] at hafter
    exact rewords_of_effect hfresh (perform_effect _ _ _) (hstore.findDocument hdocument) hafter

/-- **There is no way around the rules.** In a run from any reachable store, each step at which a
comment is resolved or opened again asks for just that, of this comment, for its author or an
administrator; and each step at which the title or the description of a steering document changes asks
for an update of this document, for its creator or an administrator. Whatever has become of a comment
or a document in the whole run goes back to such a step. -/
theorem changes_are_guarded (hstore : Reachable store) {steps : List Step}
    (hrun : store.FreshRun steps) :
    (∀ before step rest, steps = before ++ step :: rest → (store.run before).Guarded step) ∧
      (∀ comment ∈ store.comments, ∀ again ∈ (store.run steps).comments,
        again.id = comment.id → again.resolved ≠ comment.resolved →
          ∃ before step rest, steps = before ++ step :: rest ∧
            step.Resolves comment again.resolved) ∧
      ∀ document ∈ store.documents.values, ∀ again ∈ (store.run steps).documents.values,
        again.id = document.id → again.WordedUnlike document →
          ∃ before step rest, steps = before ++ step :: rest ∧ step.Rewords document := by
  refine ⟨?_, ?_, ?_⟩
  · rintro before step rest rfl
    have hbefore := hrun.of_append
    exact (hstore.run hbefore.1).guarded hbefore.2.1
  · intro comment hcomment again hagain hid hchanged
    exact exists_resolving hstore hrun hcomment hagain hid hchanged
  · intro document hdocument again hagain hid hchanged
    have hafter := (hstore.run hrun).findDocument hagain
    rw [hid] at hafter
    exact exists_rewording hrun (hstore.findDocument hdocument) hafter hchanged

/-- Users of each role. -/
def threeUsers : List User :=
  [⟨(Stamp.nth 1).id, "alice", .administrator⟩, ⟨(Stamp.nth 2).id, "bob", .user⟩,
    ⟨(Stamp.nth 3).id, "carol", .commenter⟩]

/-- An epic, a comment of `carol` and a document of `bob`. -/
def ownedRun : List Step :=
  [⟨.createEpic ⟨"Search", none, .high, (Stamp.nth 2).id, none⟩, .nth 4⟩,
    ⟨.createComment
      { kind := .epic
        artifact := (Stamp.nth 4).id
        author := (Stamp.nth 3).id
        content := "Which?"
        parent := none
        selection := .empty }, .nth 5⟩,
    ⟨.createDocument "Wording" none (Stamp.nth 2).id, .nth 6⟩]

/-- `bob` tries to resolve the comment of `carol` and to reword his document as an epic; then `carol`
resolves her comment, and `alice` rewords the document of `bob`. -/
def triedRun : List Step :=
  [⟨.setResolved (Stamp.nth 5).id true ⟨(Stamp.nth 2).id, "bob", .user⟩, .nth 7⟩,
    ⟨.updateEntity .epic (Stamp.nth 6).id { Changes.none with title := some "Words" }, .nth 8⟩,
    ⟨.setResolved (Stamp.nth 5).id true ⟨(Stamp.nth 3).id, "carol", .commenter⟩, .nth 9⟩,
    ⟨.updateDocument (Stamp.nth 6).id (some "Words") none
      ⟨(Stamp.nth 1).id, "alice", .administrator⟩, .nth 10⟩]

/-- A comment has been resolved and a document reworded, after two attempts that came to nothing. -/
theorem changes_are_guarded_tried :
    let start := (initial threeUsers []).run ownedRun
    Reachable start ∧ start.FreshRun triedRun ∧
      start.run (triedRun.take 2) = start ∧
      (start.run triedRun).comments.map Comment.resolved = [true] ∧
      (start.run triedRun).documents.values.map SteeringDocument.title = ["Words"] ∧
      (∀ before step rest, triedRun = before ++ step :: rest → (start.run before).Guarded step) ∧
      ∀ comment ∈ start.comments, ∀ again ∈ (start.run triedRun).comments,
        again.id = comment.id → again.resolved ≠ comment.resolved →
          ∃ before step rest, triedRun = before ++ step :: rest ∧
            step.Resolves comment again.resolved := by
  intro start
  have howned : (initial threeUsers []).FreshRun ownedRun := by decide +kernel
  have hstart : Reachable start := (Reachable.initial threeUsers []).run howned
  have htried : start.FreshRun triedRun := by decide +kernel
  obtain ⟨hsteps, hcomments, -⟩ := changes_are_guarded hstart htried
  exact ⟨hstart, htried, by decide +kernel, by decide +kernel, by decide +kernel, hsteps, hcomments⟩

end Store

end Planroom
