import Planroom.Proofs.Artifact.Anchor
import Planroom.Proofs.Store.Run

/-!
# Anchors stay in line

Comments and the artifacts that they hang on are kept apart, and an anchor is only as good as the
last time when it was compared with a body. It is shown here that the two never come apart.

* **Anchored** — an inline comment is anchored when the artifact that it hangs on is there and the
  anchor is in line with its body.
* **Kept** — a comment stays anchored when its artifact keeps its body (`Anchored.of_kept`), and
  becomes so when it is reconciled with a new one (`Anchored.reconcile`).
* **Everywhere** — `AnchorsInLine` is kept by every effect, and so holds of every reachable store.
-/

namespace Planroom

namespace Store

/-- **Is a comment anchored?** One that is not inline is. Whether the anchor is visible does not
matter here: an anchor that is not visible is in line with a body in which its text is not to be
found. -/
def Anchored (store : Store) (comment : Comment) : Prop :=
  ∀ anchor, comment.anchor = some anchor →
    ∃ entity, store.findEntity comment.kind (.byId comment.artifact) = .ok entity ∧
      anchor.InLine entity.body

/-- **Is every comment anchored?** It is the invariant of this module; anchors are looked at by
reconciling alone, which relies on it. -/
def AnchorsInLine (store : Store) : Prop :=
  ∀ comment ∈ store.comments, store.Anchored comment

variable {store after : Store} {comment : Comment}

/-! ## One comment -/

/-- A comment stays anchored when its artifact is still there with the same body, whatever else of
it has changed. -/
theorem Anchored.of_kept (h : store.Anchored comment)
    (hkept : ∀ entity, store.findEntity comment.kind (.byId comment.artifact) = .ok entity →
      ∃ kept, after.findEntity comment.kind (.byId comment.artifact) = .ok kept ∧
        kept.body = entity.body) :
    after.Anchored comment := by
  intro anchor hanchor
  obtain ⟨entity, hfound, hinLine⟩ := h anchor hanchor
  obtain ⟨kept, hkeptFound, hbody⟩ := hkept entity hfound
  refine ⟨kept, hkeptFound, ?_⟩
  rw [hbody]
  exact hinLine

/-- A comment that is brought in line with the body of its artifact is anchored. Where its anchor
was before plays no part, as long as it had a text and was as long as it. -/
theorem Anchored.reconcile {entity : Entity} (h : store.Anchored comment)
    (hfound : after.findEntity comment.kind (.byId comment.artifact) = .ok entity) :
    after.Anchored (comment.reconcile entity.body) := by
  cases hanchor : comment.anchor with
  | none =>
    intro anchor hsome
    rw [Comment.reconcile, hanchor] at hsome
    cases hanchor.symm.trans hsome
  | some anchor =>
    obtain ⟨_, _, hinLine⟩ := h anchor hanchor
    intro new hnew
    rw [Comment.reconcile, hanchor] at hnew ⊢
    cases hnew
    exact ⟨entity, hfound, Anchor.reconcile_inLine hinLine.toWellFormed _⟩

/-- A comment is as anchored as another one with the same anchor on the same artifact. -/
theorem Anchored.congr {other : Comment} (h : store.Anchored comment)
    (hkind : other.kind = comment.kind) (hartifact : other.artifact = comment.artifact)
    (hanchor : other.anchor = comment.anchor) : store.Anchored other := by
  unfold Anchored at h ⊢
  rw [hkind, hartifact, hanchor]
  exact h

/-- **Filing under another identifier or on another shelf** leaves a comment anchored, for its own
artifact is found as before. -/
theorem Anchored.of_filed_elsewhere {id : Uuid} {artifact : Artifact} (h : store.Anchored comment)
    (hshelf : after.shelf = (store.file id artifact).shelf)
    (hother : ∀ entity, store.findEntity comment.kind (.byId comment.artifact) = .ok entity →
      ¬ (artifact.kind = comment.kind ∧ id = comment.artifact)) :
    after.Anchored comment := by
  refine h.of_kept fun entity hfound => ⟨entity, ?_, rfl⟩
  have helsewhere := hother entity hfound
  rw [findEntity_eq_ok_iff] at hfound ⊢
  rw [hshelf, Table.find?, get?_shelf_file, if_neg helsewhere]
  exact hfound

/-- The comments of a store whose shelves are the same stay anchored. -/
theorem Anchored.of_shelf_eq (h : store.Anchored comment) (hshelf : after.shelf = store.shelf) :
    after.Anchored comment :=
  h.of_kept fun entity hfound => ⟨entity, (findEntity_congr hshelf).2 hfound, rfl⟩

/-! ## All comments -/

/-- After the comment of an identifier was changed, there are the comments from before and this one. -/
theorem mem_replaceComment {id : Uuid} {f : Comment → Comment} {comments : List Comment}
    {found new : Comment} (hfound : comments.find? (·.id == id) = some found)
    (h : new ∈ replaceComment id f comments) : new ∈ comments ∨ new = f found := by
  induction comments with
  | nil => cases hfound
  | cons first rest ih =>
    rw [List.find?_cons] at hfound
    rw [replaceComment] at h
    split at h
    · next hfirst =>
      rw [beq_iff_eq.2 hfirst] at hfound
      cases hfound
      rcases List.mem_cons.1 h with rfl | hrest
      · exact .inr rfl
      · exact .inl (List.mem_cons_of_mem _ hrest)
    · next hfirst =>
      rw [beq_eq_false_iff_ne.2 hfirst] at hfound
      rcases List.mem_cons.1 h with rfl | hrest
      · exact .inl List.mem_cons_self
      · exact (ih hfound hrest).imp_left (List.mem_cons_of_mem first)

theorem isOn_iff {kind : Kind} {id : Uuid} :
    comment.isOn kind id = true ↔ comment.kind = kind ∧ comment.artifact = id := by
  rw [Comment.isOn, Bool.and_eq_true, beq_iff_eq, beq_iff_eq]

/-- A comment that hangs on something else stays anchored when an artifact is updated. -/
theorem Anchored.of_not_isOn {kind : Kind} {id : Uuid} {new : Entity} (h : store.Anchored comment)
    (hoff : ¬ comment.isOn kind id = true) (hkind : new.kind = kind)
    (hshelf : after.shelf = (store.file id (.entity new)).shelf) : after.Anchored comment := by
  refine h.of_filed_elsewhere hshelf ?_
  rintro _ _ ⟨hsame, rfl⟩
  rw [Artifact.kind_entity, hkind] at hsame
  exact hoff (isOn_iff.2 ⟨hsame.symm, rfl⟩)

/-- **After an update** the comments are in line: those on the artifact because they were reconciled
or because the body is the same, all others because nothing has changed for them. -/
theorem AnchorsInLine.update {kind : Kind} {id : Uuid} {old new : Entity} {bodyChanged : Bool}
    (h : store.AnchorsInLine) (hfound : store.findEntity kind (.byId id) = .ok old)
    (hidentity : new.identity = old.identity) (hbody : bodyChanged = false → new.body = old.body)
    (hshelf : after.shelf = (store.file id (.entity new)).shelf)
    (hcomments : after.comments =
      if bodyChanged then reconcileComments store.comments kind id new.body
      else store.comments) : after.AnchorsInLine := by
  have hnew : after.findEntity kind (.byId id) = .ok new :=
    (findEntity_congr hshelf).2 (findEntity_file hfound hidentity)
  have hkind : new.kind = kind := kind_of_findEntity hnew
  intro comment hmem
  cases bodyChanged with
  | true =>
    rw [hcomments, if_pos rfl] at hmem
    obtain ⟨before, hbefore, rfl⟩ := List.mem_map.1 hmem
    split
    · next hon =>
      refine (h before hbefore).reconcile ?_
      obtain ⟨hsameKind, hsameArtifact⟩ := isOn_iff.1 hon
      rw [hsameKind, hsameArtifact]
      exact hnew
    · next hoff => exact (h before hbefore).of_not_isOn hoff hkind hshelf
  | false =>
    rw [hcomments, if_neg Bool.false_ne_true] at hmem
    by_cases hon : comment.isOn kind id = true
    · -- nothing was reconciled, for the body is what it was
      obtain ⟨hsameKind, hsameArtifact⟩ := isOn_iff.1 hon
      refine (h comment hmem).of_kept fun entity hentity => ⟨new, ?_, ?_⟩
      · rw [hsameKind, hsameArtifact]
        exact hnew
      · rw [hsameKind, hsameArtifact, hfound] at hentity
        cases hentity
        exact hbody rfl
    · exact (h comment hmem).of_not_isOn hon hkind hshelf

/-- **Every effect** keeps the anchors in line. Only two of them do something about it: an update,
which reconciles, and a new comment, whose anchor is checked against the body. -/
theorem AnchorsInLine.effect {step : Step} {created : Option Artifact} (h : store.AnchorsInLine)
    (hfresh : store.Fresh step) (heffect : Effect store step.stamp step.access created after) :
    after.AnchorsInLine := by
  obtain ⟨access, stamp⟩ := step
  cases heffect with
  | nothing => exact h
  | created hdraws hid hreference hadmits =>
    intro comment hmem
    rw [file_comments] at hmem
    refine (h comment hmem).of_filed_elsewhere (shelf_with_issued _ _) fun entity hfound hsame => ?_
    -- nothing was filed under the identifier that was drawn
    exact ne_of_found (hfresh hdraws) (findEntity_eq_ok_iff.1 hfound) hsame.2
  | updated hfound hidentity hassignee hbody =>
    exact h.update hfound hidentity hbody (shelf_with_comments _ _) rfl
  | documentUpdated hfound hactor hidentity =>
    intro comment hmem
    rw [file_comments] at hmem
    refine (h comment hmem).of_filed_elsewhere rfl fun entity hfound hsame => ?_
    -- no comment hangs on a steering document
    exact kind_ne_of_findEntity hfound hsame.1.symm
  | related => exact fun comment hmem => (h comment hmem).of_shelf_eq (shelf_with_relationships _ _)
  | linked => exact fun comment hmem => (h comment hmem).of_shelf_eq (shelf_with_links _ _)
  | unlinked => exact fun comment hmem => (h comment hmem).of_shelf_eq (shelf_with_links _ _)
  | @commented draft comment entity hid hkind hartifact hauthor hparent hopen hcontent hfound hcheck
      hanchor =>
    intro other hmem
    rcases List.mem_append.1 hmem with hold | hnew
    · exact (h other hold).of_shelf_eq (shelf_with_comments _ _)
    · obtain rfl := List.mem_singleton.1 hnew
      intro anchor hsome
      rw [hsome] at hanchor
      refine ⟨entity, ?_, Anchor.selection_inLine hanchor⟩
      rw [findEntity_eq_ok_iff, shelf_with_comments, ← findEntity_eq_ok_iff, hkind, hartifact]
      exact hfound
  | resolved hfound hactor =>
    intro new hmem
    rw [findComment_eq_ok_iff] at hfound
    rcases mem_replaceComment hfound hmem with hold | rfl
    · exact (h new hold).of_shelf_eq (shelf_with_comments _ _)
    · have hthere := h _ (of_find?_key hfound).1
      exact (hthere.congr rfl rfl rfl).of_shelf_eq (shelf_with_comments _ _)

theorem anchorsInLine_initial (users : List User) (prompts : List Prompt) :
    (initial users prompts).AnchorsInLine :=
  fun _ hmem => nomatch hmem

/-- **Inline comments point at what they say they point at.** In a store that can come about, an
anchor has a text and is as long as it; the artifact that its comment hangs on is there; the anchor
is visible exactly when its text stands somewhere in the artifact's body, and then the characters
between its positions are its text. -/
theorem reachable_anchor_in_line {store : Store} (hstore : Reachable store) {comment : Comment}
    (hcomment : comment ∈ store.comments) {anchor : Anchor}
    (hanchor : comment.anchor = some anchor) :
    anchor.text ≠ "" ∧ anchor.start ≤ anchor.stop ∧
      anchor.stop - anchor.start = anchor.text.length ∧
      ∃ entity, store.findEntity comment.kind (.byId comment.artifact) = .ok entity ∧
        (anchor.visible = true ↔ anchor.text.toList <:+: entity.body.toList) ∧
        (anchor.visible = true →
          (entity.body.toList.take anchor.stop).drop anchor.start = anchor.text.toList) := by
  have hall : store.AnchorsInLine := hstore.invariant anchorsInLine_initial AnchorsInLine.effect
  obtain ⟨entity, hfound, hinLine⟩ := hall comment hcomment anchor hanchor
  have hstop := hinLine.stop_eq
  exact ⟨hinLine.text_ne, by omega, by omega, entity, hfound, hinLine.visible_iff, hinLine.stands⟩

/-- An epic, a comment on a word of its description, and a description in which the word stands
further back. -/
def movingRun : List Step :=
  [⟨.createEpic ⟨"Search", some "find things", .high, (Stamp.nth 0).id, none⟩, .nth 1⟩,
    ⟨.createComment
      { kind := .epic
        artifact := (Stamp.nth 1).id
        author := (Stamp.nth 0).id
        content := "Which?"
        parent := none
        selection := ⟨some "things", some 5, some 11⟩ }, .nth 2⟩,
    ⟨.updateEntity .epic (Stamp.nth 1).id
      { Changes.none with description := some "find old things" }, .nth 3⟩]

/-- The comment at the end of the run. -/
def movedComment : Comment :=
  { id := (Stamp.nth 2).id
    kind := .epic
    artifact := (Stamp.nth 1).id
    author := (Stamp.nth 0).id
    content := "Which?"
    parent := none
    resolved := false
    anchor := some ⟨"things", 9, 15, true⟩
    createdAt := (Stamp.nth 2).now
    updatedAt := (Stamp.nth 2).now }

/-- An anchor that has moved. -/
theorem reachable_anchor_in_line_moved :
    let store := (initial [] []).run movingRun
    Reachable store ∧ movedComment ∈ store.comments ∧
      ∃ entity, store.findEntity .epic (.byId (Stamp.nth 1).id) = .ok entity ∧
        "things".toList <:+: entity.body.toList ∧
        (entity.body.toList.take 15).drop 9 = "things".toList := by
  intro store
  have hfresh : (initial [] []).FreshRun movingRun := by decide +kernel
  have hcomments : store.comments = [movedComment] := by decide +kernel
  have hstore : Reachable store := (Reachable.initial [] []).run hfresh
  have hcomment : movedComment ∈ store.comments := by
    rw [hcomments]
    exact List.mem_singleton_self movedComment
  obtain ⟨-, -, -, entity, hfound, hvisible, hstands⟩ :=
    reachable_anchor_in_line hstore hcomment rfl
  exact ⟨hstore, hcomment, entity, hfound, hvisible.1 rfl, hstands rfl⟩

end Store

end Planroom
