import Planroom.Proofs.Store.Anchors
import Planroom.Proofs.Text.Cut

/-!
# What stays of a comment

A comment may be resolved and opened again, and its anchor goes where its text goes. The rest of it is
its **remark**: who said what, about which artifact, in answer to what. The remarks of a store are to
its comments what the registers are to its artifacts.

* **Accepted** — `Accepts` says what is checked of a remark before it is made.
* **One step** — `remarks_effect`: an effect adds at most one remark, at the end, and one that is
  accepted. All others stay as they are.
* **Where a comment comes from** — `origin_effect`: a comment after an effect has just been made, or it
  was there before and is open or resolved as it was, unless this very comment has been resolved or
  opened again by somebody who may do so.
-/

namespace Planroom

/-- **What never changes of a comment.** Of its anchor this is the text alone, for the place of it
goes with the body of the artifact. -/
structure Remark where
  id : Uuid
  kind : Kind
  artifact : Uuid
  author : Uuid
  content : String
  parent : Option Uuid
  /-- The text that the comment is tied to, if it is inline. -/
  quoted : Option String
  createdAt : Timestamp
  deriving DecidableEq, Repr

/-- The remark that a comment makes. -/
def Comment.remark (comment : Comment) : Remark :=
  { id := comment.id
    kind := comment.kind
    artifact := comment.artifact
    author := comment.author
    content := comment.content
    parent := comment.parent
    quoted := comment.anchor.map Anchor.text
    createdAt := comment.createdAt }

namespace Comment

variable {comment : Comment}

/-- To bring an anchor in line leaves the remark alone. -/
@[simp] theorem remark_reconcile (comment : Comment) (body : String) :
    (comment.reconcile body).remark = comment.remark := by
  unfold reconcile
  split
  · next anchor hanchor =>
    simp only [remark, hanchor, Option.map_some, Anchor.reconcile_text]
  · rfl

/-- Nor does it resolve the comment, or open it again. -/
@[simp] theorem resolved_reconcile (comment : Comment) (body : String) :
    (comment.reconcile body).resolved = comment.resolved := by
  unfold reconcile
  split <;> rfl

/-- A remark quotes nothing if the comment is not inline. -/
theorem quoted_eq_none_iff : comment.remark.quoted = none ↔ comment.anchor = none :=
  Option.map_eq_none_iff

end Comment

/-- A kept content is trimmed. -/
theorem Rules.content_trimmed {s kept : String} (h : Rules.content s = .ok kept) :
    Text.Trimmed kept := by
  dsimp only [Rules.content] at h
  split at h
  · cases h
  · next hempty =>
    cases h
    exact Text.trimmed_trim fun hnone => hempty (String.isEmpty_iff.2 hnone)

/-- Nothing is tied to a selection without fields. So an answer, whose selection has to be empty,
has no anchor. -/
theorem Selection.anchor_of_isEmpty {selection : Selection} {body : String} {anchor : Option Anchor}
    (hempty : selection.isEmpty = true) (h : selection.anchor body = .ok anchor) : anchor = none := by
  obtain ⟨text, start, stop⟩ := selection
  simp only [isEmpty, Bool.and_eq_true, Option.isNone_iff_eq_none] at hempty
  obtain ⟨⟨rfl, rfl⟩, rfl⟩ := hempty
  cases h
  rfl

/-- **Does a remark answer another one?** Then both are about the same artifact, and the answer is
not tied to a text. An answer may be answered in turn. -/
structure Remark.Answers (remark other : Remark) : Prop where
  parent : remark.parent = some other.id
  kind : other.kind = remark.kind
  artifact : other.artifact = remark.artifact
  untied : remark.quoted = none

namespace Store

/-- **The remarks in a store**, in the order in which they were made. The order of the comments is
theirs, as no comment is ever taken away. -/
def remarks (store : Store) : List Remark :=
  store.comments.map Comment.remark

/-- **Is a remark one that a store accepts?** Its artifact is there, it says something without
blanks around it, and what it answers, if anything, is there too. -/
structure Accepts (store : Store) (remark : Remark) : Prop where
  placed : ∃ entity, store.findEntity remark.kind (.byId remark.artifact) = .ok entity
  worded : Text.Trimmed remark.content
  answers : remark.parent = none ∨ ∃ parent ∈ store.remarks, remark.Answers parent

variable {store after : Store} {stamp : Stamp} {access : Access} {created : Option Artifact}

/-! ## Changed comments -/

/-- What is not told of anchors is told of all comments as before when they are reconciled. It is
used for the remarks and for the identifiers. -/
theorem map_reconcileComments {β : Type} {look : Comment → β}
    (hlook : ∀ comment body, look (Comment.reconcile comment body) = look comment)
    (comments : List Comment) (kind : Kind) (id : Uuid) (body : String) :
    (reconcileComments comments kind id body).map look = comments.map look := by
  rw [reconcileComments, List.map_map]
  refine List.map_congr_left fun comment _ => ?_
  rw [Function.comp_apply]
  split
  · exact hlook comment body
  · rfl

/-- What a change of a comment leaves alone is told of all comments as before. -/
theorem map_replaceComment {β : Type} {look : Comment → β} {f : Comment → Comment}
    (hlook : ∀ comment, look (f comment) = look comment) (id : Uuid) (comments : List Comment) :
    (replaceComment id f comments).map look = comments.map look := by
  induction comments with
  | nil => rfl
  | cons comment rest ih =>
    rw [replaceComment]
    split
    · rw [List.map_cons, List.map_cons, hlook]
    · rw [List.map_cons, List.map_cons, ih]

/-! ## What is checked -/

/-- A comment makes one of the remarks. -/
theorem remark_mem {comment : Comment} (h : comment ∈ store.comments) :
    comment.remark ∈ store.remarks :=
  List.mem_map_of_mem h

/-- **What an answer answers** is there, and on the same artifact. That it is not tied to a text
follows from the selection, which has to be empty. -/
theorem answers_of_checkParent {draft : CommentDraft} {comment : Comment} {body : String}
    (hcheck : store.checkParent draft = .ok ())
    (hkind : comment.kind = draft.kind) (hartifact : comment.artifact = draft.artifact)
    (hparent : comment.parent = draft.parent)
    (hanchor : draft.selection.anchor body = .ok comment.anchor) :
    comment.parent = none ∨ ∃ other ∈ store.remarks, comment.remark.Answers other := by
  dsimp only [checkParent] at hcheck
  cases hid : draft.parent with
  | none => exact .inl (hparent.trans hid)
  | some id =>
    rw [hid] at hcheck
    obtain ⟨other, hfound, hcheck⟩ := ok_of_bind hcheck
    obtain ⟨hon, hcheck⟩ := ok_of_unless hcheck
    obtain ⟨hempty, -⟩ := ok_of_unless hcheck
    rw [Bool.not_eq_true', Bool.not_eq_false] at hon hempty
    obtain ⟨hmem, hsame⟩ := of_find?_key (findComment_eq_ok_iff.1 hfound)
    obtain ⟨hsameKind, hsameArtifact⟩ := isOn_iff.1 hon
    refine .inr ⟨other.remark, remark_mem hmem, ?_, ?_, ?_, ?_⟩
    · exact (hparent.trans hid).trans (congrArg some hsame.symm)
    · exact hsameKind.trans hkind.symm
    · exact hsameArtifact.trans hartifact.symm
    · exact Comment.quoted_eq_none_iff.2 (Selection.anchor_of_isEmpty hempty hanchor)

/-! ## One step -/

/-- **An effect adds at most one remark**, at the end, and one that is accepted. It gets the
identifier that was drawn, and is put down to the author of the access. -/
theorem remarks_effect (heffect : Effect store stamp access created after) :
    after.remarks = store.remarks ∨
      ∃ remark, after.remarks = store.remarks ++ [remark] ∧ access.drawsId = true ∧
        remark.id = stamp.id ∧ access.makes? = some (.remark, remark.author) ∧
        store.Accepts remark := by
  cases heffect with
  | nothing => exact .inl rfl
  | created => exact .inl (congrArg (List.map _) (file_comments store _ _))
  | @updated kind id changes old new bodyChanged =>
    refine .inl ?_
    dsimp only [remarks]
    split
    · -- anchors may have moved, and the remarks do not say where they are
      exact map_reconcileComments Comment.remark_reconcile _ _ _ _
    · rfl
  | documentUpdated => exact .inl (congrArg (List.map _) (file_comments store _ _))
  | related => exact .inl rfl
  | linked => exact .inl rfl
  | unlinked => exact .inl rfl
  | @commented draft comment entity hid hkind hartifact hauthor hparent hopen hcontent hfound hcheck
      hanchor =>
    refine .inr ⟨comment.remark, List.map_append, rfl, hid, ?_, ⟨entity, ?_⟩, ?_, ?_⟩
    · change some (Product.remark, draft.author) = some (Product.remark, comment.author)
      rw [hauthor]
    · change store.findEntity comment.kind (.byId comment.artifact) = .ok entity
      rw [hkind, hartifact]
      exact hfound
    · exact Rules.content_trimmed hcontent
    · exact answers_of_checkParent hcheck hkind hartifact hparent hanchor
  | @resolved id resolved =>
    refine .inl (map_replaceComment ?_ id store.comments)
    intro comment
    rfl

/-- **Remarks are only added.** -/
theorem remarks_prefix (heffect : Effect store stamp access created after) :
    store.remarks <+: after.remarks := by
  rcases remarks_effect heffect with hsame | ⟨remark, hadded, -⟩
  · exact hsame.symm ▸ List.prefix_rfl
  · rw [hadded]
    exact List.prefix_append _ _

/-- The identifiers of the remarks are those of the comments. -/
theorem map_id_remarks (store : Store) :
    store.remarks.map Remark.id = store.comments.map Comment.id := by
  rw [remarks, List.map_map]
  rfl

/-- An identifier that is not in use is that of no remark. -/
theorem not_mem_remarks_of_not_uses {id : Uuid} (h : store.uses id = false) :
    id ∉ store.remarks.map Remark.id := by
  simp only [uses, Bool.or_eq_false_iff, List.any_eq_false, beq_iff_eq] at h
  rw [map_id_remarks]
  intro hmem
  obtain ⟨comment, hcomment, rfl⟩ := List.mem_map.1 hmem
  exact h.2 comment hcomment rfl

/-- **Every effect** keeps the identifiers of the remarks apart, for that of a new one was not in
use. -/
theorem distinct_effect {step : Step} (h : (store.remarks.map Remark.id).Nodup)
    (hfresh : store.Fresh step) (heffect : Effect store step.stamp step.access created after) :
    (after.remarks.map Remark.id).Nodup := by
  rcases remarks_effect heffect with hsame | ⟨remark, hadded, hdraws, hid, -⟩
  · rw [hsame]
    exact h
  · have hnew := not_mem_remarks_of_not_uses (hfresh hdraws)
    rw [hadded, List.map_append, List.map_singleton, hid]
    exact h.append (List.nodup_singleton _) (List.disjoint_singleton.2 hnew)

/-- **In every reachable store** the identifiers of the remarks are apart, so that an identifier
means one comment. -/
theorem Reachable.distinct_remarks (hstore : Reachable store) :
    (store.remarks.map Remark.id).Nodup :=
  hstore.invariant (P := fun store => (store.remarks.map Remark.id).Nodup)
    (fun _ _ => List.nodup_nil) distinct_effect

/-- Where the identifiers are apart, comments with the same one are the same. -/
theorem comment_eq_of_id (h : (store.remarks.map Remark.id).Nodup) {comment other : Comment}
    (hcomment : comment ∈ store.comments) (hother : other ∈ store.comments)
    (hid : other.id = comment.id) : other = comment := by
  rw [map_id_remarks] at h
  exact List.inj_on_of_nodup_map h hother hcomment hid

/-! ## Where a comment comes from -/

/-- The comments after an update are those before it, open or resolved as they were. -/
theorem exists_of_mem_reconcileComments {comments : List Comment} {kind : Kind} {id : Uuid}
    {body : String} {again : Comment} (h : again ∈ reconcileComments comments kind id body) :
    ∃ comment ∈ comments, again.remark = comment.remark ∧ again.resolved = comment.resolved := by
  obtain ⟨comment, hmem, rfl⟩ := List.mem_map.1 h
  refine ⟨comment, hmem, ?_⟩
  split
  · exact ⟨comment.remark_reconcile body, comment.resolved_reconcile body⟩
  · exact ⟨rfl, rfl⟩

/-- **Where a comment comes from.** A comment after an effect is there for the first time, or it was
there before, and is open or resolved as it was unless somebody who may do so has changed just this.
It looks back from the comments after the effect; that none is lost is said by `remarks_prefix`. -/
theorem origin_effect (heffect : Effect store stamp access created after) {again : Comment}
    (h : again ∈ after.comments) :
    (access.drawsId = true ∧ again.id = stamp.id) ∨
      ∃ comment ∈ store.comments, again.remark = comment.remark ∧
        (again.resolved = comment.resolved ∨ ∃ actor,
          access = .setResolved comment.id again.resolved actor ∧
            actor.mayActFor comment.author = true) := by
  -- most effects leave the comments as they are
  have hkept : again ∈ store.comments → ∃ comment ∈ store.comments, again.remark = comment.remark ∧
      (again.resolved = comment.resolved ∨ ∃ actor,
        access = .setResolved comment.id again.resolved actor ∧
          actor.mayActFor comment.author = true) :=
    fun hmem => ⟨again, hmem, rfl, .inl rfl⟩
  cases heffect with
  | created =>
    rw [file_comments] at h
    exact .inr (hkept h)
  | updated =>
    refine .inr ?_
    dsimp only at h
    split at h
    · obtain ⟨comment, hmem, hremark, hresolved⟩ := exists_of_mem_reconcileComments h
      exact ⟨comment, hmem, hremark, .inl hresolved⟩
    · exact hkept h
  | documentUpdated =>
    rw [file_comments] at h
    exact .inr (hkept h)
  | commented hid =>
    rcases List.mem_append.1 h with hold | hnew
    · exact .inr (hkept hold)
    · obtain rfl := List.mem_singleton.1 hnew
      exact .inl ⟨rfl, hid⟩
  | @resolved id resolved actor comment hfound hactor =>
    rw [findComment_eq_ok_iff] at hfound
    rcases mem_replaceComment hfound h with hold | rfl
    · exact .inr (hkept hold)
    · obtain ⟨hmem, rfl⟩ := of_find?_key hfound
      exact .inr ⟨comment, hmem, rfl, .inr ⟨actor, rfl, hactor⟩⟩
  | _ => exact .inr (hkept h)

end Store

end Planroom
