import Mathlib.Logic.Relation
import Planroom.Proofs.Store.History
import Planroom.Proofs.Store.Identifiers

/-!
# Threads of comments

A comment may answer another one, which may answer another one again. A store keeps all comments in one
list and checks of an answer only that the comment answered is there and is on the same artifact. It is
shown here that this is enough for threads: the comments on an artifact are a forest.

* **Threaded** — every remark in a store was accepted by what came before it, and no identifier comes
  twice. Every effect keeps it so.
* **Upwards** — `WellFounded`: going from answer to what is answered comes to an end, in one root, on
  the same artifact.
* **Downwards** — an answer is listed among the replies to what it answers, once, and nowhere else.
-/

namespace Planroom

namespace Store

variable {store after : Store} {step : Step} {created : Option Artifact}

/-! ## Threaded stores -/

/-- **Is a store threaded?** What a remark answers comes before it in the list. This is more than
that it is there, and it is why there can be no circles. -/
structure Threaded (store : Store) : Prop where
  distinct : (store.remarks.map Remark.id).Nodup
  placed : ∀ remark ∈ store.remarks,
    ∃ entity, store.findEntity remark.kind (.byId remark.artifact) = .ok entity
  worded : ∀ remark ∈ store.remarks, Text.Trimmed remark.content
  answering : ∀ before remark rest, store.remarks = before ++ remark :: rest →
    remark.parent = none ∨ ∃ other ∈ before, remark.Answers other

/-- What is at some place of a list with one more entry is at its place without it, or is this entry. -/
theorem eq_of_snoc_eq {α : Type} {l before rest : List α} {last a : α}
    (h : l ++ [last] = before ++ a :: rest) :
    (∃ rest', l = before ++ a :: rest') ∨ before = l ∧ a = last := by
  rcases List.eq_nil_or_concat rest with rfl | ⟨rest', b, rfl⟩
  · obtain ⟨rfl, hlast⟩ := List.append_inj' h rfl
    cases hlast
    exact .inr ⟨rfl, rfl⟩
  · rw [List.concat_eq_append, ← List.cons_append, ← List.append_assoc] at h
    exact .inl ⟨rest', (List.append_inj' h rfl).1⟩

/-- **Every effect** keeps a store threaded. A new remark comes at the end, and what it answers was
in the store by then. -/
theorem Threaded.effect (h : store.Threaded) (hfresh : store.Fresh step)
    (heffect : Effect store step.stamp step.access created after) : after.Threaded := by
  have hextends := Extends.of_effect hfresh heffect
  -- an artifact that is there stays there
  have hplaced {remark : Remark}
      (hthere : ∃ entity, store.findEntity remark.kind (.byId remark.artifact) = .ok entity) :
      ∃ entity, after.findEntity remark.kind (.byId remark.artifact) = .ok entity := by
    obtain ⟨entity, hentity⟩ := hthere
    obtain ⟨again, hagain, -⟩ := hextends.findEntity hentity
    exact ⟨again, hagain⟩
  have hdistinct := distinct_effect h.distinct hfresh heffect
  rcases remarks_effect heffect with hsame | ⟨remark, hadded, -, -, -, haccepts⟩
  · refine ⟨hdistinct, ?_, ?_, ?_⟩
    · rw [hsame]
      exact fun remark hremark => hplaced (h.placed remark hremark)
    · rw [hsame]
      exact h.worded
    · rw [hsame]
      exact h.answering
  · refine ⟨hdistinct, ?_, ?_, ?_⟩
    · rw [hadded, List.forall_mem_append, List.forall_mem_singleton]
      exact ⟨fun other hother => hplaced (h.placed other hother), hplaced haccepts.placed⟩
    · rw [hadded, List.forall_mem_append, List.forall_mem_singleton]
      exact ⟨h.worded, haccepts.worded⟩
    · rintro before other rest hsplit
      rw [hadded] at hsplit
      -- of any other remark it has been known already what comes before it
      rcases eq_of_snoc_eq hsplit with ⟨rest', hold⟩ | ⟨rfl, rfl⟩
      · exact h.answering before other rest' hold
      · exact haccepts.answers

/-- At the beginning there are no comments. -/
theorem threaded_initial (users : List User) (prompts : List Prompt) :
    (initial users prompts).Threaded := by
  refine ⟨List.nodup_nil, List.forall_mem_nil _, List.forall_mem_nil _, ?_⟩
  intro before remark rest hsplit
  cases before <;> cases hsplit

/-- **Every reachable store** is threaded, by the step lemma above. -/
theorem Reachable.threaded (hstore : Reachable store) : store.Threaded :=
  hstore.invariant threaded_initial Threaded.effect

/-! ## Upwards -/

/-- **Does a comment in a store answer another one** that is in it? An answer to something that is
not there would be none. -/
structure IsAnswer (store : Store) (comment other : Comment) : Prop where
  mem : comment ∈ store.comments
  mem_other : other ∈ store.comments
  parent : comment.parent = some other.id

namespace Threaded

variable (h : store.Threaded) {comment other : Comment}

include h

/-- **What is answered comes before the answer**, on the same artifact, and the answer has no anchor. -/
theorem earlier {before rest : List Comment} {id : Uuid}
    (hsplit : store.comments = before ++ comment :: rest) (hparent : comment.parent = some id) :
    comment.anchor = none ∧ ∃ other ∈ before,
      other.id = id ∧ other.kind = comment.kind ∧ other.artifact = comment.artifact := by
  have hremarks : store.remarks =
      before.map Comment.remark ++ comment.remark :: rest.map Comment.remark := by
    rw [remarks, hsplit, List.map_append, List.map_cons]
  rcases h.answering _ _ _ hremarks with hroot | ⟨remark, hremark, hanswers⟩
  · cases hroot.symm.trans hparent
  · obtain ⟨other, hother, rfl⟩ := List.mem_map.1 hremark
    have hid : some other.id = some id := hanswers.parent.symm.trans hparent
    exact ⟨Comment.quoted_eq_none_iff.1 hanswers.untied, other, hother, Option.some.inj hid,
      hanswers.kind, hanswers.artifact⟩

/-- An answer is not a root: what it answers is there, on the same artifact. -/
theorem exists_answered (hmem : comment ∈ store.comments) {id : Uuid}
    (hparent : comment.parent = some id) :
    ∃ other, store.IsAnswer comment other ∧ other.id = id ∧ other.kind = comment.kind ∧
      other.artifact = comment.artifact := by
  obtain ⟨before, rest, hsplit⟩ := List.append_of_mem hmem
  obtain ⟨-, other, hother, rfl, hkind, hartifact⟩ := h.earlier hsplit hparent
  have hthere : other ∈ store.comments := by
    rw [hsplit]
    exact List.mem_append_left _ hother
  exact ⟨other, ⟨hmem, hthere, hparent⟩, rfl, hkind, hartifact⟩

/-- Two comments that the same comment answers are one, since identifiers are not shared. -/
theorem rightUnique : Relator.RightUnique store.IsAnswer := by
  intro comment first second hfirst hsecond
  have hid : some first.id = some second.id := hfirst.parent.symm.trans hsecond.parent
  exact comment_eq_of_id h.distinct hsecond.mem_other hfirst.mem_other (Option.some.inj hid)

/-- What is answered has a smaller place in the list. It is the measure by which going upwards comes
to an end. -/
theorem idxOf_lt (hanswer : store.IsAnswer comment other) :
    store.comments.idxOf other < store.comments.idxOf comment := by
  obtain ⟨before, rest, hsplit, hfirst⟩ := List.eq_append_cons_of_mem hanswer.mem
  obtain ⟨-, found, hfound, hid, -⟩ := h.earlier hsplit hanswer.parent
  have hthere : found ∈ store.comments := by
    rw [hsplit]
    exact List.mem_append_left _ hfound
  obtain rfl := comment_eq_of_id h.distinct hanswer.mem_other hthere hid
  rw [hsplit, List.idxOf_append_of_mem hfound, List.idxOf_append_of_notMem hfirst]
  exact Nat.lt_of_lt_of_le (List.idxOf_lt_length_iff.2 hfound) (Nat.le_add_right _ _)

/-- **Going from answer to what is answered** comes to an end. There is neither a circle nor an
endless chain. -/
theorem wellFounded : WellFounded fun other comment => store.IsAnswer comment other :=
  Subrelation.wf (fun hanswer => h.idxOf_lt hanswer) (measure store.comments.idxOf).wf

/-- **At the end is a root** on the same artifact. By induction along the answers: a comment that
answers none is its own root. -/
theorem exists_root (hmem : comment ∈ store.comments) :
    ∃ root, Relation.ReflTransGen store.IsAnswer comment root ∧ root ∈ store.comments ∧
      root.parent = none ∧ root.kind = comment.kind ∧ root.artifact = comment.artifact := by
  induction comment using h.wellFounded.induction with
  | h comment ih =>
    cases hparent : comment.parent with
    | none => exact ⟨comment, .refl, hmem, hparent, rfl, rfl⟩
    | some id =>
      obtain ⟨other, hanswer, -, hkind, hartifact⟩ := h.exists_answered hmem hparent
      obtain ⟨root, hpath, hroot, hnone, hrootKind, hrootArtifact⟩ := ih other hanswer hanswer.mem_other
      exact ⟨root, .head hanswer hpath, hroot, hnone, hrootKind.trans hkind,
        hrootArtifact.trans hartifact⟩

omit h in
/-- From a root one does not get any further. -/
theorem eq_of_root {root : Comment} (hroot : root.parent = none)
    (hpath : Relation.ReflTransGen store.IsAnswer root other) : root = other := by
  rcases hpath.cases_head with hsame | ⟨next, hanswer, -⟩
  · exact hsame
  · cases hroot.symm.trans hanswer.parent

/-- **There is but one root** at the end, since there is only one way upwards. -/
theorem root_unique {root : Comment}
    (hpath : Relation.ReflTransGen store.IsAnswer comment root) (hroot : root.parent = none)
    (hother : Relation.ReflTransGen store.IsAnswer comment other) (hotherRoot : other.parent = none) :
    other = root := by
  rcases hpath.total_of_right_unique h.rightUnique hother with hon | hback
  · exact (eq_of_root hroot hon).symm
  · exact eq_of_root hotherRoot hback

end Threaded

/-! ## Downwards -/

/-- **The replies to a comment** are listed if it is there, and they are all that answer it. The
code looks through the whole list for them. -/
theorem listReplies_eq_ok_iff {id : Uuid} {replies : List Comment} :
    store.listReplies id = .ok replies ↔
      (∃ comment ∈ store.comments, comment.id = id) ∧
        replies = store.comments.filter (·.parent == some id) := by
  constructor
  · intro h
    obtain ⟨comment, hfound, h⟩ := ok_of_bind h
    cases h
    obtain ⟨hmem, hid⟩ := of_find?_key (findComment_eq_ok_iff.1 hfound)
    exact ⟨⟨comment, hmem, hid⟩, rfl⟩
  · rintro ⟨⟨comment, hmem, hid⟩, rfl⟩
    have hsome : (store.comments.find? (·.id == id)).isSome := by
      rw [List.find?_isSome]
      exact ⟨comment, hmem, beq_iff_eq.2 hid⟩
    obtain ⟨found, hfound⟩ := Option.isSome_iff_exists.1 hsome
    rw [listReplies, findComment_eq_ok_iff.2 hfound]
    rfl

/-- The comments on an artifact that is there are listed. -/
theorem listComments_of_found {kind : Kind} {id : Uuid} {entity : Entity}
    (hfound : store.findEntity kind (.byId id) = .ok entity) :
    store.listComments kind id = .ok (store.comments.filter (·.isOn kind id)) := by
  rw [listComments, hfound]
  rfl

/-- What is listed among replies answers what they reply to. -/
theorem parent_of_mem_listReplies {id : Uuid} {replies : List Comment} {reply : Comment}
    (h : store.listReplies id = .ok replies) (hreply : reply ∈ replies) :
    reply ∈ store.comments ∧ reply.parent = some id := by
  obtain ⟨-, rfl⟩ := listReplies_eq_ok_iff.1 h
  obtain ⟨hmem, hparent⟩ := List.mem_filter.1 hreply
  exact ⟨hmem, beq_iff_eq.1 hparent⟩

/-- Where remarks have their own identifiers, no comment comes twice. -/
theorem nodup_comments (h : (store.remarks.map Remark.id).Nodup) : store.comments.Nodup := by
  rw [map_id_remarks] at h
  exact .of_map _ h

namespace Threaded

variable (h : store.Threaded) {comment : Comment}

include h

/-- **An answer is listed** among the replies to what it answers, once. The list has no comment
twice, and neither has a part of it. -/
theorem exists_listReplies (hmem : comment ∈ store.comments) {id : Uuid}
    (hparent : comment.parent = some id) :
    ∃ replies, store.listReplies id = .ok replies ∧ replies.count comment = 1 := by
  obtain ⟨other, hanswer, hid, -⟩ := h.exists_answered hmem hparent
  refine ⟨_, listReplies_eq_ok_iff.2 ⟨⟨other, hanswer.mem_other, hid⟩, rfl⟩, ?_⟩
  rw [List.count_filter (p := fun reply : Comment => reply.parent == some id)
    (beq_iff_eq.2 hparent)]
  exact List.count_eq_one_of_mem (nodup_comments h.distinct) hmem

/-- **Answers are on the artifact** that what they answer is on. -/
theorem isOn_of_parent {reply : Comment} (hmem : comment ∈ store.comments)
    (hreply : reply ∈ store.comments) (hparent : reply.parent = some comment.id) :
    reply.isOn comment.kind comment.artifact = true := by
  obtain ⟨other, hanswer, hid, hkind, hartifact⟩ := h.exists_answered hreply hparent
  obtain rfl := comment_eq_of_id h.distinct hmem hanswer.mem_other hid
  exact isOn_iff.2 ⟨hkind.symm, hartifact.symm⟩

/-- **The replies to a comment** are some of the comments on its artifact, in the same order. It is
so because an answer is on the artifact of what it answers. -/
theorem replies_sublist (hmem : comment ∈ store.comments) :
    ∃ replies all, store.listReplies comment.id = .ok replies ∧
      store.listComments comment.kind comment.artifact = .ok all ∧ replies.Sublist all := by
  obtain ⟨entity, hfound⟩ := h.placed comment.remark (remark_mem hmem)
  refine ⟨_, _, listReplies_eq_ok_iff.2 ⟨⟨comment, hmem, rfl⟩, rfl⟩,
    listComments_of_found hfound, ?_⟩
  -- a reply is on the artifact, so that to ask for this as well changes nothing
  have hboth : store.comments.filter (·.parent == some comment.id) =
      (store.comments.filter (·.isOn comment.kind comment.artifact)).filter
        (·.parent == some comment.id) := by
    rw [List.filter_filter]
    refine List.filter_congr fun reply hreply => ?_
    rw [Bool.eq_iff_iff, Bool.and_eq_true, beq_iff_eq]
    exact ⟨fun hparent => ⟨hparent, h.isOn_of_parent hmem hreply hparent⟩, And.left⟩
  rw [hboth]
  exact List.filter_sublist

end Threaded

/-! ## Forests -/

/-- **Are the comments in a store a forest** on each artifact? It is said of the comments and of the
listings that callers get, and not of the remarks by which it is proved. -/
structure Forest (store : Store) : Prop where
  /-- Every comment is on an artifact of the hierarchy that is there. -/
  placed : ∀ comment ∈ store.comments, comment.kind ∈ Kind.resources ∧
    ∃ entity, store.findEntity comment.kind (.byId comment.artifact) = .ok entity ∧
      entity.kind = comment.kind ∧ entity.id = comment.artifact
  worded : ∀ comment ∈ store.comments, Text.Trimmed comment.content
  /-- What is answered comes before the answer, on the same artifact. -/
  earlier : ∀ before comment rest, store.comments = before ++ comment :: rest →
    ∀ id, comment.parent = some id → comment.anchor = none ∧ ∃ other ∈ before,
      other.id = id ∧ other.kind = comment.kind ∧ other.artifact = comment.artifact
  /-- No comment comes twice, or has the identifier of another one. -/
  distinct : (store.comments.map Comment.id).Nodup
  /-- Going from answer to what is answered comes to an end. -/
  finite : WellFounded fun other comment => store.IsAnswer comment other
  /-- The end is a root on the same artifact, and there is but one. -/
  rooted : ∀ comment ∈ store.comments, ∃ root ∈ store.comments,
    Relation.ReflTransGen store.IsAnswer comment root ∧ root.parent = none ∧
      root.kind = comment.kind ∧ root.artifact = comment.artifact ∧
      ∀ other, Relation.ReflTransGen store.IsAnswer comment other → other.parent = none → other = root
  /-- An answer is listed once, among the replies to what it answers. -/
  listed : ∀ comment ∈ store.comments, ∀ id, comment.parent = some id →
    ∃ replies, store.listReplies id = .ok replies ∧ replies.count comment = 1
  /-- Nothing else is listed among replies. -/
  nowhereElse : ∀ id replies, store.listReplies id = .ok replies → ∀ reply ∈ replies,
    reply ∈ store.comments ∧ reply.parent = some id
  /-- The replies to a comment are some of the comments on its artifact, in the same order. -/
  within : ∀ comment ∈ store.comments, ∃ replies all,
    store.listReplies comment.id = .ok replies ∧
      store.listComments comment.kind comment.artifact = .ok all ∧ replies.Sublist all

/-- A comment in a reachable store is on an artifact of the hierarchy that is there. Nothing takes
artifacts away, so that no comment is left behind. -/
theorem Reachable.exists_entity (hstore : Reachable store) {comment : Comment}
    (hmem : comment ∈ store.comments) :
    ∃ entity, store.findEntity comment.kind (.byId comment.artifact) = .ok entity ∧
      entity.kind = comment.kind ∧ entity.id = comment.artifact := by
  obtain ⟨entity, hfound⟩ := hstore.threaded.placed comment.remark (remark_mem hmem)
  have hthere := (hstore.numbered comment.kind).of_find? (findEntity_eq_ok_iff.1 hfound)
  rcases hthere.2 with hid | hreference
  · have hsame : comment.artifact = entity.identity.id := Lookup.byId.inj hid
    exact ⟨entity, hfound, kind_of_findEntity hfound, (hsame.trans entity.identity_id).symm⟩
  · cases hreference

/-- **In every reachable store** the comments are a forest on each artifact. -/
theorem comments_are_forest (hstore : Reachable store) : store.Forest := by
  have hthreaded := hstore.threaded
  refine ⟨?_, ?_, ?_, ?_, hthreaded.wellFounded, ?_, ?_, ?_, ?_⟩
  · intro comment hmem
    obtain ⟨entity, hfound, hentity⟩ := hstore.exists_entity hmem
    exact ⟨Kind.mem_resources_iff.2 (kind_ne_of_findEntity hfound), entity, hfound, hentity⟩
  · intro comment hmem
    exact hthreaded.worded comment.remark (remark_mem hmem)
  · intro before comment rest hsplit id hparent
    exact hthreaded.earlier hsplit hparent
  · rw [← map_id_remarks]
    exact hthreaded.distinct
  · intro comment hmem
    obtain ⟨root, hpath, hroot, hnone, hkind, hartifact⟩ := hthreaded.exists_root hmem
    exact ⟨root, hroot, hpath, hnone, hkind, hartifact, fun other hother hotherRoot =>
      hthreaded.root_unique hpath hnone hother hotherRoot⟩
  · intro comment hmem id hparent
    exact hthreaded.exists_listReplies hmem hparent
  · intro id replies hreplies reply hreply
    exact parent_of_mem_listReplies hreplies hreply
  · intro comment hmem
    exact hthreaded.replies_sublist hmem

/-- `alice` asks about a word of an epic, `bob` answers, and `alice` answers the answer, before the
epic gets other words. -/
def askedRun : List Step :=
  [⟨.createEpic ⟨"Search", some "find things", .high, (Stamp.nth 1).id, none⟩, .nth 4⟩,
    ⟨.createComment (on (Stamp.nth 1).id " Which? " none ⟨some "things", some 5, some 11⟩), .nth 5⟩,
    ⟨.createComment (on (Stamp.nth 2).id "All." (some (Stamp.nth 5).id) .empty), .nth 6⟩,
    ⟨.createComment (on (Stamp.nth 1).id "Even old ones?" (some (Stamp.nth 6).id) .empty), .nth 7⟩,
    ⟨.updateEntity .epic (Stamp.nth 4).id { Changes.none with description := some "find" }, .nth 8⟩]
where
  /-- A comment on the epic. -/
  on (author : Uuid) (content : String) (parent : Option Uuid) (selection : Selection) :
      CommentDraft :=
    { kind := .epic, artifact := (Stamp.nth 4).id, author, content, parent, selection }

/-- The last answer is listed once, and comes from the question that is at its root. -/
theorem comments_are_forest_asked :
    let store := (initial [] []).run askedRun
    Reachable store ∧ store.Forest ∧
      store.comments.map Comment.content = ["Which?", "All.", "Even old ones?"] ∧
      store.comments.map (fun comment => comment.anchor.map Anchor.visible) =
        [some false, none, none] ∧
      ∃ replies, store.listReplies (Stamp.nth 6).id = .ok replies ∧
        replies.map Comment.content = ["Even old ones?"] := by
  intro store
  have hrun : (initial [] []).FreshRun askedRun := by decide +kernel
  have hstore : Reachable store := (Reachable.initial [] []).run hrun
  have hforest := comments_are_forest hstore
  refine ⟨hstore, hforest, by decide +kernel, by decide +kernel, ?_⟩
  exact ⟨_, listReplies_eq_ok_iff.2 ⟨by decide +kernel, rfl⟩, by decide +kernel⟩

end Store

end Planroom
