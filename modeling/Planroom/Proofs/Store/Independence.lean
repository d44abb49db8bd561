import Planroom.Proofs.Store.Changes
import Planroom.Proofs.Store.Persistence

/-!
# Independent changes

Two changes are independent when they are of different artifacts, or when they name different
fields. In whichever order they are made, none of them is lost.

* **Times** — `SameButTimes`: two stores that differ at most in when artifacts were modified. A
  change leads from two such stores to two such stores, whenever it is made (`SameButTimes.update`).
* **Outcomes** — whether a change succeeds depends on who is known and on what is there, and no
  change makes a difference to that (`outcome_after_update`).
* **Order** — changes that are made at one time commute (`put_comm`, `put_put_comm`). What one of
  them reads, the other one does not touch.
-/

namespace Planroom

/-! ## Tables -/

namespace Table

variable {α β : Type} {table : Table α} {id other : Uuid}

/-- Of two records that are filed under one identifier, the later one is left. -/
theorem insert_insert (table : Table α) (id : Uuid) (first second : α) :
    (table.insert id first).insert id second = table.insert id second := by
  obtain ⟨entries⟩ := table
  simp only [insert, mk.injEq]
  induction entries with
  | nil => simp [insertEntry]
  | cons entry rest ih =>
    by_cases hentry : entry.1 = id
    · simp [insertEntry, hentry]
    · simp [insertEntry, hentry, ih]

/-- **Records under different identifiers** may be filed in any order, if one of them takes the
place of another one. Two that are both new would stand in the order in which they came. -/
theorem insert_comm {old : α} (hfound : table.get? id = some old) (hne : id ≠ other)
    (first second : α) :
    (table.insert id first).insert other second = (table.insert other second).insert id first := by
  obtain ⟨entries⟩ := table
  simp only [get?, insert, Option.map_eq_some_iff, mk.injEq] at hfound ⊢
  obtain ⟨entry, hentry, -⟩ := hfound
  induction entries with
  | nil => cases hentry
  | cons head rest ih =>
    by_cases hid : head.1 = id
    · have hother : ¬ head.1 = other := fun h => hne (hid.symm.trans h)
      simp [insertEntry, hid, hne]
    · rw [List.find?_cons, beq_eq_false_iff_ne.2 hid] at hentry
      by_cases hother : head.1 = other
      · simp [insertEntry, hother, Ne.symm hne]
      · simp [insertEntry, hid, hother, ih hentry]

theorem map_injective {f : α → β} (hf : f.Injective) {first second : Table α}
    (h : first.map f = second.map f) : first = second := by
  obtain ⟨entries⟩ := first
  obtain ⟨others⟩ := second
  have hentries : Function.Injective fun entry : Uuid × α => (entry.1, f entry.2) := by
    intro a b hsame
    obtain ⟨hid, hvalue⟩ := Prod.mk.inj hsame
    exact Prod.ext hid (hf hvalue)
  exact congrArg mk (List.map_injective_iff.2 hentries (mk.inj h))

end Table

attribute [ext] Store

namespace Store

variable {store other after : Store} {kind later : Kind} {id next : Uuid}

/-- **A store is its shelves and what is beside them.** So two stores are compared part by part. -/
theorem eq_of_shelf_eq (hshelf : other.shelf = store.shelf)
    (hrelationships : other.relationships = store.relationships)
    (hlinks : other.links = store.links) (hcomments : other.comments = store.comments)
    (husers : other.users = store.users)
    (hprompts : other.prompts = store.prompts) (hissued : other.issued = store.issued) :
    other = store := by
  refine Store.ext ?_ ?_ ?_ ?_ ?_ hrelationships hlinks hcomments husers hprompts hissued
  · exact Table.map_injective (f := fun e => Artifact.entity (.epic e))
      (fun _ _ h => by cases h; rfl) (congrFun hshelf .epic)
  · exact Table.map_injective (f := fun s => Artifact.entity (.story s))
      (fun _ _ h => by cases h; rfl) (congrFun hshelf .userStory)
  · exact Table.map_injective (f := fun c => Artifact.entity (.criteria c))
      (fun _ _ h => by cases h; rfl) (congrFun hshelf .acceptanceCriteria)
  · exact Table.map_injective (f := fun r => Artifact.entity (.requirement r))
      (fun _ _ h => by cases h; rfl) (congrFun hshelf .requirement)
  · exact Table.map_injective (f := Artifact.document) (fun _ _ h => by cases h; rfl)
      (congrFun hshelf .steeringDocument)

/-- **Artifacts in different places** may be filed in any order, if one of them takes the place of
another one. -/
theorem file_comm {first second old : Artifact}
    (hfound : (store.shelf first.kind).get? id = some old)
    (hapart : ¬ (first.kind = second.kind ∧ id = next)) :
    (store.file id first).file next second = (store.file next second).file id first := by
  refine eq_of_shelf_eq (funext fun kind => ?_) ?_ ?_ ?_ ?_ ?_ ?_
  · simp only [shelf_file]
    by_cases hfirst : first.kind = kind
    · by_cases hsecond : second.kind = kind
      · have hne : id ≠ next := fun h => hapart ⟨hfirst.trans hsecond.symm, h⟩
        subst hfirst
        simp only [hsecond, if_true]
        exact Table.insert_comm hfound hne first second
      · simp only [hfirst, if_neg hsecond, if_true]
    · simp only [if_neg hfirst]
  all_goals
    simp only [file_relationships, file_links, file_comments, file_users, file_prompts, file_issued]

/-- Of two artifacts in one place, the later one is left. -/
theorem file_file {first second : Artifact} (hkind : first.kind = second.kind) :
    (store.file id first).file id second = store.file id second := by
  refine eq_of_shelf_eq (funext fun kind => ?_) ?_ ?_ ?_ ?_ ?_ ?_
  · simp only [shelf_file, hkind]
    by_cases hsecond : second.kind = kind
    · simp only [if_pos hsecond, Table.insert_insert]
    · simp only [if_neg hsecond]
  all_goals
    simp only [file_relationships, file_links, file_comments, file_users, file_prompts, file_issued]

end Store

/-! ## Times -/

/-- An artifact of any kind as if it had been modified at another time. -/
def Artifact.modifiedOn (now : Timestamp) : Artifact → Artifact
  | .entity e => .entity (e.modifiedOn now)
  | .document d => .document { d with modifiedAt := now }

namespace Store

variable {store other after : Store} {kind later : Kind} {id key : Uuid}

/-- **Do two stores differ at most in when artifacts were modified?** They are compared with all
times set to one, whichever that is. -/
structure SameButTimes (store other : Store) : Prop where
  shelves : ∀ kind now, (store.shelf kind).map (Artifact.modifiedOn now) =
    (other.shelf kind).map (Artifact.modifiedOn now)
  relationships : store.relationships = other.relationships
  links : store.links = other.links
  comments : store.comments = other.comments
  users : store.users = other.users
  prompts : store.prompts = other.prompts
  issued : store.issued = other.issued

namespace SameButTimes

theorem refl (store : Store) : store.SameButTimes store :=
  ⟨fun _ _ => rfl, rfl, rfl, rfl, rfl, rfl, rfl⟩

theorem symm (h : store.SameButTimes other) : other.SameButTimes store :=
  ⟨fun kind now => (h.shelves kind now).symm, h.relationships.symm, h.links.symm, h.comments.symm,
    h.users.symm, h.prompts.symm, h.issued.symm⟩

theorem trans (h : store.SameButTimes other) (hnext : other.SameButTimes after) :
    store.SameButTimes after :=
  ⟨fun kind now => (h.shelves kind now).trans (hnext.shelves kind now),
    h.relationships.trans hnext.relationships, h.links.trans hnext.links,
    h.comments.trans hnext.comments, h.users.trans hnext.users, h.prompts.trans hnext.prompts,
    h.issued.trans hnext.issued⟩

/-- What is found in two such stores is the same but for its time. -/
theorem get? (h : store.SameButTimes other) (kind : Kind) (id : Uuid) (now : Timestamp) :
    ((store.shelf kind).get? id).map (Artifact.modifiedOn now) =
      ((other.shelf kind).get? id).map (Artifact.modifiedOn now) := by
  rw [← Table.get?_map, h.shelves, Table.get?_map]

theorem modifiedOn_eq (h : store.SameButTimes other) {old found : Entity}
    (hold : store.findEntity kind (.byId id) = .ok old)
    (hfound : other.findEntity kind (.byId id) = .ok found) (now : Timestamp) :
    old.modifiedOn now = found.modifiedOn now := by
  have hsame := h.get? kind id now
  rw [findEntity_eq_ok_iff, Table.find?] at hold hfound
  rw [hold, hfound] at hsame
  exact Artifact.entity.inj (Option.some.inj hsame)

/-- **An artifact in the place of another one** leaves two such stores behind. The comments are the
same, for they depend on the texts and not on the times. -/
theorem put (h : store.SameButTimes other) {old new oldThere newThere : Entity}
    (hold : ∀ now, old.modifiedOn now = oldThere.modifiedOn now)
    (hnew : ∀ now, new.modifiedOn now = newThere.modifiedOn now) :
    (store.put kind id old new).SameButTimes (other.put kind id oldThere newThere) := by
  have holdText := Entity.text_eq_of_modifiedOn (hold ⟨0⟩)
  have hnewText := Entity.text_eq_of_modifiedOn (hnew ⟨0⟩)
  have hkind := Entity.kind_eq_of_modifiedOn (hnew ⟨0⟩)
  have hcomments : commentsAfter kind id old new store.comments =
      commentsAfter kind id oldThere newThere other.comments := by
    simp only [commentsAfter, holdText, hnewText, Entity.body_eq, h.comments]
  refine ⟨fun place now => ?_, ?_, ?_, hcomments, ?_, ?_, ?_⟩
  · rw [shelf_put, shelf_put, shelf_file, shelf_file, Artifact.kind_entity, Artifact.kind_entity,
      hkind]
    split
    · rw [Table.map_insert, Table.map_insert, h.shelves, Artifact.modifiedOn, hnew now]
      rfl
    · exact h.shelves place now
  · exact (file_relationships store id _).trans
      (h.relationships.trans (file_relationships other id _).symm)
  · exact (file_links store id _).trans (h.links.trans (file_links other id _).symm)
  · exact (file_users store id _).trans (h.users.trans (file_users other id _).symm)
  · exact (file_prompts store id _).trans (h.prompts.trans (file_prompts other id _).symm)
  · exact (file_issued store id _).trans (h.issued.trans (file_issued other id _).symm)

end SameButTimes

/-! ## Outcomes -/

/-- Whether an artifact is found depends on whether one is there. -/
theorem outcome_findEntity_congr
    (hthere : ((other.shelf kind).get? id).isSome = ((store.shelf kind).get? id).isSome) :
    outcome (other.findEntity kind (.byId id)) = outcome (store.findEntity kind (.byId id)) := by
  by_cases hkind : kind = .steeringDocument
  · subst hkind
    rfl
  · have hfetch (s : Store) :
        outcome (s.findEntity kind (.byId id)) = outcome (s.fetch kind (.byId id)) := by
      cases kind with
      | steeringDocument => exact absurd rfl hkind
      | _ =>
        simp only [fetch]
        cases s.findEntity _ (.byId id) <;> rfl
    rw [hfetch, hfetch, fetch_eq, fetch_eq, Table.find?, Table.find?]
    generalize (other.shelf kind).get? id = found at hthere ⊢
    generalize (store.shelf kind).get? id = here at hthere ⊢
    cases found with
    | none =>
      cases here with
      | none => rfl
      | some artifact => cases hthere
    | some other =>
      cases here with
      | none => cases hthere
      | some artifact => rfl

variable {changes others : Changes} {stamp again : Stamp}

/-- **Whether a change succeeds** is settled by the check, the look-up and the revision. What comes
after them cannot fail. -/
theorem outcome_update :
    outcome (store.perform stamp (.updateEntity kind id changes)).answer = outcome (do
      store.checkChanges kind changes
      let old ← store.findEntity kind (.byId id)
      old.revise stamp.now changes) := by
  rw [perform_update_eq]
  cases store.checkChanges kind changes with
  | error failure => rfl
  | ok _ =>
    cases store.findEntity kind (.byId id) with
    | error failure => rfl
    | ok old =>
      change outcome (Performed.writeNoting store (old.revise stamp.now changes >>= _)).answer =
        outcome (old.revise stamp.now changes)
      cases old.revise stamp.now changes <;> rfl

/-- It depends on who is known and on whether the artifact is there. -/
theorem outcome_update_congr (husers : other.users = store.users)
    (hthere : ((other.shelf kind).get? id).isSome = ((store.shelf kind).get? id).isSome) :
    outcome (other.perform again (.updateEntity kind id changes)).answer =
      outcome (store.perform stamp (.updateEntity kind id changes)).answer := by
  rw [outcome_update, outcome_update, checkChanges_congr husers]
  refine outcome_bind rfl fun _ _ _ _ => ?_
  refine outcome_bind (outcome_findEntity_congr hthere) fun old found hold hfound => ?_
  exact Entity.outcome_revise_congr
    ((kind_of_findEntity hold).trans (kind_of_findEntity hfound).symm)

/-- **A change made in two stores** that differ in times alone, at whatever times, leaves two such
stores behind. So times can be set aside while the order of changes is looked at. -/
theorem SameButTimes.update (h : store.SameButTimes other) (stamp again : Stamp) :
    (store.perform stamp (.updateEntity kind id changes)).store.SameButTimes
      (other.perform again (.updateEntity kind id changes)).store := by
  have hthere : ((other.shelf kind).get? id).isSome = ((store.shelf kind).get? id).isSome := by
    have hsame := congrArg Option.isSome (h.get? kind id ⟨0⟩)
    rw [Option.isSome_map, Option.isSome_map] at hsame
    exact hsame.symm
  have houtcome : outcome (other.perform again (.updateEntity kind id changes)).answer =
      outcome (store.perform stamp (.updateEntity kind id changes)).answer :=
    outcome_update_congr h.users.symm hthere
  cases hanswer : (store.perform stamp (.updateEntity kind id changes)).answer with
  | error failure =>
    rw [perform_of_error hanswer, perform_of_error (error_of_outcome houtcome hanswer)]
    exact h
  | ok new =>
    obtain ⟨newThere, hthere⟩ := ok_of_outcome houtcome hanswer
    obtain ⟨old, hold, hrevise, -, hstore⟩ := perform_update_of_ok hanswer
    obtain ⟨oldThere, holdThere, hreviseThere, -, hstoreThere⟩ := perform_update_of_ok hthere
    have hsame := h.modifiedOn_eq hold holdThere
    rw [hstore, hstoreThere]
    refine h.put hsame fun now => ?_
    -- both are what becomes of one artifact at this time
    have hhere := old.revise_modifiedOn stamp.now stamp.now now changes
    have helsewhere := oldThere.revise_modifiedOn again.now stamp.now now changes
    rw [hsame, helsewhere, hrevise, hreviseThere] at hhere
    exact (Except.ok.inj hhere).symm

/-- No change makes a difference to what is there. -/
theorem isSome_get?_put {old new : Entity} (hfound : store.findEntity kind (.byId id) = .ok old)
    (hkind : new.kind = kind) (place : Kind) (key : Uuid) :
    (((store.put kind id old new).shelf place).get? key).isSome =
      ((store.shelf place).get? key).isSome := by
  rw [shelf_put, get?_shelf_file, Artifact.kind_entity, hkind]
  split
  · next hsame =>
    obtain ⟨rfl, rfl⟩ := hsame
    rw [findEntity_eq_ok_iff, Table.find?] at hfound
    rw [hfound]
    rfl
  · rfl

/-- **After a change** another one has the outcome that it has without it. The first one takes
nothing away, and makes no one known or unknown. -/
theorem outcome_after_update (store : Store) (stamp again next : Stamp) :
    outcome ((store.perform stamp (.updateEntity kind id changes)).store.perform again
        (.updateEntity later key others)).answer =
      outcome (store.perform next (.updateEntity later key others)).answer := by
  refine outcome_update_congr (users_effect (perform_effect _ _ _)) ?_
  cases hanswer : (store.perform stamp (.updateEntity kind id changes)).answer with
  | error failure =>
    rw [perform_of_error hanswer]
    rfl
  | ok new =>
    obtain ⟨old, hold, -, hkind, hstore⟩ := perform_update_of_ok hanswer
    rw [hstore]
    exact isSome_get?_put hold hkind later key

/-! ## Order -/

theorem file_with_comments (comments : List Comment) (artifact : Artifact) :
    ({ store with comments := comments } : Store).file id artifact =
      { store.file id artifact with comments := comments } := by
  rcases artifact with (e | s | c | r) | d <;> rfl

theorem isOn_reconcile (comment : Comment) (body : String) :
    (comment.reconcile body).isOn kind id = comment.isOn kind id := by
  rw [Comment.reconcile]
  split <;> rfl

/-- The comments on different artifacts are brought in line in any order. -/
theorem reconcileComments_comm (hapart : ¬ (kind = later ∧ id = key)) (comments : List Comment)
    (body next : String) :
    reconcileComments (reconcileComments comments kind id body) later key next =
      reconcileComments (reconcileComments comments later key next) kind id body := by
  simp only [reconcileComments, List.map_map]
  refine List.map_congr_left fun comment _ => ?_
  simp only [Function.comp_apply]
  by_cases hon : comment.isOn kind id = true
  · have hoff : ¬ comment.isOn later key = true := by
      intro hother
      rw [isOn_iff] at hon hother
      exact hapart ⟨hon.1.symm.trans hother.1, hon.2.symm.trans hother.2⟩
    simp only [hon, hoff, Bool.false_eq_true, if_true, if_false, isOn_reconcile]
  · by_cases hother : comment.isOn later key = true
    · simp only [hon, hother, Bool.false_eq_true, if_true, if_false, isOn_reconcile]
    · simp only [hon, hother, Bool.false_eq_true, if_false]

theorem commentsAfter_comm {old new oldNext newNext : Entity} (hapart : ¬ (kind = later ∧ id = key))
    (comments : List Comment) :
    commentsAfter later key oldNext newNext (commentsAfter kind id old new comments) =
      commentsAfter kind id old new (commentsAfter later key oldNext newNext comments) := by
  unfold commentsAfter
  split
  · rfl
  · split
    · rfl
    · exact reconcileComments_comm hapart comments _ _

/-- **Different artifacts** may be put into their places in any order, together with the comments on
them. -/
theorem put_comm {old new oldNext newNext : Entity}
    (hfound : store.findEntity kind (.byId id) = .ok old) (hkind : new.kind = kind)
    (hnext : newNext.kind = later) (hapart : ¬ (kind = later ∧ id = key)) :
    (store.put kind id old new).put later key oldNext newNext =
      (store.put later key oldNext newNext).put kind id old new := by
  have hthere : (store.shelf (Artifact.entity new).kind).get? id = some (.entity old) := by
    rw [Artifact.kind_entity, hkind]
    exact findEntity_eq_ok_iff.1 hfound
  have hfile : (store.file id (.entity new)).file key (.entity newNext) =
      (store.file key (.entity newNext)).file id (.entity new) := by
    refine file_comm hthere ?_
    rwa [Artifact.kind_entity, Artifact.kind_entity, hkind, hnext]
  simp only [put, file_with_comments, hfile, commentsAfter_comm hapart]

/-- **Of one artifact** the last form is left, and the comments follow each form in turn. They are
reconciled twice, which need not be the same as once. -/
theorem put_put {old new again newer : Entity} (hkind : new.kind = newer.kind) :
    (store.put kind id old new).put kind id again newer =
      { store.file id (.entity newer) with
        comments :=
          commentsAfter kind id again newer (commentsAfter kind id old new store.comments) } := by
  have hfile : (store.file id (.entity new)).file id (.entity newer) =
      store.file id (.entity newer) :=
    file_file (by rwa [Artifact.kind_entity, Artifact.kind_entity])
  simp only [put, file_with_comments, hfile]

end Store

/-! ## Different fields -/

/-- **Do two changes name different fields?** A field that neither of them names is no matter. -/
structure Changes.Disjoint (changes others : Changes) : Prop where
  title : changes.title = .none ∨ others.title = .none
  description : changes.description = .none ∨ others.description = .none
  priority : changes.priority = .none ∨ others.priority = .none
  status : changes.status = .none ∨ others.status = .none
  assignee : changes.assignee = .keep ∨ others.assignee = .keep

/-- **One field** is the same in the end, if it stays where nothing is given and only one of two
changes gives something. It is this lemma that is used for each field of a card. -/
theorem field_comm {α γ : Type} {revise : α → Option γ → Except Failure α}
    (hkeep : ∀ value, revise value none = .ok value) {one two : Option γ}
    (h : one = none ∨ two = none)
    {old first both second same : α} (hfirst : revise old one = .ok first)
    (hboth : revise first two = .ok both) (hsecond : revise old two = .ok second)
    (hsame : revise second one = .ok same) : both = same := by
  rcases h with rfl | rfl
  · rw [hkeep] at hfirst hsame
    cases hfirst
    cases hsame
    exact Except.ok.inj (hboth.symm.trans hsecond)
  · rw [hkeep] at hboth hsecond
    cases hboth
    cases hsecond
    exact Except.ok.inj (hfirst.symm.trans hsame)

section Disjoint

variable {one two : Changes} (hdisjoint : one.Disjoint two) {now : Timestamp}

include hdisjoint

/-- **A card** is the same in the end. Each of the fields is taken by itself. -/
theorem Card.revise_comm {old first both second same : Card}
    (hfirst : old.revise now one = .ok first) (hboth : first.revise now two = .ok both)
    (hsecond : old.revise now two = .ok second)
    (hsame : second.revise now one = .ok same) : both = same := by
  obtain ⟨title1, htitle1, hfirst⟩ := Store.ok_of_bind hfirst
  obtain ⟨description1, hdescription1, hfirst⟩ := Store.ok_of_bind hfirst
  obtain ⟨title2, htitle2, hsecond⟩ := Store.ok_of_bind hsecond
  obtain ⟨description2, hdescription2, hsecond⟩ := Store.ok_of_bind hsecond
  cases hfirst
  cases hsecond
  obtain ⟨title12, htitle12, hboth⟩ := Store.ok_of_bind hboth
  obtain ⟨description12, hdescription12, hboth⟩ := Store.ok_of_bind hboth
  obtain ⟨title21, htitle21, hsame⟩ := Store.ok_of_bind hsame
  obtain ⟨description21, hdescription21, hsame⟩ := Store.ok_of_bind hsame
  cases hboth
  cases hsame
  -- the numbers tell which changes have been made, and in which order
  obtain rfl := field_comm (fun _ => rfl) hdisjoint.title htitle1 htitle12 htitle2 htitle21
  obtain rfl := field_comm (fun _ => rfl) hdisjoint.description hdescription1 hdescription12
    hdescription2 hdescription21
  have hpriority : two.priority.getD (one.priority.getD old.priority) =
      one.priority.getD (two.priority.getD old.priority) := by
    rcases hdisjoint.priority with hnone | hnone <;> rw [hnone] <;> rfl
  have hassignee : two.assignee.apply (one.assignee.apply old.assignee) =
      one.assignee.apply (two.assignee.apply old.assignee) := by
    rcases hdisjoint.assignee with hkeep | hkeep <;> rw [hkeep] <;> rfl
  simp only [hpriority, hassignee]

/-- **An artifact** is the same in the end, in whichever order it is changed. Two changes of
acceptance criteria are never independent, since both have to give a description. -/
theorem Entity.revise_comm {old first both second same : Entity}
    (hfirst : old.revise now one = .ok first) (hboth : first.revise now two = .ok both)
    (hsecond : old.revise now two = .ok second) (hsame : second.revise now one = .ok same) :
    both = same := by
  cases revised_of_ok hfirst with
  | epic hcard1 hstatus1 =>
    obtain ⟨hcard12, hstatus12⟩ := revised_of_ok hboth
    obtain ⟨hcard2, hstatus2⟩ := revised_of_ok hsecond
    obtain ⟨hcard21, hstatus21⟩ := revised_of_ok hsame
    rw [Card.revise_comm hdisjoint hcard1 hcard12 hcard2 hcard21,
      field_comm (fun _ => rfl) hdisjoint.status hstatus1 hstatus12 hstatus2 hstatus21]
  | story hcard1 hstatus1 =>
    obtain _ | ⟨hcard12, hstatus12⟩ := revised_of_ok hboth
    obtain _ | ⟨hcard2, hstatus2⟩ := revised_of_ok hsecond
    obtain _ | ⟨hcard21, hstatus21⟩ := revised_of_ok hsame
    rw [Card.revise_comm hdisjoint hcard1 hcard12 hcard2 hcard21,
      field_comm (fun _ => rfl) hdisjoint.status hstatus1 hstatus12 hstatus2 hstatus21]
  | criteria hdescription1 =>
    -- both changes give a description
    obtain _ | _ | hdescription2 := revised_of_ok hsecond
    have hgiven1 := (Rules.requiredDescription_kept hdescription1).1
    have hgiven2 := (Rules.requiredDescription_kept hdescription2).1
    rcases hdisjoint.description with hnone | hnone
    · cases hnone.symm.trans hgiven1
    · cases hnone.symm.trans hgiven2
  | requirement hcard1 hstatus1 =>
    obtain _ | _ | _ | ⟨hcard12, hstatus12⟩ := revised_of_ok hboth
    obtain _ | _ | _ | ⟨hcard2, hstatus2⟩ := revised_of_ok hsecond
    obtain _ | _ | _ | ⟨hcard21, hstatus21⟩ := revised_of_ok hsame
    rw [Card.revise_comm hdisjoint hcard1 hcard12 hcard2 hcard21,
      field_comm (fun _ => rfl) hdisjoint.status hstatus1 hstatus12 hstatus2 hstatus21]

end Disjoint

/-- Where no description is given, the text stays. -/
theorem Card.description_of_revise {card new : Card} {now : Timestamp} {changes : Changes}
    (h : card.revise now changes = .ok new) (hnone : changes.description = .none) :
    new.description = card.description := by
  obtain ⟨title, -, h⟩ := Store.ok_of_bind h
  obtain ⟨description, hdescription, h⟩ := Store.ok_of_bind h
  rw [hnone] at hdescription
  cases hdescription
  cases h
  rfl

theorem Entity.text_of_revise {old new : Entity} {now : Timestamp} {changes : Changes}
    (h : old.revise now changes = .ok new) (hnone : changes.description = .none) :
    new.text = old.text := by
  cases revised_of_ok h with
  | epic hcard => exact Card.description_of_revise hcard hnone
  | story hcard => exact Card.description_of_revise hcard hnone
  | criteria hdescription => cases hnone.symm.trans (Rules.requiredDescription_kept hdescription).1
  | requirement hcard => exact Card.description_of_revise hcard hnone

namespace Store

variable {store : Store} {kind later : Kind} {id key : Uuid} {changes others : Changes}

/-- What becomes of the comments depends on the two texts. -/
theorem commentsAfter_congr {old new oldToo newToo : Entity} (hold : old.text = oldToo.text)
    (hnew : new.text = newToo.text) :
    commentsAfter kind id old new = commentsAfter kind id oldToo newToo := by
  funext comments
  simp only [commentsAfter, hold, hnew, Entity.body_eq]

/-- **One artifact** may be changed in any order, if the changes name different fields. Only one of
them can give a text that the comments are brought in line with, so they are reconciled once in
either order. -/
theorem put_put_comm {now : Timestamp} {old first both second same : Entity}
    (hdisjoint : changes.Disjoint others) (hfirst : old.revise now changes = .ok first)
    (hboth : first.revise now others = .ok both) (hsecond : old.revise now others = .ok second)
    (hsame : second.revise now changes = .ok same) :
    (store.put kind id old first).put kind id first both =
      (store.put kind id old second).put kind id second same := by
  obtain rfl := Entity.revise_comm hdisjoint hfirst hboth hsecond hsame
  rw [put_put (Entity.kind_of_revise hboth).symm, put_put (Entity.kind_of_revise hsame).symm]
  rcases hdisjoint.description with hnone | hnone
  · have hfirstText := Entity.text_of_revise hfirst hnone
    have hsameText := Entity.text_of_revise hsame hnone
    rw [commentsAfter_of_text_eq hfirstText.symm, commentsAfter_of_text_eq hsameText.symm,
      commentsAfter_congr hfirstText hsameText]
  · have hbothText := Entity.text_of_revise hboth hnone
    have hsecondText := Entity.text_of_revise hsecond hnone
    rw [commentsAfter_of_text_eq hbothText.symm, commentsAfter_of_text_eq hsecondText.symm,
      commentsAfter_congr hsecondText hbothText]

/-! ## Two changes -/

/-- **Changes that are made at one time** leave one store behind, in whichever order they are made.
With one time for both, the stores are even equal. -/
theorem update_comm (store : Store) (stamp : Stamp)
    (h : ¬ (kind = later ∧ id = key) ∨ changes.Disjoint others) :
    ((store.perform stamp (.updateEntity kind id changes)).store.perform stamp
        (.updateEntity later key others)).store =
      ((store.perform stamp (.updateEntity later key others)).store.perform stamp
        (.updateEntity kind id changes)).store := by
  have hlater : outcome
        ((store.perform stamp (.updateEntity kind id changes)).store.perform stamp
          (.updateEntity later key others)).answer =
      outcome (store.perform stamp (.updateEntity later key others)).answer :=
    outcome_after_update store stamp stamp stamp
  have hearlier : outcome
        ((store.perform stamp (.updateEntity later key others)).store.perform stamp
          (.updateEntity kind id changes)).answer =
      outcome (store.perform stamp (.updateEntity kind id changes)).answer :=
    outcome_after_update store stamp stamp stamp
  cases hone : (store.perform stamp (.updateEntity kind id changes)).answer with
  | error failure =>
    rw [perform_of_error (error_of_outcome hearlier hone), perform_of_error hone]
    rfl
  | ok first =>
    cases htwo : (store.perform stamp (.updateEntity later key others)).answer with
    | error failure =>
      rw [perform_of_error (error_of_outcome hlater htwo), perform_of_error htwo]
      rfl
    | ok second =>
      obtain ⟨both, hboth⟩ := ok_of_outcome hlater htwo
      obtain ⟨same, hsame⟩ := ok_of_outcome hearlier hone
      obtain ⟨old, hfound, hfirst, hkind, hstoreOne⟩ := perform_update_of_ok hone
      obtain ⟨oldNext, hfoundNext, hsecond, hnext, hstoreTwo⟩ := perform_update_of_ok htwo
      obtain ⟨found, hfoundFirst, hreviseBoth, -, hstoreBoth⟩ := perform_update_of_ok hboth
      obtain ⟨foundToo, hfoundSecond, hreviseSame, -, hstoreSame⟩ := perform_update_of_ok hsame
      rw [hstoreBoth, hstoreSame]
      rw [hstoreOne] at hfoundFirst ⊢
      rw [hstoreTwo] at hfoundSecond ⊢
      -- in one place the second change meets what the first has left, in two places it meets what
      -- was there
      by_cases hplace : kind = later ∧ id = key
      · obtain ⟨rfl, rfl⟩ := hplace
        rw [findEntity_put hkind] at hfoundFirst
        rw [findEntity_put hnext] at hfoundSecond
        cases hfound.symm.trans hfoundNext
        cases hfoundFirst
        cases hfoundSecond
        exact put_put_comm (h.resolve_left fun hapart => hapart ⟨rfl, rfl⟩) hfirst hreviseBoth
          hsecond hreviseSame
      · rw [findEntity_put_elsewhere hkind hplace, hfoundNext] at hfoundFirst
        rw [findEntity_put_elsewhere hnext fun h => hplace ⟨h.1.symm, h.2.symm⟩, hfound]
          at hfoundSecond
        cases hfoundFirst
        cases hfoundSecond
        cases hsecond.symm.trans hreviseBoth
        cases hfirst.symm.trans hreviseSame
        exact put_comm hfound hkind hnext hplace

/-- **No change is lost.** Two changes, of different artifacts or of one artifact but with different
fields named, are made in either order, at any times. Each of them succeeds in both orders or fails
in both, for the same reason, and the stores that are left behind differ at most in when artifacts
were modified: every field of every artifact is the same, and so is every comment with its anchor.
-/
theorem independent_changes_commute (store : Store)
    (h : ¬ (kind = later ∧ id = key) ∨ changes.Disjoint others)
    (oneFirst twoSecond twoFirst oneSecond : Stamp) :
    let one := Access.updateEntity kind id changes
    let two := Access.updateEntity later key others
    let forth := (store.perform oneFirst one).store
    let back := (store.perform twoFirst two).store
    outcome (store.perform oneFirst one).answer = outcome (back.perform oneSecond one).answer ∧
      outcome (forth.perform twoSecond two).answer = outcome (store.perform twoFirst two).answer ∧
      (forth.perform twoSecond two).store.SameButTimes (back.perform oneSecond one).store := by
  intro one two forth back
  refine ⟨(outcome_after_update store twoFirst oneSecond oneFirst).symm,
    outcome_after_update store oneFirst twoSecond twoFirst, ?_⟩
  -- each order comes to the same as when both changes are made at one time
  have hforth : (forth.perform twoSecond two).store.SameButTimes
      ((store.perform oneFirst one).store.perform oneFirst two).store :=
    ((SameButTimes.refl store).update oneFirst oneFirst).update twoSecond oneFirst
  have hback : (back.perform oneSecond one).store.SameButTimes
      ((store.perform oneFirst two).store.perform oneFirst one).store :=
    ((SameButTimes.refl store).update twoFirst oneFirst).update oneSecond oneFirst
  rw [update_comm store oneFirst h] at hforth
  exact hforth.trans hback.symm

/-- A change of the text that the comment of `movingRun` points into. -/
def rewording : Changes :=
  { Changes.none with description := some "find old things" }

/-- A change that names the other fields of a card. -/
def reassessment : Changes :=
  { title := some " Find ", description := none, priority := some ⟨1, by decide⟩,
    status := some "in progress", assignee := .unassign }

/-- The comment is moved with its word, and the epic has both the title and the text, in either
order. -/
theorem independent_changes_commute_reworded :
    let store := (initial [] []).run (movingRun.take 2)
    let one := Access.updateEntity .epic (Stamp.nth 1).id rewording
    let two := Access.updateEntity .epic (Stamp.nth 1).id reassessment
    let forth := (store.perform (.nth 3) one).store.perform (.nth 4) two
    let back := (store.perform (.nth 5) two).store.perform (.nth 6) one
    rewording.Disjoint reassessment ∧ outcome forth.answer = .ok () ∧ outcome back.answer = .ok () ∧
      forth.store.comments = [movedComment] ∧ forth.store.SameButTimes back.store := by
  intro store one two forth back
  have hdisjoint : rewording.Disjoint reassessment :=
    ⟨.inl rfl, .inr rfl, .inl rfl, .inl rfl, .inl rfl⟩
  have hforth : outcome forth.answer = .ok () := by decide +kernel
  have hback : outcome back.answer = .ok () := by decide +kernel
  have hmoved : forth.store.comments = [movedComment] := by decide +kernel
  have hindependent : ¬ (Kind.epic = .epic ∧ (Stamp.nth 1).id = (Stamp.nth 1).id) ∨
      rewording.Disjoint reassessment := .inr hdisjoint
  obtain ⟨-, -, hsame⟩ := independent_changes_commute store hindependent (.nth 3) (.nth 4) (.nth 5)
    (.nth 6)
  exact ⟨hdisjoint, hforth, hback, hmoved, hsame⟩

end Store

end Planroom
