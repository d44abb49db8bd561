import Planroom.Proofs.Store.Pages
import Planroom.Proofs.Store.History

/-!
# Links

A link of a steering document to an epic is there or it is not, and what makes it so are the accesses
that put it in and take it away. The links themselves say nothing of when that was; nor do they say in
which order the documents of an epic are to be listed.

* **In order** — the links are kept in a strict order. So a link that is taken away and put in again
  gives the same list, as does one that is put in and taken away again.
* **Turns** — `Store.turns`: what has become of a link in a run, one time after another. The link is
  there if the last of its turns has put it in (`contains_links_run`).
* **Listed** — the documents of an epic are those of all documents that are linked to it, in the order
  in which these were created, in whatever order links and records are gone through.
-/

namespace Planroom

namespace Link

variable {a b c link : Link} {links : List Link}

/-! ## Links in order -/

theorem before_irrefl (a : Link) : a.before a = false :=
  decide_eq_false (List.lt_irrefl _)

theorem before_trans (h : a.before b = true) (h' : b.before c = true) : a.before c = true :=
  decide_eq_true (List.lt_trans (of_decide_eq_true h) (of_decide_eq_true h'))

/-- Of two links that are different, one comes before the other. They are compared by the
identifiers of their documents and then by those of their epics. -/
theorem eq_of_not_before (h : a.before b = false) (h' : b.before a = false) : a = b := by
  have hsame : a.document.digits ++ a.epic.digits = b.document.digits ++ b.epic.digits :=
    List.le_antisymm (List.not_lt.1 (of_decide_eq_false h'))
      (List.not_lt.1 (of_decide_eq_false h))
  have hlength : a.document.digits.length = b.document.digits.length :=
    a.document.length_eq.trans b.document.length_eq.symm
  obtain ⟨hdocument, hepic⟩ := List.append_inj hsame hlength
  obtain ⟨⟨_, _⟩, ⟨_, _⟩⟩ := a
  obtain ⟨⟨_, _⟩, ⟨_, _⟩⟩ := b
  cases hdocument
  cases hepic
  rfl

/-- **Are links in order**, and none of them there twice? The order says nothing of when they were
put in, and so nothing of that is left in a store. -/
def InOrder (links : List Link) : Prop :=
  links.Pairwise fun a b => a.before b = true

/-- A link that is put in has its place among the others, and there is only one place for it. -/
theorem InOrder.insertIn (h : InOrder links) (hnew : link ∉ links) :
    InOrder (link.insertIn links) := by
  induction links with
  | nil => exact List.pairwise_singleton _ _
  | cons first rest ih =>
    obtain ⟨hfirst, hrest⟩ := List.pairwise_cons.1 h
    rw [List.mem_cons, not_or] at hnew
    rw [Link.insertIn]
    cases hbefore : link.before first with
    | true =>
      rw [if_pos rfl]
      refine List.pairwise_cons.2 ⟨fun other hother => ?_, h⟩
      rcases List.mem_cons.1 hother with rfl | hother
      · exact hbefore
      · exact before_trans hbefore (hfirst other hother)
    | false =>
      rw [if_neg Bool.false_ne_true]
      refine List.pairwise_cons.2 ⟨fun other hother => ?_, ih hrest hnew.2⟩
      rcases mem_insertIn.1 hother with rfl | hother
      · cases hafter : first.before other with
        | true => rfl
        | false => exact absurd (eq_of_not_before hbefore hafter) hnew.1
      · exact hfirst other hother

theorem InOrder.erase (h : InOrder links) (link : Link) : InOrder (links.erase link) :=
  List.Pairwise.sublist List.erase_sublist h

/-- No link is there twice. -/
theorem InOrder.nodup (h : InOrder links) : links.Nodup := by
  refine List.Pairwise.imp (fun {a b} hbefore hsame => ?_) h
  rw [hsame, before_irrefl] at hbefore
  cases hbefore

/-- **Put in and taken away again.** It need not be known where the link was put. -/
theorem erase_insertIn (hnew : link ∉ links) : (link.insertIn links).erase link = links := by
  induction links with
  | nil => exact List.erase_cons_head link []
  | cons first rest ih =>
    rw [List.mem_cons, not_or] at hnew
    rw [insertIn]
    split
    · exact List.erase_cons_head link _
    · rw [List.erase_cons_tail (by simpa using Ne.symm hnew.1), ih hnew.2]

/-- A link that comes before all others is put in front of them. -/
theorem insertIn_of_first (h : ∀ other ∈ links, link.before other = true) :
    link.insertIn links = link :: links := by
  cases links with
  | nil => rfl
  | cons first rest => rw [insertIn, if_pos (h first List.mem_cons_self)]

/-- **Taken away and put in again.** Here the order is needed: it brings the link back to where it
was. -/
theorem InOrder.insertIn_erase (h : InOrder links) (hthere : link ∈ links) :
    link.insertIn (links.erase link) = links := by
  induction links with
  | nil => cases hthere
  | cons first rest ih =>
    obtain ⟨hfirst, hrest⟩ := List.pairwise_cons.1 h
    by_cases hsame : first = link
    · subst hsame
      rw [List.erase_cons_head, insertIn_of_first hfirst]
    · have hlater : link ∈ rest := (List.mem_cons.1 hthere).resolve_left (Ne.symm hsame)
      have hbefore : link.before first = false := by
        -- else each of the two would come before the other
        by_contra hbefore
        have hirrefl := before_trans (hfirst link hlater) ((Bool.not_eq_false _).mp hbefore)
        rw [before_irrefl] at hirrefl
        cases hirrefl
      rw [List.erase_cons_tail (by simpa using hsame), Link.insertIn, hbefore,
        if_neg Bool.false_ne_true, ih hrest hlater]

end Link

/-! ## Turns -/

/-- **What becomes of a link** by an access that succeeds: it is there afterwards, it is not, or it
is not touched. Every access touches one link at most. -/
def Access.turns? (link : Link) : Access → Option Bool
  | .linkDocument document epic => if link = ⟨document, epic⟩ then some true else none
  | .unlinkDocument document epic => if link = ⟨document, epic⟩ then some false else none
  | _ => none

namespace Store

/-- What becomes of a link by a step, which may fail. -/
def turn? (store : Store) (link : Link) (step : Step) : Option Bool :=
  if (store.perform step.stamp step.access).answer.isOk then step.access.turns? link else none

/-- **The turns of a link** in a run, in order: whether it was put in or taken away. Attempts that
fail are no turns. -/
def turns (store : Store) (link : Link) : List Step → List Bool
  | [] => []
  | step :: rest => (store.turn? link step).toList ++ (store.after step).turns link rest

variable {store after other : Store} {document epic : Uuid} {stamp : Stamp}

/-! ## One step -/

/-- Nothing but linking and unlinking touches the links. -/
theorem links_effect_of_other {access : Access} {created : Option Artifact}
    (heffect : Effect store stamp access created after)
    (hother : ∀ link, access.turns? link = none) : after.links = store.links := by
  cases heffect with
  | created => exact file_links store _ _
  | updated => exact file_links store _ _
  | documentUpdated => exact file_links store _ _
  | @linked document epic =>
    have hthis := hother ⟨document, epic⟩
    rw [Access.turns?, if_pos rfl] at hthis
    cases hthis
  | @unlinked document epic =>
    have hthis := hother ⟨document, epic⟩
    rw [Access.turns?, if_pos rfl] at hthis
    cases hthis
  | _ => rfl

/-- What linking comes to, test by test. Which error is told depends on their order. -/
theorem link_eq (store : Store) (document epic : Uuid) : store.link document epic =
    if store.documents.contains document = false then
      .error (.missing .steeringDocument document.text)
    else if store.epics.contains epic = false then .error (.missing .epic epic.text)
    else if store.links.contains ⟨document, epic⟩ then .error (.conflict .linkExists)
    else .ok { store with links := Link.insertIn ⟨document, epic⟩ store.links } := by
  rw [link, findDocument, findEntity]
  cases hdocument : store.documents.get? document with
  | none =>
    simp only [Table.contains, Table.find?, hdocument]
    rfl
  | some found =>
    cases hepic : store.epics.get? epic with
    | none =>
      simp only [Table.contains, Table.find?, hdocument, hepic]
      rfl
    | some entity =>
      simp only [Table.contains, Table.find?, hdocument, hepic]
      cases hthere : store.links.contains ⟨document, epic⟩ <;> rfl

theorem link_of_ok (h : store.link document epic = .ok after) :
    ⟨document, epic⟩ ∉ store.links ∧
      after = { store with links := Link.insertIn ⟨document, epic⟩ store.links } := by
  obtain ⟨_, -, h⟩ := ok_of_bind h
  obtain ⟨_, -, h⟩ := ok_of_bind h
  obtain ⟨hnew, h⟩ := ok_of_unless h
  cases h
  rw [List.contains_iff_mem] at hnew
  exact ⟨hnew, rfl⟩

theorem unlink_of_ok (h : store.unlink document epic = .ok after) :
    ⟨document, epic⟩ ∈ store.links ∧
      after = { store with links := store.links.erase ⟨document, epic⟩ } := by
  rw [unlink] at h
  split at h
  · next hthere =>
    cases h
    exact ⟨List.contains_iff_mem.1 hthere, rfl⟩
  · cases h

/-- **What a step does to the links**: it leaves them alone, puts in one that is not there, or takes
away one that is. The turn of every link is told together with what has become of the list. -/
inductive Turned (store : Store) (step : Step) : Prop where
  | untouched (hlinks : (store.after step).links = store.links)
      (hturn : ∀ link, store.turn? link step = none)
  | putIn {new : Link} (hnew : new ∉ store.links)
      (hlinks : (store.after step).links = new.insertIn store.links)
      (hturn : ∀ link, store.turn? link step = if link = new then some true else none)
  | takenAway {old : Link} (hthere : old ∈ store.links)
      (hlinks : (store.after step).links = store.links.erase old)
      (hturn : ∀ link, store.turn? link step = if link = old then some false else none)

/-- A step that fails leaves the links alone. -/
theorem Turned.of_error {step : Step} {failure : Failure}
    (h : (store.perform step.stamp step.access).answer = .error failure) : store.Turned step := by
  refine .untouched ?_ fun link => ?_
  · rw [Store.after, perform_of_error h]
    rfl
  · rw [turn?, h]
    rfl

theorem turned_link (store : Store) (stamp : Stamp) (document epic : Uuid) :
    store.Turned ⟨.linkDocument document epic, stamp⟩ := by
  have hperform : store.perform stamp (.linkDocument document epic) =
      .change store (store.link document epic) := by
    rw [perform, run_link]
  cases hlink : store.link document epic with
  | error failure =>
    rw [hlink] at hperform
    exact .of_error (congrArg Performed.answer hperform)
  | ok after =>
    obtain ⟨hnew, rfl⟩ := link_of_ok hlink
    rw [hlink] at hperform
    refine .putIn hnew (congrArg (·.store.links) hperform) fun link => ?_
    rw [turn?, hperform]
    rfl

theorem turned_unlink (store : Store) (stamp : Stamp) (document epic : Uuid) :
    store.Turned ⟨.unlinkDocument document epic, stamp⟩ := by
  have hperform : store.perform stamp (.unlinkDocument document epic) =
      .change store (store.unlink document epic) := by
    rw [perform, run_unlink]
  cases hunlink : store.unlink document epic with
  | error failure =>
    rw [hunlink] at hperform
    exact .of_error (congrArg Performed.answer hperform)
  | ok after =>
    obtain ⟨hthere, rfl⟩ := unlink_of_ok hunlink
    rw [hunlink] at hperform
    refine .takenAway hthere (congrArg (·.store.links) hperform) fun link => ?_
    rw [turn?, hperform]
    rfl

/-- **Every step** does one of the three, and those that fail do the first. -/
theorem turned (store : Store) (step : Step) : store.Turned step := by
  have hothers (hother : ∀ link, step.access.turns? link = none) : store.Turned step := by
    refine .untouched (links_effect_of_other (perform_effect store step.stamp step.access) hother)
      fun link => ?_
    rw [turn?, hother, ite_self]
  obtain ⟨access, stamp⟩ := step
  cases access with
  | linkDocument document epic => exact turned_link store stamp document epic
  | unlinkDocument document epic => exact turned_unlink store stamp document epic
  | _ => exact hothers fun _ => rfl

/-- Every step keeps the links in order. -/
theorem inOrder_after (h : Link.InOrder store.links) (step : Step) :
    Link.InOrder (store.after step).links := by
  cases store.turned step with
  | untouched hlinks =>
    rw [hlinks]
    exact h
  | putIn hnew hlinks =>
    rw [hlinks]
    exact h.insertIn hnew
  | takenAway hthere hlinks =>
    rw [hlinks]
    exact h.erase _

/-- **A link is there after a step** if the step has put it in, or if it was there and the step has
not taken it away. That no link is there twice is needed where one is taken away. -/
theorem contains_links_after (h : Link.InOrder store.links) (step : Step) (link : Link) :
    (store.after step).links.contains link =
      (store.turn? link step).getD (store.links.contains link) := by
  cases store.turned step with
  | untouched hlinks hturn =>
    rw [hlinks, hturn]
    rfl
  | @putIn new hnew hlinks hturn =>
    rw [hlinks, hturn, Bool.eq_iff_iff, List.contains_iff_mem, Link.mem_insertIn]
    by_cases hsame : link = new
    · simp [hsame]
    · simp [hsame]
  | @takenAway old hthere hlinks hturn =>
    rw [hlinks, hturn, Bool.eq_iff_iff, List.contains_iff_mem, h.nodup.mem_erase_iff]
    by_cases hsame : link = old
    · simp [hsame]
    · simp [hsame]

/-! ## A run -/

/-- **A link is there after a run** if the last of its turns has put it in, or if there was none and
it was there before. All earlier turns are forgotten. -/
theorem contains_links_run (h : Link.InOrder store.links) (link : Link) (steps : List Step) :
    (store.run steps).links.contains link =
      (store.turns link steps).getLast?.getD (store.links.contains link) := by
  induction steps generalizing store with
  | nil => rfl
  | cons step rest ih =>
    rw [run_cons, ih (inOrder_after h step), contains_links_after h, turns, List.getLast?_append,
      Option.getD_or]
    cases store.turn? link step <;> rfl

/-- **In every reachable store** the links are in order. There are none at the beginning. -/
theorem Reachable.inOrder (hstore : Reachable store) : Link.InOrder store.links := by
  induction hstore with
  | initial users prompts => exact List.Pairwise.nil
  | step step _ _ ih => exact inOrder_after ih step

/-! ## What there is -/

/-- There is an artifact under an identifier that is in the register. -/
theorem has_iff_mem_register {kind : Kind} {id : Uuid} :
    store.Has kind id ↔ id ∈ (store.register kind).map (·.1) := by
  rw [map_register_ids]
  constructor
  · rintro ⟨artifact, hfound⟩
    exact List.mem_map_of_mem (Table.mem_of_get? hfound)
  · intro hmem
    cases hfound : (store.shelf kind).get? id with
    | none => exact absurd hmem (Table.not_mem_of_get?_none hfound)
    | some artifact => exact ⟨artifact, hfound⟩

/-- **The identifiers of what a run has created of a kind**, in order. -/
def createdIds (store : Store) (kind : Kind) (steps : List Step) : List Uuid :=
  (store.creationsOf kind steps).map Artifact.id

/-- After a run from the beginning, what the run has created is in the register. -/
theorem map_register_ids_run {users : List User} {prompts : List Prompt} {steps : List Step}
    (hrun : (initial users prompts).FreshRun steps) (kind : Kind) :
    (((initial users prompts).run steps).register kind).map (·.1) =
      (initial users prompts).createdIds kind steps := by
  rw [register_run_initial hrun, newEntries, List.map_map]
  rfl

/-! ## Listed -/

/-- A steering document is found under its own identifier, and under no other. -/
theorem Numbered.get?_document_iff (h : store.Numbered .steeringDocument) {id : Uuid}
    {document : SteeringDocument} :
    store.documents.get? id = some document ↔ document ∈ store.documents.values ∧ document.id = id := by
  have hshelf (id : Uuid) : (store.shelf .steeringDocument).find? (.byId id) =
      (store.documents.get? id).map .document := Table.get?_map _ _ id
  constructor
  · intro hfound
    refine ⟨List.mem_map_of_mem (f := (·.2)) (Table.mem_of_get? hfound), ?_⟩
    have hartifact : (store.shelf .steeringDocument).get? id = some (.document document) := by
      rw [shelf, Table.get?_map, hfound]
      rfl
    exact h.id_eq (Table.mem_of_get? hartifact)
  · rintro ⟨hmem, rfl⟩
    have hartifact : Artifact.document document ∈ (store.shelf .steeringDocument).values := by
      rw [← map_document_values]
      exact List.mem_map_of_mem hmem
    have hfound := (hshelf document.id).symm.trans (h.find?_id hartifact)
    obtain ⟨found, hget, hsame⟩ := Option.map_eq_some_iff.1 hfound
    cases hsame
    exact hget

/-- The steering documents are under the identifiers of the register, in its order. -/
theorem Numbered.map_document_ids (h : store.Numbered .steeringDocument) :
    store.documents.values.map (·.id) = (store.register .steeringDocument).map (·.1) := by
  have hids : (store.shelf .steeringDocument).values.map Artifact.id =
      (store.shelf .steeringDocument).entries.map (·.1) := by
    rw [Table.values, List.map_map]
    exact List.map_congr_left fun entry hentry => h.id_eq hentry
  rw [map_register_ids, ← hids, ← map_document_values, List.map_map]
  rfl

/-- No document is linked twice to an epic. -/
theorem nodup_linkedDocuments (h : store.Numbered .steeringDocument)
    (hinOrder : Link.InOrder store.links) (epic : Uuid) : (store.linkedDocuments epic).Nodup := by
  rw [linkedDocuments, List.nodup_iff_pairwise_ne, List.pairwise_filterMap, List.pairwise_filter]
  refine hinOrder.nodup.imp ?_
  rintro ⟨first, _⟩ ⟨second, _⟩ hne hfirst hsecond document hdocument other hother rfl
  -- two links to the epic that lead to the same document are the same
  have hsame : first = second :=
    (h.get?_document_iff.1 hdocument).2.symm.trans (h.get?_document_iff.1 hother).2
  rw [beq_iff_eq] at hfirst hsecond
  cases hfirst
  cases hsecond
  exact hne (hsame ▸ rfl)

/-- **What is linked to an epic** are those of all documents that are linked to it. The links are
gone through in the one case and the documents in the other, so the order may differ. -/
theorem linkedDocuments_perm (h : store.Numbered .steeringDocument)
    (hinOrder : Link.InOrder store.links) (epic : Uuid) :
    (store.linkedDocuments epic).Perm
      (store.documents.values.filter fun d => store.links.contains ⟨d.id, epic⟩) := by
  have hids : (store.documents.values.map (·.id)).Nodup := by
    rw [h.map_document_ids]
    exact h.distinct
  refine (List.perm_ext_iff_of_nodup (nodup_linkedDocuments h hinOrder epic)
    (hids.of_map.filter _)).2 fun document => ?_
  rw [linkedDocuments, List.mem_filterMap, List.mem_filter, List.contains_iff_mem]
  constructor
  · rintro ⟨link, hlink, hfound⟩
    obtain ⟨hthere, hepic⟩ := List.mem_filter.1 hlink
    rw [beq_iff_eq] at hepic
    obtain ⟨hmem, hid⟩ := h.get?_document_iff.1 hfound
    rw [hid, ← hepic]
    exact ⟨hmem, hthere⟩
  · rintro ⟨hmem, hthere⟩
    exact ⟨_, List.mem_filter.2 ⟨hthere, beq_self_eq_true epic⟩, h.get?_document_iff.2 ⟨hmem, rfl⟩⟩

theorem answer_listEpicDocuments (store : Store) (stamp : Stamp) (epic : Uuid) :
    (store.perform stamp (.listEpicDocuments epic)).answer = store.epicDocuments epic := by
  rw [perform, Performed.read]

/-- **Does a store keep the same in another order**, of all that a listing of documents goes
through? A listing that is not to depend on the order has to come to the same in both. -/
structure Reordered (store other : Store) : Prop where
  documents : other.documents.entries.Perm store.documents.entries
  epics : other.epics.entries.Perm store.epics.entries
  links : other.links.Perm store.links

theorem Reordered.refl (store : Store) : store.Reordered store :=
  ⟨.refl _, .refl _, .refl _⟩

/-- A table finds the same in whatever order it is gone through. -/
theorem get?_reordered {α : Type} {table reordered : Table α} {f : α → Artifact} {kind : Kind}
    (h : store.Numbered kind) (hshelf : store.shelf kind = table.map f)
    (hperm : reordered.entries.Perm table.entries) (id : Uuid) :
    reordered.get? id = table.get? id := by
  have hids := h.nodup_ids
  rw [hshelf, Table.map, List.map_map] at hids
  exact congrArg (Option.map _) (find?_key_perm hids hperm id)

namespace Reordered

variable (h : store.Reordered other) (hnumbered : ∀ kind, store.Numbered kind)

include h hnumbered

theorem linkedDocuments_perm (epic : Uuid) :
    (other.linkedDocuments epic).Perm (store.linkedDocuments epic) := by
  have hget := get?_reordered (f := .document) (hnumbered .steeringDocument) rfl h.documents
  rw [linkedDocuments, linkedDocuments]
  simp only [hget]
  exact (h.links.filter _).filterMap _

/-- **The documents of an epic** are listed in the order in which they were created, in whatever
order links and records are kept. They are sorted by the numbers of their references, and these must
be small enough to be read. -/
theorem epicDocuments_eq (hinOrder : Link.InOrder store.links)
    (hissued : store.issued.get .steeringDocument ≤ Reference.maxNumber) (epic : Uuid) :
    other.epicDocuments epic =
      if store.epics.contains epic = true then
        .ok (store.documents.values.filter fun d => store.links.contains ⟨d.id, epic⟩)
      else .error (.missing .epic epic.text) := by
  have hget := get?_reordered (f := fun e => .entity (.epic e)) (hnumbered .epic) rfl h.epics epic
  have hall := (h.linkedDocuments_perm hnumbered epic).trans
    (Store.linkedDocuments_perm (hnumbered .steeringDocument) hinOrder epic)
  have hnumbers := (hnumbered .steeringDocument).pairwise_numbers hissued
  rw [← map_document_values, List.pairwise_map] at hnumbers
  rw [epicDocuments, Table.mergeSort_of_perm (hnumbers.sublist List.filter_sublist) hall, findEntity]
  cases hepic : store.epics.get? epic with
  | none =>
    simp only [Table.find?, Table.contains, hget, hepic]
    rfl
  | some found =>
    simp only [Table.find?, Table.contains, hget, hepic]
    rfl

end Reordered

/-! ## Undoing -/

/-- A link is put in where nothing is missing. -/
theorem link_of_has (hdocument : store.Has .steeringDocument document) (hepic : store.Has .epic epic)
    (hnew : ⟨document, epic⟩ ∉ store.links) :
    store.link document epic =
      .ok { store with links := Link.insertIn ⟨document, epic⟩ store.links } := by
  rw [has_document_iff] at hdocument
  rw [has_epic_iff] at hepic
  rw [link_eq, if_neg (ne_false_of_eq_true hdocument), if_neg (ne_false_of_eq_true hepic),
    if_neg fun h => hnew (List.contains_iff_mem.1 h)]

/-- **Put in and taken away again**, the link is not there, and all is as before, down to the order
of the links. -/
theorem unlink_link (h : store.link document epic = .ok after) :
    after.unlink document epic = .ok store := by
  obtain ⟨hnew, rfl⟩ := link_of_ok h
  have hthere : (Link.insertIn ⟨document, epic⟩ store.links).contains ⟨document, epic⟩ = true :=
    List.contains_iff_mem.2 (Link.mem_insertIn.2 (.inl rfl))
  rw [unlink, if_pos hthere, Link.erase_insertIn hnew]

/-- **Taken away and put in again**, the link is where it was, and all is as before. Document and
epic have to be there still, which they are in a sound store. -/
theorem link_unlink (hinOrder : Link.InOrder store.links)
    (hdocument : store.Has .steeringDocument document) (hepic : store.Has .epic epic)
    (h : store.unlink document epic = .ok after) : after.link document epic = .ok store := by
  obtain ⟨hthere, hafter⟩ := unlink_of_ok h
  have hgone : ⟨document, epic⟩ ∉ after.links := by
    rw [hafter, hinOrder.nodup.mem_erase_iff]
    exact fun hmem => hmem.1 rfl
  have hshelf : after.shelf = store.shelf := by
    rw [hafter]
    exact shelf_with_links store _
  rw [Has, ← hshelf] at hdocument hepic
  rw [link_of_has hdocument hepic hgone, hafter, hinOrder.insertIn_erase hthere]

/-! ## Links as they were turned -/

/-- **Is a store linked like this?** Of `documents` and `epics`, which are the identifiers of those
that were created, `linked` says which are linked. The answers of all accesses to links follow from
these three. -/
structure LinkedAs (store : Store) (documents epics : List Uuid) (linked : Link → Bool) : Prop where
  linking : ∀ stamp document epic,
    (store.perform stamp (.linkDocument document epic)).answer =
      if document ∉ documents then .error (.missing .steeringDocument document.text)
      else if epic ∉ epics then .error (.missing .epic epic.text)
      else if linked ⟨document, epic⟩ then .error (.conflict .linkExists)
      else .ok ()
  unlinking : ∀ stamp document epic,
    (store.perform stamp (.unlinkDocument document epic)).answer =
      if linked ⟨document, epic⟩ then .ok ()
      else .error (.notFound .documentLink (document.text ++ " -> " ++ epic.text))
  /-- What is linked is there. -/
  there : ∀ document epic, linked ⟨document, epic⟩ = true → document ∈ documents ∧ epic ∈ epics
  distinct : documents.Nodup
  /-- The documents of an epic are listed in the order of the creations, as they are now. -/
  listing : ∀ other, store.Reordered other → ∀ stamp, ∀ epic ∈ epics, ∃ listed,
    (other.perform stamp (.listEpicDocuments epic)).answer = .ok listed ∧
      listed.map (·.id) = documents.filter (fun d => linked ⟨d, epic⟩) ∧
      ∀ document ∈ listed, store.findDocument (.byId document.id) = .ok document
  listingNone : ∀ other, store.Reordered other → ∀ stamp, ∀ epic ∉ epics,
    (other.perform stamp (.listEpicDocuments epic)).answer = .error (.missing .epic epic.text)

/-- **Is linking undone by unlinking**, and unlinking by linking? It is the whole store that is
compared. -/
structure Undone (store : Store) : Prop where
  unlinked : ∀ first second document epic,
    (store.perform first (.linkDocument document epic)).answer = .ok () →
      let between := (store.perform first (.linkDocument document epic)).store
      (between.perform second (.unlinkDocument document epic)).answer = .ok () ∧
        (between.perform second (.unlinkDocument document epic)).store = store
  linked : ∀ first second document epic,
    (store.perform first (.unlinkDocument document epic)).answer = .ok () →
      let between := (store.perform first (.unlinkDocument document epic)).store
      (between.perform second (.linkDocument document epic)).answer = .ok () ∧
        (between.perform second (.linkDocument document epic)).store = store

theorem Sound.undone (h : store.Sound) (hinOrder : Link.InOrder store.links) : store.Undone where
  unlinked first second document epic hok := by
    simp only [perform, run_link, run_unlink] at hok ⊢
    rw [unlink_link (change_of_ok hok)]
    exact ⟨rfl, rfl⟩
  linked first second document epic hok := by
    simp only [perform, run_link, run_unlink] at hok ⊢
    have hunlink := change_of_ok hok
    obtain ⟨hdocument, hepic⟩ := h.linked _ (unlink_of_ok hunlink).1
    rw [link_unlink hinOrder hdocument hepic hunlink]
    exact ⟨rfl, rfl⟩

/-- **A store is linked as its links say**, which is what is left to be said of any store once it is
known to be sound, numbered and in order. -/
theorem Sound.linkedAs (h : store.Sound) (hnumbered : ∀ kind, store.Numbered kind)
    (hinOrder : Link.InOrder store.links)
    (hissued : store.issued.get .steeringDocument ≤ Reference.maxNumber) :
    store.LinkedAs ((store.register .steeringDocument).map (·.1)) ((store.register .epic).map (·.1))
      store.links.contains where
  linking stamp document epic := by
    have hdocument : document ∉ (store.register .steeringDocument).map (·.1) ↔
        store.documents.contains document = false := by
      rw [← has_iff_mem_register, has_document_iff, Bool.not_eq_true]
    have hepic : epic ∉ (store.register .epic).map (·.1) ↔ store.epics.contains epic = false := by
      rw [← has_iff_mem_register, has_epic_iff, Bool.not_eq_true]
    simp only [hdocument, hepic]
    rw [perform, run_link, link_eq]
    split
    · rfl
    split
    · rfl
    split <;> rfl
  unlinking stamp document epic := by
    simp only [perform, run_unlink, unlink]
    cases store.links.contains ⟨document, epic⟩ <;> rfl
  there document epic hlinked := by
    obtain ⟨hdocument, hepic⟩ := h.linked _ (List.contains_iff_mem.1 hlinked)
    exact ⟨has_iff_mem_register.1 hdocument, has_iff_mem_register.1 hepic⟩
  distinct := (hnumbered .steeringDocument).distinct
  listing other hother stamp epic hepic := by
    rw [← has_iff_mem_register, has_epic_iff] at hepic
    have hanswer := answer_listEpicDocuments other stamp epic
    rw [hother.epicDocuments_eq hnumbered hinOrder hissued, if_pos hepic] at hanswer
    refine ⟨_, hanswer, ?_, fun document hdocument => ?_⟩
    · rw [← (hnumbered .steeringDocument).map_document_ids, List.filter_map]
      rfl
    · have hget := (hnumbered .steeringDocument).get?_document_iff.2 ⟨(List.mem_filter.1 hdocument).1, rfl⟩
      rw [findDocument, Table.find?, hget]
  listingNone other hother stamp epic hepic := by
    rw [← has_iff_mem_register, has_epic_iff] at hepic
    rw [answer_listEpicDocuments, hother.epicDocuments_eq hnumbered hinOrder hissued, if_neg hepic]

/-- **Links are what they were turned into last.** After any run from the beginning, a document is
linked to an epic with success exactly when both were created and the last link or unlink of the two
that succeeded, if there was one, was no link; it is unlinked with success exactly when the last one
was a link. The documents of an epic are those that are linked to it, each of them once, in the order
in which they were created and as they are now, in whatever order links and records are kept. What a
link or an unlink has done, the other one undoes, and the store is exactly what it was. There are not
more documents than their counter counts. -/
theorem links_are_as_turned (users : List User) (prompts : List Prompt) {steps : List Step}
    (hrun : (initial users prompts).FreshRun steps)
    (hbound : ((initial users prompts).creationsOf .steeringDocument steps).length ≤
      Reference.maxNumber) :
    let start := initial users prompts
    (start.run steps).LinkedAs (start.createdIds .steeringDocument steps)
        (start.createdIds .epic steps)
        (fun link => (start.turns link steps).getLast? == some true) ∧
      (start.run steps).Undone := by
  intro start
  have hstore : Reachable (start.run steps) := (Reachable.initial users prompts).run hrun
  have hsound : (start.run steps).Sound := hstore.invariant sound_initial Sound.effect
  have hinOrder := hstore.inOrder
  refine ⟨?_, hsound.undone hinOrder⟩
  have hlinked : (fun link => (start.turns link steps).getLast? == some true) =
      (start.run steps).links.contains := by
    funext link
    have hstart : Link.InOrder start.links := List.Pairwise.nil
    rw [contains_links_run hstart]
    rcases (start.turns link steps).getLast? with _ | (_ | _) <;> rfl
  have hissued : (start.run steps).issued.get .steeringDocument ≤ Reference.maxNumber := by
    rw [issued_run_initial]
    exact hbound
  rw [hlinked, ← map_register_ids_run hrun, ← map_register_ids_run hrun]
  exact hsound.linkedAs hstore.numbered hinOrder hissued

/-- Two documents are linked to an epic, the later one first; then the earlier one is taken from it and
linked again, once with success. -/
def relinkingRun : List Step :=
  [⟨.createEpic ⟨"Search", none, .high, (Stamp.nth 0).id, none⟩, .nth 1⟩,
    ⟨.createDocument "Wording" none (Stamp.nth 0).id, .nth 2⟩,
    ⟨.createDocument "Layout" none (Stamp.nth 0).id, .nth 3⟩,
    ⟨.linkDocument (Stamp.nth 3).id (Stamp.nth 1).id, .nth 4⟩,
    ⟨.linkDocument (Stamp.nth 2).id (Stamp.nth 1).id, .nth 5⟩,
    ⟨.unlinkDocument (Stamp.nth 2).id (Stamp.nth 1).id, .nth 6⟩,
    ⟨.linkDocument (Stamp.nth 2).id (Stamp.nth 1).id, .nth 7⟩,
    ⟨.linkDocument (Stamp.nth 2).id (Stamp.nth 1).id, .nth 8⟩]

/-- The earlier document is listed first, and the link that is there cannot be put in. -/
theorem links_are_as_turned_relinked :
    let start := initial [] []
    let store := start.run relinkingRun
    let document := (Stamp.nth 2).id
    let later := (Stamp.nth 3).id
    let epic := (Stamp.nth 1).id
    start.turns ⟨document, epic⟩ relinkingRun = [true, false, true] ∧
      start.createdIds .steeringDocument relinkingRun = [document, later] ∧
      (∃ listed, (store.perform (.nth 9) (.listEpicDocuments epic)).answer = .ok listed ∧
        listed.map (·.id) = [document, later]) ∧
      (store.perform (.nth 9) (.linkDocument document epic)).answer =
        .error (.conflict .linkExists) ∧
      store.Undone := by
  intro start store document later epic
  have hfresh : start.FreshRun relinkingRun := by decide +kernel
  have hdocuments : start.createdIds .steeringDocument relinkingRun = [document, later] := by
    decide +kernel
  have hepics : start.createdIds .epic relinkingRun = [epic] := by decide +kernel
  have hbound : (start.creationsOf .steeringDocument relinkingRun).length ≤ Reference.maxNumber := by
    decide +kernel
  obtain ⟨hlinked, hundone⟩ := links_are_as_turned [] [] hfresh hbound
  rw [hdocuments, hepics] at hlinked
  have hturns : start.turns ⟨document, epic⟩ relinkingRun = [true, false, true] := by decide +kernel
  obtain ⟨listed, hlisted, hids, -⟩ :=
    hlinked.listing _ (.refl _) (.nth 9) epic List.mem_cons_self
  refine ⟨hturns, hdocuments, ⟨listed, hlisted, ?_⟩, ?_, hundone⟩
  · rw [hids]
    decide +kernel
  · rw [hlinked.linking, hturns]
    decide +kernel

end Store

end Planroom
