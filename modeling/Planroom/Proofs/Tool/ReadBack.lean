import Planroom.Proofs.Artifact.Vocabulary
import Planroom.Proofs.Store.Encoding
import Planroom.Proofs.Store.Named
import Planroom.Proofs.Store.ReadBack
import Planroom.Proofs.Tool.Conduct
import Planroom.Proofs.Work.Leaving

/-!
# Reading back what a tool wrote

A tool that creates or changes an artifact tells what it has written. What it tells is what is found
afterwards, and it is what the arguments ask for, field by field. The actions of the tools are written
one by one and have long lists of fields in them, so that a field could be dropped, or one be taken for
another, and nothing else would notice.

* **Arguments** — what they ask for is said on the members that the client has written, without the
  functions that read them. `Resolves`, `Keeps` and `IfGiven`: what an argument comes to in a store;
  `Drafts` and `AsksFor`: what several of them come to together.
* **Written** — `Written`: what each of the tools writes for its arguments.
* **Tools** — `call_writes`: so it is with every tool that writes an artifact.
* **Read back** — `Server.written_is_read_back`: what is told in the reply of a call is got afterwards.
-/

namespace Planroom

namespace Tool

open Job

variable {α : Type} {stamp : Nat → Stamp} {store : Store} {context : Context} {arguments : Arguments}
  {key : String} {kind : Kind}

/-! ## Arguments -/

/-- **Does an argument name this artifact** of the kind? It is on the shelf of its kind, and the
text of the argument is its reference or its identifier. No look-up is spoken of here. -/
def Resolves (store : Store) (arguments : Arguments) (key : String) (kind : Kind)
    (artifact : Artifact) : Prop :=
  artifact ∈ (store.shelf kind).values ∧
    ∃ text, Has arguments key (.string text) ∧ artifact.NamedBy text

/-- **What a text that may be left out comes to**, which may as well be blank. Null is as good as nothing,
but a blank text is not: where a change is asked for, it takes away what was there before. -/
inductive IfGiven (arguments : Arguments) (key : String) (absent blank : α)
    (filled : String → α → Prop) : α → Prop where
  | absent (h : LeftOut arguments key) : IfGiven arguments key absent blank filled absent
  | blank {text : String} (h : Has arguments key (.string text))
      (hblank : Text.isBlankText text = true) : IfGiven arguments key absent blank filled blank
  | filled {text : String} {value : α} (h : Has arguments key (.string text))
      (hfilled : Text.isBlankText text = false) (hvalue : filled text value) :
      IfGiven arguments key absent blank filled value

/-- **What becomes of a user** whom a text names. Where several users have one name, it is the one whom
the store finds. -/
def Keeps (store : Store) (keep : Uuid → α) (text : String) (value : α) : Prop :=
  ∃ user ∈ store.users.values, user.FoundBy text ∧ store.findUser text = .ok user ∧
    value = keep user.id

/-- Of the user who is found, this is kept. -/
theorem Keeps.eq_of_findUser {keep : Uuid → α} {text : String} {value : α}
    (h : Keeps store keep text value) {user : User} (huser : store.findUser text = .ok user) :
    value = keep user.id := by
  obtain ⟨found, -, -, hfound, rfl⟩ := h
  rw [huser] at hfound
  cases hfound
  rfl

/-- **Is this the draft of a card** that the arguments ask for, for this creator? Title and priority
must be there, description and assignee need not. The rules that a text has to pass come later, when
the card is made. -/
structure Drafts (store : Store) (arguments : Arguments) (creator : Uuid) (draft : CardDraft) :
    Prop where
  title : Has arguments "title" (.string draft.title)
  description : GivesText arguments "description" draft.description
  priority : GivesInteger arguments "priority" (some (draft.priority.value : Int))
  creator : draft.creator = creator
  assignee : IfGiven arguments "assignee_id" none none (Keeps store some) draft.assignee

/-- **Are these the changes** that the arguments ask for? What is left out is not changed. -/
structure AsksFor (store : Store) (arguments : Arguments) (changes : Changes) : Prop where
  title : GivesText arguments "title" changes.title
  description : GivesText arguments "description" changes.description
  priority : GivesInteger arguments "priority"
    (changes.priority.map fun priority => (priority.value : Int))
  status : GivesText arguments "status" changes.status
  assignee : IfGiven arguments "assignee_id" .keep .unassign (Keeps store .assign) changes.assignee

/-- Where the text is there and is not blank, it is what counts. -/
theorem IfGiven.of_has {absent blank value : α} {filled : String → α → Prop}
    (h : IfGiven arguments key absent blank filled value) {text : String}
    (hhas : Has arguments key (.string text)) (hfilled : Text.isBlankText text = false) :
    filled text value := by
  cases h with
  | absent hleft => exact absurd hleft (hhas.not_leftOut nofun)
  | blank hother hblank =>
    cases hhas.unique hother
    rw [hfilled] at hblank
    cases hblank
  | filled hother _ hvalue =>
    cases hhas.unique hother
    exact hvalue

/-! ### Reading them -/

/-- What an argument is read as is found. -/
theorem argument_finds (value : Except Argument.Fault α) :
    (argument value).Finds stamp store fun given => value = .ok given := by
  cases value with
  | ok given => exact finds_done rfl
  | error fault => exact leaves_fail _

/-- So is what a check lets pass. -/
theorem check_finds (value : Except Failure α) :
    (check value).Finds stamp store fun given => value = .ok given := by
  cases value with
  | ok given => exact finds_done rfl
  | error failure => exact leaves_fail _

/-- A text that must be given. -/
theorem text_finds (key : String) :
    (argument (Argument.text arguments key)).Finds stamp store fun text =>
      Has arguments key (.string text) :=
  (argument_finds _).imp fun _ htext => (has_of_text htext).1

/-- A text that may be left out. -/
theorem optionalText_finds (key : String) :
    (argument (Argument.optionalText arguments key)).Finds stamp store
      (GivesText arguments key) :=
  (argument_finds _).imp fun _ => givesText_of_ok

/-- What a read answers is found, in the store in which it is asked for. -/
theorem ask_finds (access : Access) (hread : access.isWrite = false) :
    (ask access).Finds stamp store fun result =>
      ∃ n, (store.perform (stamp n) access).answer = .ok result :=
  finds_ask hread CallError.failed

/-- A look-up is read from the text of its argument. -/
theorem lookup_finds : (lookup arguments key).Finds stamp store fun lookup =>
    ∃ text, Has arguments key (.string text) ∧ Lookup.parse? text = some lookup := by
  refine (text_finds key).bind fun text htext => ?_
  cases hparse : Lookup.parse? text with
  | none => exact leaves_fail _
  | some lookup => exact finds_done ⟨text, htext, hparse⟩

/-- **A text that may be left out**, or may be blank. -/
theorem ifGiven_finds {absent blank : α} {filled : String → Job CallError α}
    {gives : String → α → Prop} (h : ∀ text, (filled text).Finds stamp store (gives text)) :
    ((argument (Argument.optionalText arguments key)).bind fun text? =>
      match text? with
      | none => done absent
      | some text => if Text.isBlankText text then done blank else filled text).Finds stamp store
      (IfGiven arguments key absent blank gives) := by
  refine (optionalText_finds key).bind fun text? htext => ?_
  cases htext with
  | leftOut hleft => exact finds_done (.absent hleft)
  | @text text hhas =>
    dsimp only
    split
    · next hblank => exact finds_done (.blank hhas hblank)
    · next hfilled =>
      rw [Bool.not_eq_true] at hfilled
      exact (h text).imp fun value hvalue => .filled hhas hfilled hvalue

/-- The value of a priority is the integer that it is made from, which is one of four. -/
theorem priority_value {n : Int} {priority : Priority} (h : Priority.ofInt n = .ok priority) :
    (priority.value : Int) = n := by
  rw [Priority.ofInt] at h
  split at h
  · next hrange =>
    cases h
    exact Int.toNat_of_nonneg (by omega)
  · cases h

/-- A priority has the integer that the argument gives. -/
theorem priority_finds : (priority arguments).Finds stamp store fun priority =>
    GivesInteger arguments "priority" (some (priority.value : Int)) := by
  refine (argument_finds _).bind fun n hn => (check_finds _).imp fun priority hpriority => ?_
  rw [priority_value hpriority]
  exact givesInteger_of_integer hn

/-- If a priority may be left out, it has the integer that is given, if there is one. -/
theorem priority?_finds : (priority? arguments).Finds stamp store fun priority =>
    GivesInteger arguments "priority" (priority.map fun priority => (priority.value : Int)) := by
  refine (argument_finds _).bind fun n? hn => ?_
  cases n? with
  | none => exact finds_done (givesInteger_of_ok hn)
  | some n =>
    refine (check_finds _).bind fun priority hpriority => finds_done ?_
    rw [Option.map_some, priority_value hpriority]
    exact givesInteger_of_ok hn

section

variable (hstore : store.Reachable)

include hstore

/-- What is kept of a user is kept of one whom the text names. -/
theorem user_finds (keep : Uuid → α) (text : String) :
    ((ask (.findUser text)).bind fun user => done (keep user.id)).Finds stamp store
      (Keeps store keep text) := by
  refine (ask_finds (.findUser text) rfl).bind ?_
  rintro user ⟨n, hanswer⟩
  rw [Store.answer_findUser] at hanswer
  obtain ⟨hmem, hfound⟩ := hstore.named_of_findUser hanswer
  exact finds_done ⟨user, hmem, hfound, hanswer, rfl⟩

/-- An argument for a user gives nobody, where it is left out or blank, and else the user whom it
names. -/
theorem userId?_finds :
    (userId? arguments key).Finds stamp store
      (IfGiven arguments key none none (Keeps store some)) :=
  ifGiven_finds (user_finds hstore some)

/-- An argument for an assignee leaves things alone if it is left out; a blank one takes the
assignee away. -/
theorem assigneeChange_finds :
    (assigneeChange arguments).Finds stamp store
      (IfGiven arguments "assignee_id" .keep .unassign (Keeps store .assign)) :=
  ifGiven_finds (user_finds hstore AssigneeChange.assign)

/-- The draft that is read is the one that the arguments ask for, with each field under its own
name. -/
theorem cardDraft_finds (creator : Uuid) :
    (cardDraft arguments creator).Finds stamp store (Drafts store arguments creator) := by
  refine (text_finds _).bind fun title htitle => ?_
  refine (optionalText_finds _).bind fun description hdescription => ?_
  refine priority_finds.bind fun priority hpriority => ?_
  refine (userId?_finds hstore).bind fun assignee hassignee => finds_done ?_
  exact ⟨htitle, hdescription, hpriority, rfl, hassignee⟩

/-- **The artifact that an argument names**, of which the identifier is kept. The store is
reachable, and so a look-up finds what the text names. -/
theorem entityId_finds : (entityId arguments key kind).Finds stamp store fun id =>
    ∃ artifact, Resolves store arguments key kind artifact ∧ artifact.id = id := by
  refine lookup_finds.bind ?_
  rintro lookup ⟨text, htext, hparse⟩
  refine (ask_finds (.getEntity kind lookup) rfl).bind ?_
  rintro entity ⟨n, hanswer⟩
  have hfetch : store.fetch kind lookup = .ok (.entity entity) :=
    Store.fetch_eq_ok_iff.2 (Store.findEntity_eq_ok_iff.1 hanswer)
  obtain ⟨hmem, hnamed⟩ := hstore.named_of_fetch hparse hfetch
  exact finds_done ⟨.entity entity, ⟨hmem, text, htext, hnamed⟩, entity.identity_id⟩

/-- The steering document that its argument names, likewise. -/
theorem documentId_finds : (documentId arguments).Finds stamp store fun id =>
    ∃ artifact, Resolves store arguments documentKey .steeringDocument artifact ∧
      artifact.id = id := by
  refine lookup_finds.bind ?_
  rintro lookup ⟨text, htext, hparse⟩
  refine (ask_finds (.getDocument lookup) rfl).bind ?_
  rintro document ⟨n, hanswer⟩
  have hfetch : store.fetch .steeringDocument lookup = .ok (.document document) :=
    Store.fetch_eq_ok_iff.2 (Store.findDocument_eq_ok_iff.1 hanswer)
  obtain ⟨hmem, hnamed⟩ := hstore.named_of_fetch hparse hfetch
  exact finds_done ⟨.document document, ⟨hmem, text, htext, hnamed⟩, rfl⟩

end

/-- **The criteria that an argument names**, if it names some. -/
def NamesCriteria (store : Store) (arguments : Arguments) : Option Uuid → Prop :=
  IfGiven arguments "acceptance_criteria_id" none none fun _ criteria =>
    ∃ artifact, Resolves store arguments "acceptance_criteria_id" .acceptanceCriteria artifact ∧
      criteria = some artifact.id

/-- The criteria are those that the argument names. -/
theorem criteriaId?_finds (hstore : store.Reachable) :
    (Action.criteriaId? arguments).Finds stamp store (NamesCriteria store arguments) := by
  refine ifGiven_finds fun text => (entityId_finds hstore).bind ?_
  rintro id ⟨artifact, hresolves, rfl⟩
  exact finds_done ⟨artifact, hresolves, rfl⟩

/-! ## Written -/

/-- **What a tool writes** for its arguments and for its caller. Something new is made of what the
arguments give; and what is changed is the artifact that an argument names, with the fields altered
for which there are others. A tool that writes no artifact has no case here. -/
inductive Written (store : Store) (caller : User) (arguments : Arguments) : Tool → Artifact → Prop where
  | epic {draft : CardDraft} {epic : Epic} (hdraft : Drafts store arguments caller.id draft)
      (hmade : (Access.createEpic draft).FulfilledBy epic) :
      Written store caller arguments .createEpic (.entity (.epic epic))
  | story {parent : Artifact} {draft : CardDraft} {story : UserStory}
      (hparent : Resolves store arguments "epic_id" .epic parent)
      (hdraft : Drafts store arguments caller.id draft)
      (hmade : (Access.createStory parent.id draft).FulfilledBy story) :
      Written store caller arguments .createUserStory (.entity (.story story))
  | criteria {parent : Artifact} {description : String} {criteria : Criteria}
      (hparent : Resolves store arguments "user_story_id" .userStory parent)
      (hdescription : Has arguments "description" (.string description))
      (hmade : (Access.createCriteria parent.id description caller.id).FulfilledBy criteria) :
      Written store caller arguments .createAcceptanceCriteria (.entity (.criteria criteria))
  | requirement {parent : Artifact} {draft : RequirementDraft} {type : String}
      {requirement : Requirement}
      (hparent : Resolves store arguments "user_story_id" .userStory parent)
      (hstory : draft.story = parent.id)
      (hcriteria : NamesCriteria store arguments draft.criteria)
      (hdraft : Drafts store arguments caller.id draft.card)
      (htype : Has arguments "type" (.string type))
      (hnamed : draft.type.NamedBy type)
      (hmade : (Access.createRequirement draft).FulfilledBy requirement) :
      Written store caller arguments .createRequirement (.entity (.requirement requirement))
  | document {title : String} {description : Option String} {document : SteeringDocument}
      (htitle : Has arguments "title" (.string title))
      (hdescription : GivesText arguments "description" description)
      (hmade : (Access.createDocument title description caller.id).FulfilledBy document) :
      Written store caller arguments .createSteeringDocument (.document document)
  | changed {tool : Tool} {kind : Kind} {key : String} {old new : Entity} {changes : Changes}
      {now : Timestamp} (hsubject : tool.subject? = some (kind, key))
      (hold : Resolves store arguments key kind (.entity old))
      (hidentity : new.identity = old.identity)
      (hchanges : AsksFor store arguments changes) (haltered : old.Altered changes now new) :
      Written store caller arguments tool (.entity new)
  | documentChanged {old new : SteeringDocument} {title description : Option String}
      (hold : Resolves store arguments documentKey .steeringDocument (.document old))
      (hidentity : new.identity = old.identity)
      (htitle : GivesText arguments "title" title)
      (hdescription : GivesText arguments "description" description)
      (hnewTitle : Altered KeptTitle old.title title new.title)
      (hnewDescription : Altered KeptDescription old.description description new.description) :
      Written store caller arguments .updateSteeringDocument (.document new)

/-- **What comes of a tool that writes**: it tells the artifact with which its last access has been
answered. The store that it leaves is the one after this access. -/
inductive Writes (tool : Tool) (context : Context) (arguments : Arguments) (stamp : Nat → Stamp)
    (store : Store) : Result → Store → Prop where
  | mk {caller : User} {access : Access} {record : access.Result} {n : Nat} {artifact : Artifact}
      {summary : String} (hcaller : context.requireEditor = .ok caller)
      (hanswer : (store.perform (stamp n) access).answer = .ok record)
      (htold : access.written? record = some artifact)
      (hwritten : Written store caller arguments tool artifact) :
      Writes tool context arguments stamp store ⟨summary, artifact.toJson⟩
        (store.after ⟨access, stamp n⟩)

/-- **The last access** of a tool that writes, whose answer is told. It is given what is known of
the arguments by then. -/
theorem last_writes {tool : Tool} {caller : User} (hcaller : context.requireEditor = .ok caller)
    (access : Access) (artifact : access.Result → Artifact) (summary : access.Result → String)
    (htold : ∀ record, access.written? record = some (artifact record))
    (hwritten : ∀ n record, (store.perform (stamp n) access).answer = .ok record →
      Written store caller arguments tool (artifact record)) :
    ((ask access).bind fun record => done ⟨summary record, (artifact record).toJson⟩).Leaves stamp
      store (Writes tool context arguments stamp store) := by
  refine (leaves_ask access CallError.failed).bind ?_
  rintro record _ ⟨n, hanswer, rfl⟩
  exact leaves_done (.mk hcaller hanswer (htold record) (hwritten n record hanswer))

/-! ## Tools -/

/-- A steering document is made of two texts, and for the caller. -/
theorem createSteeringDocument_writes :
    (Action.createSteeringDocument context arguments).Leaves stamp store
      (Writes .createSteeringDocument context arguments stamp store) := by
  refine (check_finds _).bind fun caller hcaller => ?_
  refine (text_finds _).bind fun title htitle => ?_
  refine (optionalText_finds _).bind fun description hdescription => ?_
  exact last_writes hcaller (.createDocument title description caller.id) .document _
    (fun _ => rfl) fun n document hanswer =>
      .document htitle hdescription (Store.fulfilledBy_of_ok hanswer)

section

variable (hstore : store.Reachable)

include hstore

/-- An epic is made of the draft that its arguments ask for. -/
theorem createEpic_writes :
    (Action.createEpic context arguments).Leaves stamp store
      (Writes .createEpic context arguments stamp store) := by
  refine (check_finds _).bind fun caller hcaller => ?_
  refine (cardDraft_finds hstore caller.id).bind fun draft hdraft => ?_
  exact last_writes hcaller (.createEpic draft) (fun epic => .entity (.epic epic)) _ (fun _ => rfl)
    fun n epic hanswer => .epic hdraft (Store.fulfilledBy_of_ok hanswer)

/-- A user story is made of such a draft too, and belongs to the epic that is named. -/
theorem createUserStory_writes :
    (Action.createUserStory context arguments).Leaves stamp store
      (Writes .createUserStory context arguments stamp store) := by
  refine (check_finds _).bind fun caller hcaller => (entityId_finds hstore).bind ?_
  rintro _ ⟨parent, hparent, rfl⟩
  refine (cardDraft_finds hstore caller.id).bind fun draft hdraft => ?_
  exact last_writes hcaller (.createStory parent.id draft) (fun story => .entity (.story story)) _
    (fun _ => rfl) fun n story hanswer => .story hparent hdraft (Store.fulfilledBy_of_ok hanswer)

/-- Acceptance criteria have the text that is given, and belong to the user story that is named. -/
theorem createAcceptanceCriteria_writes :
    (Action.createAcceptanceCriteria context arguments).Leaves stamp store
      (Writes .createAcceptanceCriteria context arguments stamp store) := by
  refine (check_finds _).bind fun caller hcaller => (entityId_finds hstore).bind ?_
  rintro _ ⟨parent, hparent, rfl⟩
  refine (text_finds _).bind fun description hdescription => ?_
  exact last_writes hcaller (.createCriteria parent.id description caller.id)
    (fun criteria => .entity (.criteria criteria)) _ (fun _ => rfl) fun n criteria hanswer =>
      .criteria hparent hdescription (Store.fulfilledBy_of_ok hanswer)

/-- A requirement has most to read: its type and its criteria beside a draft. -/
theorem createRequirement_writes :
    (Action.createRequirement context arguments).Leaves stamp store
      (Writes .createRequirement context arguments stamp store) := by
  refine (check_finds _).bind fun caller hcaller => ?_
  refine (criteriaId?_finds hstore).bind fun criteria hcriteria => (entityId_finds hstore).bind ?_
  rintro _ ⟨parent, hparent, rfl⟩
  refine (text_finds _).bind fun title htitle => ?_
  refine (optionalText_finds _).bind fun description hdescription => ?_
  refine priority_finds.bind fun priority hpriority => ?_
  refine (text_finds _).bind fun name hname => (check_finds _).bind fun type htype => ?_
  refine (userId?_finds hstore).bind fun assignee hassignee => ?_
  have hdraft : Drafts store arguments caller.id ⟨title, description, priority, caller.id, assignee⟩ :=
    ⟨htitle, hdescription, hpriority, rfl, hassignee⟩
  exact last_writes hcaller (.createRequirement ⟨_, parent.id, criteria, type⟩)
    (fun requirement => .entity (.requirement requirement)) _ (fun _ => rfl)
    fun n requirement hanswer => .requirement hparent rfl hcriteria hdraft hname
      (RequirementType.parse_eq_ok_iff.1 htype) (Store.fulfilledBy_of_ok hanswer)

/-- What an argument names is found under its own identifier. -/
theorem Resolves.fetch_id {artifact : Artifact} (h : Resolves store arguments key kind artifact) :
    store.fetch kind (.byId artifact.id) = .ok artifact :=
  Store.fetch_eq_ok_iff.2 ((hstore.numbered kind).find?_id h.1)

/-- A change of the hierarchy is asked for by arguments that may all be left out, but for the name.
-/
theorem updateEntity_writes {tool : Tool} (hsubject : tool.subject? = some (kind, key)) :
    (Action.updateEntity context arguments kind key).Leaves stamp store
      (Writes tool context arguments stamp store) := by
  refine (check_finds _).bind fun caller hcaller => (entityId_finds hstore).bind ?_
  rintro _ ⟨artifact, hresolves, rfl⟩
  refine (optionalText_finds _).bind fun title htitle => ?_
  refine (optionalText_finds _).bind fun description hdescription => ?_
  refine priority?_finds.bind fun priority hpriority => ?_
  refine (optionalText_finds _).bind fun status hstatus => ?_
  refine (assigneeChange_finds hstore).bind fun assignee hassignee => ?_
  refine last_writes hcaller (.updateEntity kind artifact.id _) .entity _ (fun _ => rfl) ?_
  intro n entity hanswer
  obtain ⟨old, hfound, hidentity, haltered, -⟩ := Store.changed_of_ok hanswer
  -- what is changed under the identifier is what the argument names
  have hsame := hresolves.fetch_id hstore
  rw [Store.fetch_eq_ok_iff, Store.findEntity_eq_ok_iff.1 hfound] at hsame
  cases hsame
  exact .changed hsubject hresolves hidentity
    ⟨htitle, hdescription, hpriority, hstatus, hassignee⟩ haltered

/-- A change of a document asks for a title or a description. -/
theorem updateSteeringDocument_writes :
    (Action.updateSteeringDocument context arguments).Leaves stamp store
      (Writes .updateSteeringDocument context arguments stamp store) := by
  refine (check_finds _).bind fun caller hcaller => (documentId_finds hstore).bind ?_
  rintro _ ⟨artifact, hresolves, rfl⟩
  refine (optionalText_finds _).bind fun title htitle => ?_
  refine (optionalText_finds _).bind fun description hdescription => ?_
  refine last_writes hcaller (.updateDocument artifact.id title description caller) .document _
    (fun _ => rfl) ?_
  intro n document hanswer
  obtain ⟨old, hfound, hidentity, hnewTitle, hnewDescription, -⟩ :=
    Store.documentChanged_of_ok hanswer
  have hsame := hresolves.fetch_id hstore
  rw [Store.fetch_eq_ok_iff, Store.findDocument_eq_ok_iff.1 hfound] at hsame
  cases hsame
  exact .documentChanged hresolves hidentity htitle hdescription hnewTitle hnewDescription

/-- **Does a tool create or change an artifact?** -/
def writesArtifact : Tool → Bool
  | .createEpic | .createUserStory | .createAcceptanceCriteria | .createRequirement
  | .createSteeringDocument | .updateEpic | .updateUserStory | .updateRequirement
  | .updateSteeringDocument => true
  | _ => false

/-- **Every tool that writes an artifact** tells what it has written. The three tools that change
the hierarchy share one lemma. -/
theorem call_writes {tool : Tool} (htool : tool.writesArtifact = true) :
    (call tool context arguments).Leaves stamp store
      (Writes tool context arguments stamp store) := by
  cases tool with
  | createEpic => exact createEpic_writes hstore
  | createUserStory => exact createUserStory_writes hstore
  | createAcceptanceCriteria => exact createAcceptanceCriteria_writes hstore
  | createRequirement => exact createRequirement_writes hstore
  | createSteeringDocument => exact createSteeringDocument_writes
  | updateEpic | updateUserStory | updateRequirement => exact updateEntity_writes hstore rfl
  | updateSteeringDocument => exact updateSteeringDocument_writes hstore
  | _ => cases htool

end

/-- **What a tool has written is got** from the store that it leaves, if the identifiers that are drawn are
not in use. -/
theorem Writes.gets {tool : Tool} {result : Result} {after : Store}
    (h : Writes tool context arguments stamp store result after) (hstore : store.Reachable)
    (hstamp : ∀ n, store.uses (stamp n).id = false) :
    ∃ caller summary artifact, context.requireEditor = .ok caller ∧
      result = ⟨summary, artifact.toJson⟩ ∧ Written store caller arguments tool artifact ∧
      after.Gets (.byId artifact.id) artifact ∧
      after.Gets (.byReference artifact.reference) artifact := by
  obtain @⟨caller, access, record, n, artifact, summary, hcaller, hanswer, htold, hwritten⟩ := h
  exact ⟨caller, summary, artifact, hcaller, rfl, hwritten,
    hstore.gets_written (fun _ => hstamp n) hanswer htold⟩

end Tool

open Tool in
/-- **What a tool tells is read back.** In every reachable store, let a tool that creates or changes an
artifact be called, and let it succeed; the identifiers that are drawn are not in use. Then its caller
may change artifacts, and the second block of its reply is the data of an artifact, each field of it
under its own name; and this artifact is got afterwards, under its identifier and under its reference.

If it is new, it is what the arguments give, in the form in which it is kept: its title without the blanks
around it, its description, its priority and its type, what it belongs to and whom it is assigned to; it
is its caller's, and in the state in which such artifacts begin. If it is changed, it is what the argument
names, with the fields altered for which others are given.

That the identifiers are not in use is all that is supposed of them. They are drawn and not counted, and
where one is drawn again, what had it would be lost. -/
theorem Server.written_is_read_back {world : World} (hstore : world.store.Reachable)
    {stamp : Nat → Stamp} (hstamp : ∀ n, world.store.uses (stamp n).id = false) {tool : Tool}
    (htool : tool.writesArtifact = true) {params : Option Json} {arguments : Arguments}
    (hcall : Params.toolCall? params = some ⟨tool.name, arguments⟩) {context : Context} {reply : Json}
    (hreply : ((callTool context params).exec (.ofStore stamp) world).value =
      .returned (.ok reply)) :
    let after := ((callTool context params).exec (.ofStore stamp) world).state.store
    ∃ caller summary artifact, context.requireEditor = .ok caller ∧
      reply = .object [("content", .array [
        .object [("text", .string summary), ("type", .string "text")],
        .object [("text", .string artifact.toJson.pretty), ("type", .string "text")]])] ∧
      artifact.ToldBy artifact.toJson ∧
      Written world.store caller arguments tool artifact ∧
      after.Gets (.byId artifact.id) artifact ∧
      after.Gets (.byReference artifact.reference) artifact := by
  have hwrites : (callTool context params).Leaves stamp world.store fun reply after =>
      ∃ result, Writes tool context arguments stamp world.store result after ∧
        reply = result.toJson := by
    simp only [callTool, hcall, callNamed, ofName?_name]
    refine ((call_writes hstore htool).within _ _).bind fun result after hresult => ?_
    exact Job.leaves_done ⟨result, hresult, rfl⟩
  obtain ⟨result, hresult, rfl⟩ := hwrites world reply rfl hreply
  obtain ⟨caller, summary, artifact, hcaller, rfl, hgot⟩ := hresult.gets hstore hstamp
  exact ⟨caller, summary, artifact, hcaller, rfl, artifact.toldBy_toJson, hgot⟩

/-- Someone who may change artifacts. -/
def Server.author : User := ⟨(Stamp.nth 0).id, "alice", .user⟩

/-- Someone who may not, but to whom work may be assigned. -/
def Server.colleague : User := ⟨(Stamp.nth 1).id, "bob", .commenter⟩

/-- An epic, which has neither a description nor an assignee. -/
def Server.bareEpic : Epic :=
  { card :=
      { id := (Stamp.nth 2).id
        reference := "EP-001"
        title := "Search"
        description := none
        priority := .high
        creator := author.id
        assignee := none
        createdAt := ⟨2⟩
        modifiedAt := ⟨2⟩ }
    status := .backlog }

/-- Where there is this epic and nothing else. -/
def Server.groundwork : World :=
  ⟨(Store.initial [author, colleague] []).run
    [⟨.createEpic ⟨"Search", none, .high, author.id, none⟩, .nth 2⟩], 0, 0⟩

/-- What is given for a user story of the epic. -/
def Server.telling : Tool.Arguments :=
  [("assignee_id", .string "bob"), ("description", .string " As a user\n"),
    ("epic_id", .string "EP-001"), ("priority", .ofNat 2), ("title", .string " Find\n")]

/-- What is given for the epic itself. -/
def Server.retelling : Tool.Arguments :=
  [("assignee_id", .string " alice"), ("description", .string "Find things"),
    ("epic_id", .string "EP-001 "), ("status", .string "in_progress")]

section

open Tool

/-- There is no other epic. -/
theorem Server.eq_bareEpic {artifact : Artifact}
    (h : artifact ∈ (groundwork.store.shelf .epic).values) :
    artifact = .entity (.epic bareEpic) := by
  have hepics : (groundwork.store.shelf .epic).values = [.entity (.epic bareEpic)] := by
    decide +kernel
  rw [hepics] at h
  exact List.mem_singleton.1 h

/-- The user story that is made of what is given, field by field. -/
theorem Server.story_of_telling {artifact : Artifact}
    (h : Written groundwork.store author telling .createUserStory artifact) :
    ∃ story : UserStory, artifact = .entity (.story story) ∧
      story.card.title = "Find" ∧ story.card.description = some " As a user\n" ∧
      story.card.priority.value = 2 ∧ story.card.creator = author.id ∧
      story.card.assignee = some colleague.id ∧ story.epic = bareEpic.card.id ∧
      story.status = .backlog := by
  cases h with
  | changed hsubject => cases hsubject
  | @story parent draft story hparent hdraft hmade =>
    obtain ⟨hkept, hepic, hstatus⟩ := hmade
    have hgivenTitle : draft.title = " Find\n" :=
      Json.string.inj (hdraft.title.unique (has_iff.2 rfl))
    have hgiven : draft.description = some " As a user\n" :=
      hdraft.description.of_has (has_iff.2 rfl)
    have hgivenPriority : (draft.priority.value : Int) = 2 :=
      Option.some.inj (hdraft.priority.of_has (has_iff.2 rfl))
    have hassignee : Keeps groundwork.store some "bob" draft.assignee :=
      hdraft.assignee.of_has (has_iff.2 rfl) (by decide)
    have hcolleague : groundwork.store.findUser "bob" = .ok colleague := by rfl
    have htitle : story.card.title = "Find" := by
      rw [hkept.title, hgivenTitle]
      decide +kernel
    have hdescription : story.card.description = some " As a user\n" := by
      have haltered := hkept.description
      rw [hgiven] at haltered
      exact haltered.of_given.eq_some (by decide)
    have hpriority : story.card.priority.value = 2 := by
      rw [hkept.priority]
      exact Int.ofNat.inj hgivenPriority
    have hparentId : parent.id = bareEpic.card.id := congrArg Artifact.id (eq_bareEpic hparent.1)
    exact ⟨story, rfl, htitle, hdescription, hpriority, hkept.creator.trans hdraft.creator,
      hkept.assignee.trans (hassignee.eq_of_findUser hcolleague), hepic.trans hparentId, hstatus⟩

/-- What has become of the epic. What is not given is as it was. -/
theorem Server.epic_of_retelling {artifact : Artifact}
    (h : Written groundwork.store author retelling .updateEpic artifact) :
    ∃ epic : Epic, artifact = .entity (.epic epic) ∧ epic.card.reference = "EP-001" ∧
      epic.card.title = "Search" ∧ epic.card.description = some "Find things" ∧
      epic.status = .inProgress ∧ epic.card.assignee = some author.id := by
  cases h with
  | @changed _ _ _ old new changes now hsubject hold hidentity hchanges haltered =>
    cases hsubject
    obtain rfl : old = .epic bareEpic := Artifact.entity.inj (eq_bareEpic hold.1)
    cases haltered with
    | @epic _ epic hcard hstatus =>
      have hgivenTitle : changes.title = none := hchanges.title.of_leftOut (.inl (by decide))
      have hgiven : changes.description = some "Find things" :=
        hchanges.description.of_has (has_iff.2 rfl)
      have hgivenStatus : changes.status = some "in_progress" :=
        hchanges.status.of_has (has_iff.2 rfl)
      have hassignee : Keeps groundwork.store .assign " alice" changes.assignee :=
        hchanges.assignee.of_has (has_iff.2 rfl) (by decide)
      have hauthor : groundwork.store.findUser " alice" = .ok author := by rfl
      obtain ⟨htitle, hdescription, -, hassigned, -⟩ := hcard
      rw [hgivenTitle] at htitle
      rw [hgiven] at hdescription
      rw [hgivenStatus] at hstatus
      rw [hassignee.eq_of_findUser hauthor] at hassigned
      have hread : WorkflowStatus.parse "in_progress" = .ok epic.status := hstatus.of_given
      exact ⟨epic, rfl, congrArg Identity.reference hidentity, htitle.of_absent,
        hdescription.of_given.eq_some (by decide), (Except.ok.inj hread).symm, hassigned.of_assign⟩

/-- A user story is created and an epic is changed. Each is told with what was given for it, in the form
in which it is kept, and is got by its reference. -/
theorem Server.written_is_read_back_story :
    let ended := fun name arguments =>
      (callTool ⟨"c", some author, .none⟩ (calling name arguments)).exec (.ofStore fun _ => .nth 9)
        groundwork
    let told := fun (artifact : Artifact) summary =>
      Json.object [("content", .array [
        .object [("text", .string summary), ("type", .string "text")],
        .object [("text", .string artifact.toJson.pretty), ("type", .string "text")]])]
    (∃ summary story, (ended "create_user_story" telling).value =
        .returned (.ok (told (.entity (.story story)) summary)) ∧
      story.card.title = "Find" ∧ story.card.description = some " As a user\n" ∧
      story.card.priority.value = 2 ∧ story.card.creator = author.id ∧
      story.card.assignee = some colleague.id ∧ story.epic = bareEpic.card.id ∧
      story.status = .backlog ∧
      (ended "create_user_story" telling).state.store.Gets (.byReference story.card.reference)
        (.entity (.story story))) ∧
    ∃ summary epic, (ended "update_epic" retelling).value =
        .returned (.ok (told (.entity (.epic epic)) summary)) ∧
      epic.card.title = "Search" ∧ epic.card.description = some "Find things" ∧
      epic.status = .inProgress ∧ epic.card.assignee = some author.id ∧
      (ended "update_epic" retelling).state.store.Gets (.byReference "EP-001")
        (.entity (.epic epic)) := by
  intro ended told
  have hstore : groundwork.store.Reachable := (Store.Reachable.initial _ _).run (by decide +kernel)
  have hfree : groundwork.store.uses (Stamp.nth 9).id = false := by decide +kernel
  constructor
  · obtain ⟨reply, hreply⟩ : ∃ reply, (ended "create_user_story" telling).value =
        .returned (.ok reply) := Fate.exists_of_isOk (by decide +kernel)
    have htool : Tool.createUserStory.writesArtifact = true := rfl
    obtain ⟨caller, summary, artifact, hcaller, rfl, -, hwritten, -, hgets⟩ :=
      written_is_read_back hstore (fun _ => hfree) htool (by rfl) hreply
    obtain rfl : author = caller := Except.ok.inj hcaller
    obtain ⟨story, rfl, htitle, hdescription, hpriority, hcreator, hassignee, hepic, hstatus⟩ :=
      story_of_telling hwritten
    exact ⟨summary, story, hreply, htitle, hdescription, hpriority, hcreator, hassignee, hepic,
      hstatus, hgets⟩
  · obtain ⟨reply, hreply⟩ : ∃ reply, (ended "update_epic" retelling).value =
        .returned (.ok reply) := Fate.exists_of_isOk (by decide +kernel)
    have htool : Tool.updateEpic.writesArtifact = true := rfl
    obtain ⟨caller, summary, artifact, hcaller, rfl, -, hwritten, -, hgets⟩ :=
      written_is_read_back hstore (fun _ => hfree) htool (by rfl) hreply
    obtain rfl : author = caller := Except.ok.inj hcaller
    obtain ⟨epic, rfl, hreference, htitle, hdescription, hstatus, hassignee⟩ :=
      epic_of_retelling hwritten
    change Store.Gets _ (.byReference epic.card.reference) _ at hgets
    rw [hreference] at hgets
    exact ⟨summary, epic, hreply, htitle, hdescription, hstatus, hassignee, hgets⟩

end

end Planroom
