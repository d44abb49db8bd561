import Planroom.Proofs.Work.Errand
import Planroom.Tool.Call

/-!
# Tools run errands

Whatever tool is called, and with whatever arguments: the arguments are read, the artifacts and
users that they name are looked up, and the last access is the one that the tool is there for. It is
a write exactly when the tool does more than read.

* **Arguments** — reading one, and looking up what it names, is an inquiry. Of an artifact only the
  identifier is kept.
* **The last access** — `Serves tool` tells the accesses that a tool may end with.
* **Tools** — `call_runsErrand`, from one lemma for each action.
* **Permission** — `call_of_not_editor`: a tool that changes something does nothing at all for
  somebody who may not.
-/

namespace Planroom.Tool

open Job

variable {α : Type}

/-! ## Arguments -/

/-- To read an argument asks for nothing. -/
theorem argument_inquires (value : Except Argument.Fault α) : (argument value).Inquires := by
  cases value with
  | ok value => exact inquires_done value
  | error fault => exact inquires_fail _

/-- Neither does a check. -/
theorem check_inquires (value : Except Failure α) : (check value).Inquires := by
  cases value with
  | ok value => exact inquires_done value
  | error failure => exact inquires_fail _

/-- After an argument the job goes on with its value. -/
theorem argument_andThen {β : Type} {P : Job CallError β → Prop} {f : α → Job CallError β}
    (value : Except Argument.Fault α) (hnext : ∀ value, (f value).LooksUpThen P) :
    ((argument value).bind f).LooksUpThen P :=
  (argument_inquires value).andThen hnext

/-- A look-up is read, and not yet made. -/
theorem lookup_inquires (arguments : Arguments) (key : String) :
    (lookup arguments key).Inquires := by
  refine argument_andThen _ fun text => ?_
  cases Lookup.parse? text with
  | some lookup => exact inquires_done lookup
  | none => exact inquires_fail _

/-- **The identifier of an artifact** is settled once it has been looked up. Others may change the
artifact, but not its identifier. -/
theorem entityId_inquires (arguments : Arguments) (key : String) (kind : Kind) :
    (entityId arguments key kind).Inquires := by
  refine (lookup_inquires arguments key).andThen fun lookup => ?_
  exact inquires_ask (a := .getEntity kind lookup) rfl CallError.failed fun _ _ =>
    Entity.id_of_identity

/-- The identifier of a steering document is settled likewise. -/
theorem documentId_inquires (arguments : Arguments) : (documentId arguments).Inquires := by
  refine (lookup_inquires arguments documentKey).andThen fun lookup => ?_
  exact inquires_ask (a := .getDocument lookup) rfl CallError.failed fun _ _ hsame =>
    congrArg Identity.id hsame

/-- What is kept of a user, who does not change at all. -/
theorem user_inquires {β : Type} (text : String) (keep : User → β) :
    ((ask (.findUser text)).bind fun user => done (keep user)).Inquires :=
  inquires_ask (a := .findUser text) rfl CallError.failed fun _ _ hsame => congrArg keep hsame

/-- An argument that may be blank. -/
theorem unlessBlank_inquires (text : String) (blank : α) {job : Job CallError α}
    (h : job.Inquires) : (if Text.isBlankText text then done blank else job).Inquires := by
  split
  · exact inquires_done blank
  · exact h

/-- A user who may be left out is looked up if there is one. -/
theorem userId?_inquires (arguments : Arguments) (key : String) :
    (userId? arguments key).Inquires := by
  refine argument_andThen _ fun text? => ?_
  cases text? with
  | none => exact inquires_done none
  | some text => exact unlessBlank_inquires text none (user_inquires text fun user => some user.id)

/-- An assignee is looked up if there is to be one. -/
theorem assigneeChange_inquires (arguments : Arguments) : (assigneeChange arguments).Inquires := by
  refine argument_andThen _ fun text? => ?_
  cases text? with
  | none => exact inquires_done AssigneeChange.keep
  | some text =>
    exact unlessBlank_inquires text AssigneeChange.unassign
      (user_inquires text fun user => AssigneeChange.assign user.id)

/-- A priority is read and checked. -/
theorem priority_inquires (arguments : Arguments) : (priority arguments).Inquires :=
  argument_andThen _ fun _ => check_inquires _

/-- It is read and checked if it is given. -/
theorem priority?_inquires (arguments : Arguments) : (priority? arguments).Inquires := by
  refine argument_andThen _ fun number? => ?_
  cases number? with
  | none => exact inquires_done none
  | some n => exact (check_inquires _).andThen fun priority => inquires_done (some priority)

/-- A window is read and checked. -/
theorem window_inquires (arguments : Arguments) : (window arguments).Inquires :=
  argument_andThen _ fun _ => argument_andThen _ fun _ => check_inquires _

/-- The draft of a card looks up its assignee, and reads all else. -/
theorem cardDraft_inquires (arguments : Arguments) (creator : Uuid) :
    (cardDraft arguments creator).Inquires := by
  refine argument_andThen _ fun title => argument_andThen _ fun description => ?_
  refine (priority_inquires arguments).andThen fun priority => ?_
  refine (userId?_inquires arguments "assignee_id").andThen fun assignee => ?_
  exact inquires_done _

/-- Criteria are looked up if they are named. -/
theorem criteriaId?_inquires (arguments : Arguments) : (Action.criteriaId? arguments).Inquires := by
  refine argument_andThen _ fun text? => ?_
  cases text? with
  | none => exact inquires_done none
  | some text =>
    exact unlessBlank_inquires text none
      ((entityId_inquires arguments _ _).andThen fun id => inquires_done (some id))

/-! ## The last access -/

/-- **Is this an access that the tool is there for?** A tool that only reads ends with a read, any
other one with a write. That is the hint which clients are given. -/
def Serves (tool : Tool) (access : Access) : Prop :=
  access.isWrite = !tool.isReadOnly

/-- The last access, and what is told of its result. After it nothing is asked for. -/
theorem ask_runsErrand (tool : Tool) (access : Access) (hserves : tool.Serves access)
    (tell : access.Result → Result) :
    ((ask access).bind fun result => done (tell result)).RunsErrand tool.Serves :=
  ((runsErrand_ask hserves).mapError CallError.failed).map tell

/-! ## The tools -/

variable (context : Context) (arguments : Arguments)

/-- **One lemma for each action** follows: its steps are inquiries, up to the last access. -/
theorem createEpic_runsErrand :
    (Action.createEpic context arguments).RunsErrand Tool.createEpic.Serves := by
  refine (check_inquires _).andThen fun creator => ?_
  refine (cardDraft_inquires arguments creator.id).andThen fun draft => ?_
  exact ask_runsErrand .createEpic (.createEpic draft) rfl _

/-- The epic of a user story is looked up before the story is created. -/
theorem createUserStory_runsErrand :
    (Action.createUserStory context arguments).RunsErrand Tool.createUserStory.Serves := by
  refine (check_inquires _).andThen fun creator => ?_
  refine (entityId_inquires arguments "epic_id" .epic).andThen fun epic => ?_
  refine (cardDraft_inquires arguments creator.id).andThen fun draft => ?_
  exact ask_runsErrand .createUserStory (.createStory epic draft) rfl _

/-- The user story is looked up before the criteria are created. -/
theorem createAcceptanceCriteria_runsErrand :
    (Action.createAcceptanceCriteria context arguments).RunsErrand
      Tool.createAcceptanceCriteria.Serves := by
  refine (check_inquires _).andThen fun author => ?_
  refine (entityId_inquires arguments "user_story_id" .userStory).andThen fun story => ?_
  refine argument_andThen _ fun description => ?_
  exact ask_runsErrand .createAcceptanceCriteria (.createCriteria story description author.id) rfl _

/-- What a requirement belongs to is looked up before it is created. -/
theorem createRequirement_runsErrand :
    (Action.createRequirement context arguments).RunsErrand Tool.createRequirement.Serves := by
  refine (check_inquires _).andThen fun creator => ?_
  refine (criteriaId?_inquires arguments).andThen fun criteria => ?_
  refine (entityId_inquires arguments "user_story_id" .userStory).andThen fun story => ?_
  refine argument_andThen _ fun title => argument_andThen _ fun description => ?_
  refine (priority_inquires arguments).andThen fun priority => ?_
  refine argument_andThen _ fun written => (check_inquires _).andThen fun type => ?_
  refine (userId?_inquires arguments "assignee_id").andThen fun assignee => ?_
  exact ask_runsErrand .createRequirement (.createRequirement
    ⟨⟨title, description, priority, creator.id, assignee⟩, story, criteria, type⟩) rfl _

/-- The three tools that change an artifact of the hierarchy. All that they are given is read and
looked up before the change. -/
theorem updateEntity_runsErrand {tool : Tool} (hwrites : tool.isReadOnly = false) (kind : Kind)
    (key : String) : (Action.updateEntity context arguments kind key).RunsErrand tool.Serves := by
  refine (check_inquires _).andThen fun _ => ?_
  refine (entityId_inquires arguments key kind).andThen fun id => ?_
  refine argument_andThen _ fun title => argument_andThen _ fun description => ?_
  refine (priority?_inquires arguments).andThen fun priority => argument_andThen _ fun status => ?_
  refine (assigneeChange_inquires arguments).andThen fun assignee => ?_
  refine ask_runsErrand tool
    (.updateEntity kind id ⟨title, description, priority, status, assignee⟩) ?_ _
  rw [Serves, hwrites]
  rfl

/-- Both requirements are looked up before they are related. -/
theorem createRelationship_runsErrand :
    (Action.createRelationship context arguments).RunsErrand Tool.createRelationship.Serves := by
  refine (check_inquires _).andThen fun creator => ?_
  refine (entityId_inquires arguments "source_requirement_id" .requirement).andThen fun source => ?_
  refine (entityId_inquires arguments "target_requirement_id" .requirement).andThen fun target => ?_
  refine argument_andThen _ fun written => (check_inquires _).andThen fun type => ?_
  exact ask_runsErrand .createRelationship
    (.createRelationship ⟨source, target, type, creator.id⟩) rfl _

/-- A search is one access, which reads. -/
theorem searchGlobal_runsErrand :
    (Action.searchGlobal arguments).RunsErrand Tool.searchGlobal.Serves := by
  refine argument_andThen _ fun names => (check_inquires _).andThen fun kinds => ?_
  refine argument_andThen _ fun query => (window_inquires arguments).andThen fun window => ?_
  exact ask_runsErrand .searchGlobal (.search query kinds window) rfl _

/-- So is the search for requirements. -/
theorem searchRequirements_runsErrand :
    (Action.searchRequirements arguments).RunsErrand Tool.searchRequirements.Serves := by
  refine argument_andThen _ fun query => (window_inquires arguments).andThen fun window => ?_
  exact ask_runsErrand .searchRequirements (.search query [.requirement] window) rfl _

/-- The creator by whom documents are listed is looked up first, if there is one. -/
theorem listSteeringDocuments_runsErrand :
    (Action.listSteeringDocuments arguments).RunsErrand Tool.listSteeringDocuments.Serves := by
  refine (userId?_inquires arguments "creator_id").andThen fun creator => ?_
  refine argument_andThen _ fun query => (window_inquires arguments).andThen fun window => ?_
  exact ask_runsErrand .listSteeringDocuments (.listDocuments query creator window) rfl _

/-- A steering document is created by one access, without any look-up. -/
theorem createSteeringDocument_runsErrand :
    (Action.createSteeringDocument context arguments).RunsErrand
      Tool.createSteeringDocument.Serves := by
  refine (check_inquires _).andThen fun creator => ?_
  refine argument_andThen _ fun title => argument_andThen _ fun description => ?_
  exact ask_runsErrand .createSteeringDocument (.createDocument title description creator.id) rfl _

/-- Here the last access is itself a look-up. -/
theorem getSteeringDocument_runsErrand :
    (Action.getSteeringDocument arguments).RunsErrand Tool.getSteeringDocument.Serves := by
  refine (lookup_inquires arguments documentKey).andThen fun lookup => ?_
  exact ask_runsErrand .getSteeringDocument (.getDocument lookup) rfl _

/-- A document is looked up before it is changed. -/
theorem updateSteeringDocument_runsErrand :
    (Action.updateSteeringDocument context arguments).RunsErrand
      Tool.updateSteeringDocument.Serves := by
  refine (check_inquires _).andThen fun actor => ?_
  refine (documentId_inquires arguments).andThen fun id => ?_
  refine argument_andThen _ fun title => argument_andThen _ fun description => ?_
  exact ask_runsErrand .updateSteeringDocument (.updateDocument id title description actor) rfl _

/-- The document and the epic are looked up before they are linked. -/
theorem linkSteeringDocument_runsErrand :
    (Action.linkSteeringDocument context arguments).RunsErrand
      Tool.linkSteeringDocument.Serves := by
  refine (check_inquires _).andThen fun _ => ?_
  refine (documentId_inquires arguments).andThen fun document => ?_
  refine (entityId_inquires arguments "epic_id" .epic).andThen fun epic => ?_
  exact ask_runsErrand .linkSteeringDocument (.linkDocument document epic) rfl _

/-- And so they are before the link is taken out. -/
theorem unlinkSteeringDocument_runsErrand :
    (Action.unlinkSteeringDocument context arguments).RunsErrand
      Tool.unlinkSteeringDocument.Serves := by
  refine (check_inquires _).andThen fun _ => ?_
  refine (documentId_inquires arguments).andThen fun document => ?_
  refine (entityId_inquires arguments "epic_id" .epic).andThen fun epic => ?_
  exact ask_runsErrand .unlinkSteeringDocument (.unlinkDocument document epic) rfl _

/-- The epic is looked up before its documents are listed. -/
theorem getEpicSteeringDocuments_runsErrand :
    (Action.getEpicSteeringDocuments arguments).RunsErrand
      Tool.getEpicSteeringDocuments.Serves := by
  refine (entityId_inquires arguments "epic_id" .epic).andThen fun epic => ?_
  exact ask_runsErrand .getEpicSteeringDocuments (.listEpicDocuments epic) rfl _

/-- **Every tool runs an errand**: look-ups, and then one access that the tool is there for. -/
theorem call_runsErrand (tool : Tool) : (call tool context arguments).RunsErrand tool.Serves := by
  cases tool with
  | createEpic => exact createEpic_runsErrand context arguments
  | updateEpic => exact updateEntity_runsErrand context arguments rfl .epic "epic_id"
  | createUserStory => exact createUserStory_runsErrand context arguments
  | updateUserStory =>
    exact updateEntity_runsErrand context arguments rfl .userStory "user_story_id"
  | createAcceptanceCriteria => exact createAcceptanceCriteria_runsErrand context arguments
  | createRequirement => exact createRequirement_runsErrand context arguments
  | updateRequirement =>
    exact updateEntity_runsErrand context arguments rfl .requirement "requirement_id"
  | createRelationship => exact createRelationship_runsErrand context arguments
  | searchGlobal => exact searchGlobal_runsErrand arguments
  | searchRequirements => exact searchRequirements_runsErrand arguments
  | listSteeringDocuments => exact listSteeringDocuments_runsErrand arguments
  | createSteeringDocument => exact createSteeringDocument_runsErrand context arguments
  | getSteeringDocument => exact getSteeringDocument_runsErrand arguments
  | updateSteeringDocument => exact updateSteeringDocument_runsErrand context arguments
  | linkSteeringDocument => exact linkSteeringDocument_runsErrand context arguments
  | unlinkSteeringDocument => exact unlinkSteeringDocument_runsErrand context arguments
  | getEpicSteeringDocuments => exact getEpicSteeringDocuments_runsErrand arguments

/-- **Is this an access that the tool with a name is there for**, if there is one? -/
def ServesNamed (name : String) (access : Access) : Prop :=
  ∃ tool, ofName? name = some tool ∧ tool.Serves access

/-- A call by a name runs an errand too; it ends at once where there is no such tool. -/
theorem callNamed_runsErrand (name : String) :
    (callNamed name context arguments).RunsErrand (ServesNamed name) := by
  rw [callNamed]
  cases hname : ofName? name with
  | none => exact .refused _
  | some tool =>
    exact (call_runsErrand context arguments tool).imp fun access hserves => ⟨tool, hname, hserves⟩

/-! ## Permission -/

variable {context}

/-- **A tool that changes something asks first** whether its caller may, before it reads an argument
or looks anything up. So whoever may not change anything does not learn from its errors what there
is. -/
theorem call_of_not_editor {tool : Tool} (hwrites : tool.isReadOnly = false) {failure : Failure}
    (hrefused : context.requireEditor = .error failure) :
    call tool context arguments = .fail (.failed failure) := by
  have hcheck {β : Type} (f : User → Job CallError β) :
      (check context.requireEditor).bind f = fail (.failed failure) := by
    rw [hrefused]
    rfl
  cases tool <;> first | (cases hwrites; done) | exact hcheck _

end Planroom.Tool
