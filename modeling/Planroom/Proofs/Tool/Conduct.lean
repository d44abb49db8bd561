import Planroom.Proofs.Tool.Given
import Planroom.Proofs.Tool.Errands
import Planroom.Proofs.Work.Terms
import Planroom.Server.Methods

/-!
# How tools conduct themselves

What is advertised of a tool, what is logged of a call, and what the tool does with its arguments are
three texts that know nothing of one another. Here the last one is read, once for each action: which
arguments it cannot do without, whom it acts for, and what it writes to.

* **Fields** — `Supplied`: everything that a tool's fields require is there, and is of its type.
* **Writes** — `Acts`: a write of a tool is made for a user who may change artifacts, what is new bears
  the identifier of this user as that of its maker, and the artifact that is changed is the one that
  the subject of the tool names.
* **Names** — what an argument names is known from answers. `known` is whatever is supposed to be known
  of artifacts that have been looked up.
* **Tools** — `call_abides`: every tool abides by these terms, from one lemma for each action.
-/

namespace Planroom

namespace Access

/-- **Which artifact an access changes**, or makes the source of a relationship. For a link this is
the document. -/
def subject? : Access → Option (Kind × Uuid)
  | .updateEntity kind id _ => some (kind, id)
  | .createRelationship draft => some (.requirement, draft.source)
  | .updateDocument id _ _ _ => some (.steeringDocument, id)
  | .linkDocument document _ => some (.steeringDocument, document)
  | .unlinkDocument document _ => some (.steeringDocument, document)
  | _ => none

end Access

namespace Tool

open Job

variable {α β : Type}

/-- **What a tool is about**: the kind of the artifact that it changes, or makes the source of a
relationship, and the argument that names this artifact. A tool that creates an artifact, or only
reads, has none. -/
def subject? : Tool → Option (Kind × String)
  | .updateEpic => some (.epic, "epic_id")
  | .updateUserStory => some (.userStory, "user_story_id")
  | .updateRequirement => some (.requirement, "requirement_id")
  | .createRelationship => some (.requirement, "source_requirement_id")
  | .updateSteeringDocument | .linkSteeringDocument | .unlinkSteeringDocument =>
    some (.steeringDocument, documentKey)
  | _ => none

/-! ## Fields -/

/-- The fields that must be given. They are those that the schema lists as required. -/
def required (tool : Tool) : List Field :=
  tool.fields.filter (·.required)

/-- **May a text be blank** although it must be given? Only to list all documents. -/
def MayBeBlank (tool : Tool) (key : String) : Prop :=
  tool = .listSteeringDocuments ∧ key = "query"

/-- **Is a required field supplied**: there, and of its type? -/
def Supplies (tool : Tool) (arguments : Arguments) (field : Field) : Prop :=
  match field.type with
  | .text => ∃ s, Json.lookup field.name arguments = some (.string s) ∧
      (Text.isBlankText s = true → tool.MayBeBlank field.name)
  | .integer => ∃ value n, Json.lookup field.name arguments = some value ∧
      Argument.integral? value = some n
  | .textList => False

/-- **Is everything supplied** that the tool requires? What may be left out is not spoken of. -/
def Supplied (tool : Tool) (arguments : Arguments) : Prop :=
  ∀ field ∈ tool.required, tool.Supplies arguments field

/-! ## Writes -/

/-- **Does an argument name this artifact**, as far as it is known? The argument gives a look-up,
and what this look-up finds is up to `known`. -/
def Names (known : Kind → Lookup → Uuid → Prop) (arguments : Arguments) (key : String) (kind : Kind)
    (id : Uuid) : Prop :=
  ∃ text lookup, Json.lookup key arguments = some (.string text) ∧
    Lookup.parse? text = some lookup ∧ known kind lookup id

/-- What is known when an artifact has been looked up. An answer that tells of a failure teaches
nothing. -/
def Knows (known : Kind → Lookup → Uuid → Prop) :
    (access : Access) → Except Failure access.Result → Prop
  | .getEntity kind lookup, .ok entity => known kind lookup entity.id
  | .getDocument lookup, .ok document => known .steeringDocument lookup document.id
  | _, _ => True

/-- Where nothing is to be known, all is known. -/
theorem knows_anything (access : Access) (answer : Except Failure access.Result) :
    Knows (fun _ _ _ => True) access answer := by
  cases access <;> cases answer <;> exact trivial

/-- **Is this a write that the tool may make** with these arguments? Its maker is the caller, who
may change artifacts; and it is done to what the subject names, where the tool has a subject. -/
structure Acts (tool : Tool) (context : Context) (arguments : Arguments)
    (known : Kind → Lookup → Uuid → Prop) (access : Access) : Prop where
  maker : ∃ user, context.requireEditor = .ok user ∧
    ∀ made, access.makes? = some made → made.2 = user.id
  subject : ∀ kind key, tool.subject? = some (kind, key) →
    ∃ id, Names known arguments key kind id ∧ access.subject? = some (kind, id)

/-- **The terms of a tool.** That there is no such tool it never says. Of reads they ask nothing. -/
def terms (tool : Tool) (context : Context) (arguments : Arguments)
    (known : Kind → Lookup → Uuid → Prop) : Terms CallError :=
  { told := Knows known
    asks := fun access => access.isWrite = true → tool.Acts context arguments known access
    fails := fun error => ∀ text, error ≠ .methodNotFound text }

section

variable {tool : Tool} {context : Context} {arguments : Arguments}
  {known : Kind → Lookup → Uuid → Prop} {key : String}

/-! ## Arguments -/

/-- To read an argument abides by any terms: either there is its value, or the tool fails with what
is wrong with it. -/
theorem argument_abides (value : Except Argument.Fault α) :
    (argument value).Abides (tool.terms context arguments known) fun given => value = .ok given := by
  cases value with
  | ok given => exact .done rfl
  | error fault => exact .fail nofun

/-- So does a check that asks for nothing. -/
theorem check_abides (value : Except Failure α) :
    (check value).Abides (tool.terms context arguments known) fun given => value = .ok given := by
  cases value with
  | ok given => exact .done rfl
  | error failure => exact .fail nofun

/-- That an access has failed a tool may say. -/
theorem fails_failed (failure : Failure) :
    (tool.terms context arguments known).fails (.failed failure) :=
  nofun

/-- **A read** may be asked for at any time. What has been found is known from then on. -/
theorem read_abides (access : Access) (hread : access.isWrite = false) :
    (ask access).Abides (tool.terms context arguments known) fun result =>
      Knows known access (.ok result) := by
  refine abides_ask (fun hwrite => ?_) fails_failed
  rw [hread] at hwrite
  cases hwrite

/-- A text that has been read is there. -/
theorem supplies_text {s : String} (h : Argument.text arguments key = .ok s) :
    Json.lookup key arguments = some (.string s) ∧ tool.Supplies arguments (.text key) := by
  obtain ⟨hhas, hfilled⟩ := has_of_text h
  have hlookup := has_iff.1 hhas
  refine ⟨hlookup, s, hlookup, fun hblank => ?_⟩
  rw [hfilled] at hblank
  cases hblank

/-- A text that may be blank counts as supplied for those tools alone which allow it. -/
theorem supplies_anyText {s : String} (h : Argument.anyText arguments key = .ok s)
    (hmayBe : tool.MayBeBlank key) : tool.Supplies arguments (.text key) := by
  unfold Argument.anyText at h
  split at h
  · cases h
  · next hgiven =>
    cases h
    exact ⟨s, lookup_of_given hgiven, fun _ => hmayBe⟩
  · cases h

/-- So is an integer. -/
theorem supplies_integer {n : Int} (h : Argument.integer arguments key = .ok n) :
    tool.Supplies arguments (.integer key) := by
  unfold Argument.integer Argument.optionalInteger at h
  split at h
  · cases h
  · next value hgiven =>
    split at h
    · next found hfound => exact ⟨value, found, lookup_of_given hgiven, hfound⟩
    · cases h

/-- A text that must not be blank. -/
theorem text_abides :
    (argument (Argument.text arguments key)).Abides (tool.terms context arguments known) fun _ =>
      tool.Supplies arguments (.text key) :=
  (argument_abides _).imp fun _ h => (supplies_text h).2

/-- A look-up is read from a text that is there. -/
theorem lookup_abides :
    (lookup arguments key).Abides (tool.terms context arguments known) fun lookup =>
      tool.Supplies arguments (.text key) ∧ ∃ text, Json.lookup key arguments = some (.string text) ∧
        Lookup.parse? text = some lookup := by
  refine (argument_abides _).bind fun text htext => ?_
  obtain ⟨hlookup, hsupplies⟩ := supplies_text htext
  cases hparse : Lookup.parse? text with
  | some lookup => exact .done ⟨hsupplies, text, hlookup, hparse⟩
  | none => exact .fail nofun

/-- **The artifact that an argument names** is looked up, and its identifier is what the argument
names. -/
theorem entityId_abides (kind : Kind) :
    (entityId arguments key kind).Abides (tool.terms context arguments known) fun id =>
      tool.Supplies arguments (.text key) ∧ Names known arguments key kind id := by
  refine lookup_abides.bind ?_
  rintro lookup ⟨hsupplies, text, htext, hparse⟩
  refine (read_abides (.getEntity kind lookup) rfl).bind fun entity hknown => ?_
  exact .done ⟨hsupplies, text, lookup, htext, hparse, hknown⟩

/-- It is the same with a steering document, for which there is one argument. -/
theorem documentId_abides :
    (documentId arguments).Abides (tool.terms context arguments known) fun id =>
      tool.Supplies arguments (.text documentKey) ∧
        Names known arguments documentKey .steeringDocument id := by
  refine lookup_abides.bind ?_
  rintro lookup ⟨hsupplies, text, htext, hparse⟩
  refine (read_abides (.getDocument lookup) rfl).bind fun document hknown => ?_
  exact .done ⟨hsupplies, text, lookup, htext, hparse, hknown⟩

/-- An argument that may be blank, and then means something of its own. -/
theorem unlessBlank_abides (text : String) (blank : α) {job : Job CallError α}
    (h : job.Abides (tool.terms context arguments known) fun _ => True) :
    (if Text.isBlankText text then done blank else job).Abides
      (tool.terms context arguments known) fun _ => True := by
  split
  · exact .done trivial
  · exact h

/-- A user is looked up, and nothing has to be known of it. -/
theorem user_abides (text : String) (keep : User → β) :
    ((ask (.findUser text)).bind fun user => done (keep user)).Abides
      (tool.terms context arguments known) fun _ => True :=
  (read_abides (.findUser text) rfl).bind fun _ _ => .done trivial

/-- An argument that names a user may be left out, and so nothing is supplied by it. -/
theorem userId?_abides (key : String) :
    (userId? arguments key).Abides (tool.terms context arguments known) fun _ => True := by
  refine (argument_abides _).bind fun text? _ => ?_
  cases text? with
  | none => exact .done trivial
  | some text => exact unlessBlank_abides text none (user_abides text fun user => some user.id)

/-- An assignee may be given, taken away or left alone. -/
theorem assigneeChange_abides :
    (assigneeChange arguments).Abides (tool.terms context arguments known) fun _ => True := by
  refine (argument_abides _).bind fun text? _ => ?_
  cases text? with
  | none => exact .done trivial
  | some text =>
    exact unlessBlank_abides text AssigneeChange.unassign
      (user_abides text fun user => AssigneeChange.assign user.id)

/-- Acceptance criteria may be named, and then they are looked up. -/
theorem criteriaId?_abides :
    (Action.criteriaId? arguments).Abides (tool.terms context arguments known) fun _ => True := by
  refine (argument_abides _).bind fun text? _ => ?_
  cases text? with
  | none => exact .done trivial
  | some text =>
    exact unlessBlank_abides text none ((entityId_abides _).bind fun id _ => .done trivial)

/-- A priority that must be given is an integer that is there. -/
theorem priority_abides :
    (priority arguments).Abides (tool.terms context arguments known) fun _ =>
      tool.Supplies arguments (.integer "priority") :=
  (argument_abides _).bind fun _ hnumber =>
    (check_abides _).imp fun _ _ => supplies_integer hnumber

/-- One that need not be given is only read. -/
theorem priority?_abides :
    (priority? arguments).Abides (tool.terms context arguments known) fun _ => True := by
  refine (argument_abides _).bind fun number? _ => ?_
  cases number? with
  | none => exact .done trivial
  | some n => exact (check_abides _).bind fun priority _ => .done trivial

/-- A window is read from arguments that may be left out. -/
theorem window_abides :
    (window arguments).Abides (tool.terms context arguments known) fun _ => True :=
  (argument_abides _).bind fun _ _ => (argument_abides _).bind fun _ _ =>
    (check_abides _).imp fun _ _ => trivial

/-- The draft of a card takes a title and a priority, which must be given, and bears its creator. -/
theorem cardDraft_abides (creator : Uuid) :
    (cardDraft arguments creator).Abides (tool.terms context arguments known) fun draft =>
      tool.Supplies arguments (.text "title") ∧ tool.Supplies arguments (.integer "priority") ∧
        draft.creator = creator := by
  refine text_abides.bind fun title htitle => (argument_abides _).bind fun description _ => ?_
  refine priority_abides.bind fun priority hpriority => ?_
  refine (userId?_abides "assignee_id").bind fun assignee _ => ?_
  exact .done ⟨htitle, hpriority, rfl⟩

/-! ## The last access -/

/-- **The last access** of a tool that has been supplied with all that it requires. What has been
read on the way is gathered here. -/
theorem last_abides (access : Access) {fields : List Field}
    (hacts : access.isWrite = true → tool.Acts context arguments known access)
    (hsupplied : ∀ field ∈ fields, tool.Supplies arguments field) (hrequired : tool.required = fields)
    (tell : access.Result → Result) :
    ((ask access).bind fun result => done (tell result)).Abides (tool.terms context arguments known)
      fun _ => tool.Supplied arguments := by
  refine (abides_ask hacts fails_failed).bind fun _ _ => .done ?_
  unfold Supplied
  rw [hrequired]
  exact hsupplied

/-- **Something new** bears the identifier of the user for whom it is made. A tool that makes it has
no subject. -/
theorem acts_creating {access : Access} {user : User} (huser : context.requireEditor = .ok user)
    (hmakes : access.makes? = some (.artifact, user.id)) (hnone : tool.subject? = none) :
    tool.Acts context arguments known access where
  maker := ⟨user, huser, fun made hmade => by
    rw [hmakes] at hmade
    cases hmade
    rfl⟩
  subject kind key hsubject := by
    rw [hnone] at hsubject
    cases hsubject

/-- **A change** is one of what the subject of the tool names. It makes nothing new, and so it has
no maker. -/
theorem acts_changing {access : Access} {user : User} {kind : Kind} {id : Uuid}
    (huser : context.requireEditor = .ok user) (hmakes : access.makes? = none)
    (htool : tool.subject? = some (kind, key)) (hnames : Names known arguments key kind id)
    (haccess : access.subject? = some (kind, id)) : tool.Acts context arguments known access where
  maker := ⟨user, huser, fun made hmade => by
    rw [hmakes] at hmade
    cases hmade⟩
  subject other otherKey hsubject := by
    rw [htool] at hsubject
    cases hsubject
    exact ⟨id, hnames, haccess⟩

end

/-! ## The tools -/

variable (context : Context) (arguments : Arguments) (known : Kind → Lookup → Uuid → Prop)

/-- **One lemma for each action** follows, from its first argument to its last access. The fields
that it has read are those that its tool requires. -/
theorem createEpic_abides :
    (Action.createEpic context arguments).Abides (terms .createEpic context arguments known)
      fun _ => Tool.createEpic.Supplied arguments := by
  refine (check_abides _).bind fun creator hcreator => (cardDraft_abides creator.id).bind ?_
  rintro draft ⟨htitle, hpriority, hmaker⟩
  exact last_abides (.createEpic draft)
    (fun _ => acts_creating hcreator (congrArg (fun maker => some (Product.artifact, maker)) hmaker) rfl)
    (List.forall_mem_cons.2 ⟨htitle, List.forall_mem_singleton.2 hpriority⟩) rfl _

/-- A user story also names its epic, which is looked up. -/
theorem createUserStory_abides :
    (Action.createUserStory context arguments).Abides
      (terms .createUserStory context arguments known)
      fun _ => Tool.createUserStory.Supplied arguments := by
  refine (check_abides _).bind fun creator hcreator => (entityId_abides .epic).bind ?_
  rintro epic ⟨hepic, -⟩
  refine (cardDraft_abides creator.id).bind ?_
  rintro draft ⟨htitle, hpriority, hmaker⟩
  exact last_abides (.createStory epic draft)
    (fun _ => acts_creating hcreator (congrArg (fun maker => some (Product.artifact, maker)) hmaker) rfl)
    (List.forall_mem_cons.2 ⟨hepic, List.forall_mem_cons.2 ⟨htitle,
      List.forall_mem_singleton.2 hpriority⟩⟩) rfl _

/-- Acceptance criteria name their user story, and have a text that must be given. -/
theorem createAcceptanceCriteria_abides :
    (Action.createAcceptanceCriteria context arguments).Abides
      (terms .createAcceptanceCriteria context arguments known)
      fun _ => Tool.createAcceptanceCriteria.Supplied arguments := by
  refine (check_abides _).bind fun author hauthor => (entityId_abides .userStory).bind ?_
  rintro story ⟨hstory, -⟩
  refine text_abides.bind fun description hdescription => ?_
  exact last_abides (.createCriteria story description author.id)
    (fun _ => acts_creating hauthor rfl rfl)
    (List.forall_mem_cons.2 ⟨hstory, List.forall_mem_singleton.2 hdescription⟩) rfl _

/-- A requirement names its user story and says its type; the criteria are named if they are given.
-/
theorem createRequirement_abides :
    (Action.createRequirement context arguments).Abides
      (terms .createRequirement context arguments known)
      fun _ => Tool.createRequirement.Supplied arguments := by
  refine (check_abides _).bind fun creator hcreator => criteriaId?_abides.bind fun criteria _ => ?_
  refine (entityId_abides .userStory).bind ?_
  rintro story ⟨hstory, -⟩
  refine text_abides.bind fun title htitle => (argument_abides _).bind fun description _ => ?_
  refine priority_abides.bind fun priority hpriority => text_abides.bind fun written hwritten => ?_
  refine (check_abides _).bind fun type _ => (userId?_abides "assignee_id").bind fun assignee _ => ?_
  exact last_abides (.createRequirement
      ⟨⟨title, description, priority, creator.id, assignee⟩, story, criteria, type⟩)
    (fun _ => acts_creating hcreator rfl rfl)
    (List.forall_mem_cons.2 ⟨hstory, List.forall_mem_cons.2 ⟨htitle, List.forall_mem_cons.2
      ⟨hpriority, List.forall_mem_singleton.2 hwritten⟩⟩⟩) rfl _

/-- The three tools that change an artifact of the hierarchy. They require nothing but the name of
their subject. -/
theorem updateEntity_abides {tool : Tool} {kind : Kind} {key : String}
    (hsubject : tool.subject? = some (kind, key)) (hrequired : tool.required = [.text key]) :
    (Action.updateEntity context arguments kind key).Abides (tool.terms context arguments known)
      fun _ => tool.Supplied arguments := by
  refine (check_abides _).bind fun user huser => (entityId_abides kind).bind ?_
  rintro id ⟨hid, hnames⟩
  refine (argument_abides _).bind fun title _ => (argument_abides _).bind fun description _ => ?_
  refine priority?_abides.bind fun priority _ => (argument_abides _).bind fun status _ => ?_
  refine assigneeChange_abides.bind fun assignee _ => ?_
  exact last_abides (.updateEntity kind id ⟨title, description, priority, status, assignee⟩)
    (fun _ => acts_changing huser rfl hsubject hnames rfl)
    (List.forall_mem_singleton.2 hid) hrequired _

/-- A relationship has its source as subject, and its maker is the caller. -/
theorem createRelationship_abides :
    (Action.createRelationship context arguments).Abides
      (terms .createRelationship context arguments known)
      fun _ => Tool.createRelationship.Supplied arguments := by
  refine (check_abides _).bind fun creator hcreator => (entityId_abides .requirement).bind ?_
  rintro source ⟨hsource, hnames⟩
  refine (entityId_abides .requirement).bind ?_
  rintro target ⟨htarget, -⟩
  refine text_abides.bind fun written hwritten => (check_abides _).bind fun type _ => ?_
  refine last_abides (.createRelationship ⟨source, target, type, creator.id⟩) (fun _ => ?_)
    (List.forall_mem_cons.2 ⟨hsource, List.forall_mem_cons.2 ⟨htarget,
      List.forall_mem_singleton.2 hwritten⟩⟩) rfl _
  refine ⟨⟨creator, hcreator, ?_⟩, ?_⟩
  · rintro _ ⟨⟩
    rfl
  · rintro _ _ ⟨⟩
    exact ⟨source, hnames, rfl⟩

/-- A search only reads. -/
theorem searchGlobal_abides :
    (Action.searchGlobal arguments).Abides (terms .searchGlobal context arguments known)
      fun _ => Tool.searchGlobal.Supplied arguments := by
  refine (argument_abides _).bind fun names _ => (check_abides _).bind fun kinds _ => ?_
  refine text_abides.bind fun query hquery => window_abides.bind fun window _ => ?_
  exact last_abides (.search query kinds window) nofun (List.forall_mem_singleton.2 hquery) rfl _

/-- The search for requirements reads the same arguments, but for the kinds. -/
theorem searchRequirements_abides :
    (Action.searchRequirements arguments).Abides (terms .searchRequirements context arguments known)
      fun _ => Tool.searchRequirements.Supplied arguments := by
  refine text_abides.bind fun query hquery => window_abides.bind fun window _ => ?_
  exact last_abides (.search query [.requirement] window) nofun
    (List.forall_mem_singleton.2 hquery) rfl _

/-- Here the query must be given, and yet it may be blank. -/
theorem listSteeringDocuments_abides :
    (Action.listSteeringDocuments arguments).Abides
      (terms .listSteeringDocuments context arguments known)
      fun _ => Tool.listSteeringDocuments.Supplied arguments := by
  refine (userId?_abides "creator_id").bind fun creator _ => ?_
  refine (argument_abides _).bind fun query hquery => window_abides.bind fun window _ => ?_
  exact last_abides (.listDocuments query creator window) nofun
    (List.forall_mem_singleton.2 (supplies_anyText hquery ⟨rfl, rfl⟩)) rfl _

/-- A steering document has a title, and is made by the caller. -/
theorem createSteeringDocument_abides :
    (Action.createSteeringDocument context arguments).Abides
      (terms .createSteeringDocument context arguments known)
      fun _ => Tool.createSteeringDocument.Supplied arguments := by
  refine (check_abides _).bind fun creator hcreator => text_abides.bind fun title htitle => ?_
  refine (argument_abides _).bind fun description _ => ?_
  exact last_abides (.createDocument title description creator.id)
    (fun _ => acts_creating hcreator rfl rfl) (List.forall_mem_singleton.2 htitle) rfl _

/-- To get a document is to look it up. -/
theorem getSteeringDocument_abides :
    (Action.getSteeringDocument arguments).Abides
      (terms .getSteeringDocument context arguments known)
      fun _ => Tool.getSteeringDocument.Supplied arguments := by
  refine lookup_abides.bind ?_
  rintro lookup ⟨hsupplies, -⟩
  exact last_abides (.getDocument lookup) nofun (List.forall_mem_singleton.2 hsupplies) rfl _

/-- A document is changed after it has been looked up. -/
theorem updateSteeringDocument_abides :
    (Action.updateSteeringDocument context arguments).Abides
      (terms .updateSteeringDocument context arguments known)
      fun _ => Tool.updateSteeringDocument.Supplied arguments := by
  refine (check_abides _).bind fun actor hactor => documentId_abides.bind ?_
  rintro id ⟨hid, hnames⟩
  refine (argument_abides _).bind fun title _ => (argument_abides _).bind fun description _ => ?_
  exact last_abides (.updateDocument id title description actor)
    (fun _ => acts_changing hactor rfl rfl hnames rfl) (List.forall_mem_singleton.2 hid) rfl _

/-- A link has the document as its subject, and names an epic beside it. -/
theorem linkSteeringDocument_abides :
    (Action.linkSteeringDocument context arguments).Abides
      (terms .linkSteeringDocument context arguments known)
      fun _ => Tool.linkSteeringDocument.Supplied arguments := by
  refine (check_abides _).bind fun user huser => documentId_abides.bind ?_
  rintro document ⟨hdocument, hnames⟩
  refine (entityId_abides .epic).bind ?_
  rintro epic ⟨hepic, -⟩
  exact last_abides (.linkDocument document epic)
    (fun _ => acts_changing huser rfl rfl hnames rfl)
    (List.forall_mem_cons.2 ⟨hdocument, List.forall_mem_singleton.2 hepic⟩) rfl _

/-- It is named in the same way when it is taken out. -/
theorem unlinkSteeringDocument_abides :
    (Action.unlinkSteeringDocument context arguments).Abides
      (terms .unlinkSteeringDocument context arguments known)
      fun _ => Tool.unlinkSteeringDocument.Supplied arguments := by
  refine (check_abides _).bind fun user huser => documentId_abides.bind ?_
  rintro document ⟨hdocument, hnames⟩
  refine (entityId_abides .epic).bind ?_
  rintro epic ⟨hepic, -⟩
  exact last_abides (.unlinkDocument document epic)
    (fun _ => acts_changing huser rfl rfl hnames rfl)
    (List.forall_mem_cons.2 ⟨hdocument, List.forall_mem_singleton.2 hepic⟩) rfl _

/-- The documents of an epic are listed once the epic has been looked up. -/
theorem getEpicSteeringDocuments_abides :
    (Action.getEpicSteeringDocuments arguments).Abides
      (terms .getEpicSteeringDocuments context arguments known)
      fun _ => Tool.getEpicSteeringDocuments.Supplied arguments := by
  refine (entityId_abides .epic).bind ?_
  rintro epic ⟨hepic, -⟩
  exact last_abides (.listEpicDocuments epic) nofun (List.forall_mem_singleton.2 hepic) rfl _

/-- **Every tool abides by its terms**, and nothing comes of a call where something that the tool
requires is not supplied. Whatever is stated of all tools is read off here. -/
theorem call_abides (tool : Tool) :
    (call tool context arguments).Abides (tool.terms context arguments known)
      fun _ => tool.Supplied arguments := by
  cases tool with
  | createEpic => exact createEpic_abides context arguments known
  | updateEpic => exact updateEntity_abides context arguments known rfl rfl
  | createUserStory => exact createUserStory_abides context arguments known
  | updateUserStory => exact updateEntity_abides context arguments known rfl rfl
  | createAcceptanceCriteria => exact createAcceptanceCriteria_abides context arguments known
  | createRequirement => exact createRequirement_abides context arguments known
  | updateRequirement => exact updateEntity_abides context arguments known rfl rfl
  | createRelationship => exact createRelationship_abides context arguments known
  | searchGlobal => exact searchGlobal_abides context arguments known
  | searchRequirements => exact searchRequirements_abides context arguments known
  | listSteeringDocuments => exact listSteeringDocuments_abides context arguments known
  | createSteeringDocument => exact createSteeringDocument_abides context arguments known
  | getSteeringDocument => exact getSteeringDocument_abides context arguments known
  | updateSteeringDocument => exact updateSteeringDocument_abides context arguments known
  | linkSteeringDocument => exact linkSteeringDocument_abides context arguments known
  | unlinkSteeringDocument => exact unlinkSteeringDocument_abides context arguments known
  | getEpicSteeringDocuments => exact getEpicSteeringDocuments_abides context arguments known

end Tool

/-- A call of a tool abides by the terms of the tool. -/
theorem Server.callTool_abides {context : Context} {params : Option Json} {call : Tool.CallParams}
    (hcall : Tool.Params.toolCall? params = some call) {tool : Tool}
    (hname : Tool.ofName? call.name = some tool) (known : Kind → Lookup → Uuid → Prop) :
    (Server.callTool context params).Abides (tool.terms context call.arguments known)
      fun _ => tool.Supplied call.arguments := by
  simp only [Server.callTool, hcall, Tool.callNamed, hname]
  refine Job.Abides.bind ?_ fun _ hsupplied => .done hsupplied
  exact (Tool.call_abides context call.arguments known tool).within _ fun stop =>
    Tool.fails_failed stop.failure

end Planroom
