import Planroom.Proofs.Artifact.Lookup
import Planroom.Proofs.Tool.Errands
import Planroom.Proofs.Work.Same
import Planroom.Server.Methods

/-!
# Arguments with the same meaning

A tool keeps of an argument that names something nothing but what it names. So two sets of arguments
that mean the same come to the same, however the artifacts and users in them are named.

* **Meaning** — `MeansSame`: two values of an argument are the same value, or texts that name the same
  artifact, or texts that name the same user. Which of these they may be depends on the argument.
* **Reading** — arguments with the same meaning are read alike, one lemma for each reader.
* **Tools** — `call_sameIn`: every tool comes to the same with them, and so does every call
  (`callTool_of_meanSame`).
-/

namespace Planroom

namespace Store

variable {store : Store} {kind : Kind} {first second : Lookup} {artifact : Artifact}

/-- Two look-ups that find the same artifact find the same in the hierarchy. A failure would name
the text that was looked for, and so the look-ups have to succeed. -/
theorem findEntity_congr_lookup (hfirst : store.fetch kind first = .ok artifact)
    (hsecond : store.fetch kind second = .ok artifact) :
    store.findEntity kind first = store.findEntity kind second := by
  rw [fetch_eq_ok_iff] at hfirst hsecond
  cases artifact with
  | entity entity => rw [findEntity_eq_ok_iff.2 hfirst, findEntity_eq_ok_iff.2 hsecond]
  | document document =>
    -- there is no document on a shelf of the hierarchy
    obtain rfl : Kind.steeringDocument = kind := by
      rw [← Artifact.kind_document document]
      cases first with
      | byId id => exact store.kind_of_mem_shelf (Table.mem_of_get? hfirst)
      | byReference reference => exact store.kind_of_mem_values (of_find?_key hfirst).1
    rfl

/-- So they do among the steering documents. -/
theorem findDocument_congr_lookup (hfirst : store.fetch .steeringDocument first = .ok artifact)
    (hsecond : store.fetch .steeringDocument second = .ok artifact) :
    store.findDocument first = store.findDocument second := by
  rw [fetch] at hfirst hsecond
  cases hone : store.findDocument first with
  | error failure =>
    rw [hone] at hfirst
    cases hfirst
  | ok found =>
    cases htwo : store.findDocument second with
    | error failure =>
      rw [htwo] at hsecond
      cases hsecond
    | ok again =>
      rw [hone] at hfirst
      rw [htwo] at hsecond
      cases hfirst
      cases hsecond
      rfl

end Store

namespace Tool

open Job

/-- **The kind of what an argument names**, if it names an artifact. An argument of one name is of
one kind for all tools. -/
def namedKind? : String → Option Kind
  | "epic_id" => some .epic
  | "user_story_id" => some .userStory
  | "acceptance_criteria_id" => some .acceptanceCriteria
  | "requirement_id" | "source_requirement_id" | "target_requirement_id" => some .requirement
  | "steering_document_id" => some .steeringDocument
  | _ => none

/-- **Does an argument name a user?** -/
def NamesUser (key : String) : Prop :=
  key = "assignee_id" ∨ key = "creator_id"

/-- **Do two values of an argument mean the same** in a store? A text that names nothing means the
same as itself alone, since an error may repeat it. -/
inductive MeansSame (store : Store) (key : String) : Option Json → Option Json → Prop where
  | same (value : Option Json) : MeansSame store key value value
  | artifact {kind : Kind} {s t : String} {first second : Lookup} {artifact : Artifact}
      (hkey : namedKind? key = some kind)
      (hs : Lookup.parse? s = some first) (ht : Lookup.parse? t = some second)
      (hfirst : store.fetch kind first = .ok artifact)
      (hsecond : store.fetch kind second = .ok artifact) :
      MeansSame store key (some (.string s)) (some (.string t))
  | user {s t : String} {user : User} (hkey : NamesUser key)
      (hs : Text.isBlankText s = false) (ht : Text.isBlankText t = false)
      (hfirst : store.findUser s = .ok user) (hsecond : store.findUser t = .ok user) :
      MeansSame store key (some (.string s)) (some (.string t))

/-- **Do two sets of arguments mean the same**, one by one? Only what counts as given is compared,
so that null is the same as nothing. -/
def MeanSame (store : Store) (arguments others : Arguments) : Prop :=
  ∀ key, MeansSame store key (Argument.given arguments key) (Argument.given others key)

instance (key : String) : Decidable (NamesUser key) :=
  inferInstanceAs (Decidable (_ ∨ _))

variable {store : Store} {arguments others : Arguments} {key : String} {kind : Kind} {α β : Type}

/-- **Another text in the place of one argument.** If an earlier member has the same name, neither
text is looked at. -/
theorem given_replaced (key s t : String) (before after : Arguments) (other : String) :
    let arguments := before ++ (key, .string s) :: after
    let others := before ++ (key, .string t) :: after
    Argument.given arguments other = Argument.given others other ∨
      other = key ∧ Argument.given arguments other = some (.string s) ∧
        Argument.given others other = some (.string t) := by
  simp only [Argument.given, Json.lookup, List.find?_append, Option.map_or]
  cases Option.map (·.2) (before.find? (·.1 == other)) with
  | some first => exact .inl rfl
  | none =>
    by_cases hsame : key = other
    · subst hsame
      simp only [Option.none_or, List.find?_cons, beq_self_eq_true, Option.map_some]
      exact .inr ⟨trivial, rfl, rfl⟩
    · simp only [List.find?_cons, beq_eq_false_iff_ne.2 hsame]
      exact .inl trivial

/-- **What is kept of the user whom an argument names**, if it is given and not blank. The arguments
that name a user are read so. With this one reader they need one proof. -/
def userOr (arguments : Arguments) (key : String) (absent blank : α) (keep : User → α) :
    Job CallError α :=
  (argument (Argument.optionalText arguments key)).bind fun text? =>
    match text? with
    | none => done absent
    | some text =>
      if Text.isBlankText text then done blank
      else (ask (.findUser text)).bind fun user => done (keep user)

/-- An argument names an artifact or a user, and not both, so that the cases of `MeansSame` do not
overlap. -/
theorem not_namesUser (hkey : namedKind? key = some kind) : ¬ NamesUser key := by
  rintro (rfl | rfl) <;> cases hkey

/-- What is blank names no artifact. -/
theorem isBlankText_of_parse? {s : String} {lookup : Lookup} (h : Lookup.parse? s = some lookup) :
    Text.isBlankText s = false := by
  cases hblank : Text.isBlankText s with
  | false => rfl
  | true =>
    rw [Text.isBlankText_iff_trim] at hblank
    rw [Lookup.parse?, hblank] at h
    cases h

/-- An argument that names something is read as a look-up. -/
theorem lookup_of_parse? {s : String} {found : Lookup}
    (hgiven : Argument.given arguments key = some (.string s)) (h : Lookup.parse? s = some found) :
    lookup arguments key = .done found := by
  have htext : Argument.text arguments key = .ok s := by
    simp only [Argument.text, hgiven, isBlankText_of_parse? h, Bool.false_eq_true, if_false]
  rw [lookup, htext]
  simp only [argument, bind_eq, done_bind, h, pure_eq]

/-- Going on after the same argument. An argument that cannot be read is the same failure on both
sides. -/
theorem argument_sameIn {value other : Except Argument.Fault α} {f g : α → Job CallError β}
    (hvalue : value = other) (hnext : ∀ value, (f value).SameIn store (g value)) :
    ((argument value).bind f).SameIn store ((argument other).bind g) :=
  SameIn.andThen (.of_eq (congrArg argument hvalue)) (argument_inquires value) hnext

/-- Going on after the same check. -/
theorem check_sameIn {value : Except Failure α} {f g : α → Job CallError β}
    (hnext : ∀ value, (f value).SameIn store (g value)) :
    ((check value).bind f).SameIn store ((check value).bind g) :=
  (SameIn.refl store _).andThen (check_inquires value) hnext

/-- Going on after two look-ups that find the same. Nothing else of the look-ups is used later. -/
theorem entity_sameIn {first second : Lookup}
    (hsame : store.findEntity kind first = store.findEntity kind second)
    (next : Entity → Job CallError α) :
    ((ask (.getEntity kind first)).bind next).SameIn store
      ((ask (.getEntity kind second)).bind next) :=
  sameIn_access rfl rfl fun _ => .of_eq <|
    congrArg (fun answer => ((ofExcept answer).mapError CallError.failed).bind next) hsame

/-- It is so with a steering document. -/
theorem document_sameIn {first second : Lookup}
    (hsame : store.findDocument first = store.findDocument second)
    (next : SteeringDocument → Job CallError α) :
    ((ask (.getDocument first)).bind next).SameIn store ((ask (.getDocument second)).bind next) :=
  sameIn_access rfl rfl fun _ => .of_eq <|
    congrArg (fun answer => ((ofExcept answer).mapError CallError.failed).bind next) hsame

/-- And it is so with a user. -/
theorem user_sameIn {s t : String} (hsame : store.findUser s = store.findUser t)
    (next : User → Job CallError α) :
    ((ask (.findUser s)).bind next).SameIn store ((ask (.findUser t)).bind next) := by
  refine sameIn_access rfl rfl fun stamp => ?_
  rw [Store.answer_findUser, Store.answer_findUser, hsame]
  exact .refl store _

/-! ## Reading -/

namespace MeanSame

variable (h : MeanSame store arguments others)

include h

/-- An argument that names nothing is the same, as only names may be written in different ways. -/
theorem given_eq (hartifact : namedKind? key = none) (huser : ¬ NamesUser key) :
    Argument.given arguments key = Argument.given others key := by
  have hkey := h key
  generalize Argument.given arguments key = value at hkey ⊢
  generalize Argument.given others key = other at hkey ⊢
  cases hkey with
  | same => rfl
  | artifact hnamed =>
    rw [hartifact] at hnamed
    cases hnamed
  | user hnamed => exact absurd hnamed huser

/-- So whatever reads such an argument reads the same: this and the following lemmas say so for each
reader. -/
theorem text (hartifact : namedKind? key = none) (huser : ¬ NamesUser key) :
    Argument.text arguments key = Argument.text others key := by
  rw [Argument.text, Argument.text, h.given_eq hartifact huser]

theorem optionalText (hartifact : namedKind? key = none) (huser : ¬ NamesUser key) :
    Argument.optionalText arguments key = Argument.optionalText others key := by
  rw [Argument.optionalText, Argument.optionalText, h.given_eq hartifact huser]

theorem anyText (hartifact : namedKind? key = none) (huser : ¬ NamesUser key) :
    Argument.anyText arguments key = Argument.anyText others key := by
  rw [Argument.anyText, Argument.anyText, h.given_eq hartifact huser]

theorem textList (hartifact : namedKind? key = none) (huser : ¬ NamesUser key) :
    Argument.textList arguments key = Argument.textList others key := by
  rw [Argument.textList, Argument.textList, h.given_eq hartifact huser]

theorem optionalInteger (hartifact : namedKind? key = none) (huser : ¬ NamesUser key) :
    Argument.optionalInteger arguments key = Argument.optionalInteger others key := by
  rw [Argument.optionalInteger, Argument.optionalInteger, h.given_eq hartifact huser]

/-- A priority names nothing. -/
theorem priority : Tool.priority arguments = Tool.priority others := by
  rw [Tool.priority, Tool.priority, Argument.integer, Argument.integer,
    h.optionalInteger rfl (by decide)]

/-- Nor does one that may be left out. -/
theorem priority? : Tool.priority? arguments = Tool.priority? others := by
  rw [Tool.priority?, Tool.priority?, h.optionalInteger rfl (by decide)]

/-- Nor do the two numbers of a window. -/
theorem window : Tool.window arguments = Tool.window others := by
  rw [Tool.window, Tool.window, Argument.optionalCount, Argument.optionalCount,
    Argument.optionalCount, Argument.optionalCount, h.optionalInteger rfl (by decide),
    h.optionalInteger rfl (by decide)]

/-- **An argument that names an artifact** is read as the same look-up, or as look-ups that find the
same. -/
theorem lookup_cases (hkey : namedKind? key = some kind) :
    Argument.given arguments key = Argument.given others key ∨
      ∃ s t first second artifact, Argument.given arguments key = some (.string s) ∧
        Argument.given others key = some (.string t) ∧
        Lookup.parse? s = some first ∧ Lookup.parse? t = some second ∧
        store.fetch kind first = .ok artifact ∧ store.fetch kind second = .ok artifact := by
  have hmeans := h key
  generalize Argument.given arguments key = value at hmeans ⊢
  generalize Argument.given others key = other at hmeans ⊢
  cases hmeans with
  | same => exact .inl rfl
  | artifact hnamed hs ht hfirst hsecond =>
    rw [hkey] at hnamed
    cases hnamed
    exact .inr ⟨_, _, _, _, _, rfl, rfl, hs, ht, hfirst, hsecond⟩
  | user hnamed => exact absurd hnamed (not_namesUser hkey)

end MeanSame

/-- A look-up depends on the value of its argument alone. -/
theorem lookup_congr (hgiven : Argument.given arguments key = Argument.given others key) :
    lookup arguments key = lookup others key := by
  rw [lookup, lookup, Argument.text, Argument.text, hgiven]

namespace MeanSame

variable (h : MeanSame store arguments others)

include h

/-- **What an argument names** is the same, and only its identifier is kept. -/
theorem entityId_sameIn (hkey : namedKind? key = some kind) :
    (entityId arguments key kind).SameIn store (entityId others key kind) := by
  rw [entityId, entityId]
  obtain hgiven | ⟨s, t, first, second, artifact, hs, ht, hfirst, hsecond, hfound, hagain⟩ :=
    h.lookup_cases hkey
  · rw [lookup_congr hgiven]
    exact .refl store _
  · rw [lookup_of_parse? hs hfirst, lookup_of_parse? ht hsecond]
    exact entity_sameIn (Store.findEntity_congr_lookup hfound hagain) _

/-- Going on with the steering document that is named. -/
theorem document_sameIn (next : SteeringDocument → Job CallError α) :
    ((lookup arguments documentKey).bind fun lookup => (ask (.getDocument lookup)).bind next).SameIn
      store ((lookup others documentKey).bind fun lookup => (ask (.getDocument lookup)).bind next) := by
  have hkey : namedKind? documentKey = some .steeringDocument := rfl
  obtain hgiven | ⟨s, t, first, second, artifact, hs, ht, hfirst, hsecond, hfound, hagain⟩ :=
    h.lookup_cases hkey
  · rw [lookup_congr hgiven]
    exact .refl store _
  · rw [lookup_of_parse? hs hfirst, lookup_of_parse? ht hsecond]
    exact Tool.document_sameIn (Store.findDocument_congr_lookup hfound hagain) _

/-- It is the same with the document that is named. -/
theorem documentId_sameIn : (documentId arguments).SameIn store (documentId others) :=
  h.document_sameIn fun document => done document.id

/-- **The criteria that an argument names**, if it names some. A blank text names none, and that on
both sides. -/
theorem criteriaId?_sameIn :
    (Action.criteriaId? arguments).SameIn store (Action.criteriaId? others) := by
  have hkey : namedKind? "acceptance_criteria_id" = some .acceptanceCriteria := rfl
  obtain hgiven | ⟨s, t, first, second, artifact, hs, ht, hfirst, hsecond, -, -⟩ := h.lookup_cases hkey
  · rw [Action.criteriaId?, Action.criteriaId?, Argument.optionalText, Argument.optionalText, hgiven,
      entityId, entityId, lookup_congr hgiven]
    exact .refl store _
  · have htext : Argument.optionalText arguments "acceptance_criteria_id" = .ok (some s) := by
      rw [Argument.optionalText, hs]
    have hother : Argument.optionalText others "acceptance_criteria_id" = .ok (some t) := by
      rw [Argument.optionalText, ht]
    rw [Action.criteriaId?, Action.criteriaId?, htext, hother]
    simp only [argument, bind_eq, done_bind, isBlankText_of_parse? hfirst,
      isBlankText_of_parse? hsecond, Bool.false_eq_true, if_false]
    exact (h.entityId_sameIn hkey).followedBy _

/-- **An argument that names a user** is the same, or both texts are those of one user. -/
theorem user_cases (hkey : NamesUser key) :
    Argument.optionalText arguments key = Argument.optionalText others key ∨
      ∃ s t, Argument.optionalText arguments key = .ok (some s) ∧
        Argument.optionalText others key = .ok (some t) ∧
        Text.isBlankText s = false ∧ Text.isBlankText t = false ∧
        store.findUser s = store.findUser t := by
  have hmeans := h key
  rw [Argument.optionalText, Argument.optionalText]
  generalize Argument.given arguments key = value at hmeans ⊢
  generalize Argument.given others key = other at hmeans ⊢
  cases hmeans with
  | same => exact .inl rfl
  | artifact hnamed => exact absurd hkey (not_namesUser hnamed)
  | user _ hs ht hfirst hsecond =>
    exact .inr ⟨_, _, rfl, rfl, hs, ht, hfirst.trans hsecond.symm⟩

/-- What is kept of a user is the same, as it is the same user. -/
theorem userOr_sameIn (hkey : NamesUser key) (absent blank : α) (keep : User → α) :
    (userOr arguments key absent blank keep).SameIn store (userOr others key absent blank keep) := by
  rw [userOr, userOr]
  obtain hsame | ⟨s, t, hs, ht, hfirst, hsecond, huser⟩ := h.user_cases hkey
  · rw [hsame]
    exact .refl store _
  · rw [hs, ht]
    simp only [argument, done_bind, hfirst, hsecond, Bool.false_eq_true, if_false]
    exact user_sameIn huser _

/-- An argument for a user is read by `userOr`. -/
theorem userId?_sameIn (hkey : NamesUser key) :
    (userId? arguments key).SameIn store (userId? others key) :=
  h.userOr_sameIn hkey none none fun user => some user.id

/-- And so is the argument for an assignee. -/
theorem assigneeChange_sameIn : (assigneeChange arguments).SameIn store (assigneeChange others) :=
  h.userOr_sameIn (.inl rfl) AssigneeChange.keep .unassign fun user => .assign user.id

/-- The draft of a card is the same; of what it reads, only the assignee is named. -/
theorem cardDraft_sameIn (creator : Uuid) :
    (cardDraft arguments creator).SameIn store (cardDraft others creator) := by
  rw [cardDraft, cardDraft, h.priority]
  refine argument_sameIn (h.text rfl (by decide)) fun title => ?_
  refine argument_sameIn (h.optionalText rfl (by decide)) fun description => ?_
  refine (SameIn.refl store _).andThen (priority_inquires others) fun priority => ?_
  exact (h.userId?_sameIn (.inl rfl)).followedBy _

end MeanSame

/-! ## The tools -/

namespace MeanSame

variable (h : MeanSame store arguments others) (context : Context)

include h

/-- **One lemma for each action** follows. Each goes through the arguments in the order in which the
action reads them. -/
theorem createEpic_sameIn :
    (Action.createEpic context arguments).SameIn store (Action.createEpic context others) :=
  check_sameIn fun creator =>
    (h.cardDraft_sameIn creator.id).followedBy _

/-- A user story names its epic and maybe an assignee. -/
theorem createUserStory_sameIn :
    (Action.createUserStory context arguments).SameIn store
      (Action.createUserStory context others) := by
  refine check_sameIn fun creator => ?_
  refine (h.entityId_sameIn rfl).andThen (entityId_inquires arguments _ _) fun epic => ?_
  exact (h.cardDraft_sameIn creator.id).followedBy _

/-- Acceptance criteria name their user story. -/
theorem createAcceptanceCriteria_sameIn :
    (Action.createAcceptanceCriteria context arguments).SameIn store
      (Action.createAcceptanceCriteria context others) := by
  refine check_sameIn fun author => ?_
  refine (h.entityId_sameIn rfl).andThen (entityId_inquires arguments _ _) fun story => ?_
  exact argument_sameIn (h.text rfl (by decide)) fun description => .refl store _

/-- A requirement may name most: criteria, a user story and an assignee. -/
theorem createRequirement_sameIn :
    (Action.createRequirement context arguments).SameIn store
      (Action.createRequirement context others) := by
  refine check_sameIn fun creator => ?_
  refine h.criteriaId?_sameIn.andThen (criteriaId?_inquires arguments) fun criteria => ?_
  refine (h.entityId_sameIn rfl).andThen (entityId_inquires arguments _ _) fun story => ?_
  refine argument_sameIn (h.text rfl (by decide)) fun title => ?_
  refine argument_sameIn (h.optionalText rfl (by decide)) fun description => ?_
  rw [h.priority]
  refine (SameIn.refl store _).andThen (priority_inquires others) fun priority => ?_
  refine argument_sameIn (h.text rfl (by decide)) fun written => check_sameIn fun type => ?_
  exact (h.userId?_sameIn (.inl rfl)).followedBy _

/-- The three tools that change an artifact of the hierarchy. What is changed is named, and so may
be an assignee. -/
theorem updateEntity_sameIn (hkey : namedKind? key = some kind) :
    (Action.updateEntity context arguments kind key).SameIn store
      (Action.updateEntity context others kind key) := by
  refine check_sameIn fun _ => ?_
  refine (h.entityId_sameIn hkey).andThen (entityId_inquires arguments _ _) fun id => ?_
  refine argument_sameIn (h.optionalText rfl (by decide)) fun title => ?_
  refine argument_sameIn (h.optionalText rfl (by decide)) fun description => ?_
  rw [h.priority?]
  refine (SameIn.refl store _).andThen (priority?_inquires others) fun priority => ?_
  refine argument_sameIn (h.optionalText rfl (by decide)) fun status => ?_
  exact h.assigneeChange_sameIn.followedBy _

/-- A relationship names two requirements. -/
theorem createRelationship_sameIn :
    (Action.createRelationship context arguments).SameIn store
      (Action.createRelationship context others) := by
  refine check_sameIn fun creator => ?_
  refine (h.entityId_sameIn rfl).andThen (entityId_inquires arguments _ _) fun source => ?_
  refine (h.entityId_sameIn rfl).andThen (entityId_inquires arguments _ _) fun target => ?_
  exact argument_sameIn (h.text rfl (by decide)) fun written => check_sameIn fun type =>
    .refl store _

/-- A search names nothing, and its arguments are the same. -/
theorem searchGlobal_sameIn :
    (Action.searchGlobal arguments).SameIn store (Action.searchGlobal others) := by
  refine argument_sameIn (h.textList rfl (by decide)) fun names => check_sameIn fun kinds => ?_
  refine argument_sameIn (h.text rfl (by decide)) fun query => ?_
  rw [h.window]
  exact .refl store _

/-- Nor does the search for requirements name anything. -/
theorem searchRequirements_sameIn :
    (Action.searchRequirements arguments).SameIn store (Action.searchRequirements others) := by
  refine argument_sameIn (h.text rfl (by decide)) fun query => ?_
  rw [h.window]
  exact .refl store _

/-- The listing of documents may name their creator. -/
theorem listSteeringDocuments_sameIn :
    (Action.listSteeringDocuments arguments).SameIn store (Action.listSteeringDocuments others) := by
  refine (h.userId?_sameIn (.inr rfl)).andThen (userId?_inquires arguments _) fun creator => ?_
  refine argument_sameIn (h.anyText rfl (by decide)) fun query => ?_
  rw [h.window]
  exact .refl store _

/-- A new steering document names nothing. -/
theorem createSteeringDocument_sameIn :
    (Action.createSteeringDocument context arguments).SameIn store
      (Action.createSteeringDocument context others) := by
  refine check_sameIn fun creator => ?_
  refine argument_sameIn (h.text rfl (by decide)) fun title => ?_
  exact argument_sameIn (h.optionalText rfl (by decide)) fun description => .refl store _

/-- To get a document is to name it. -/
theorem getSteeringDocument_sameIn :
    (Action.getSteeringDocument arguments).SameIn store (Action.getSteeringDocument others) :=
  h.document_sameIn fun document =>
    done (Result.mk ("Steering document " ++ document.reference ++ ": " ++ document.title)
      document.toJson)

/-- To change a document is to name it and to give it texts. -/
theorem updateSteeringDocument_sameIn :
    (Action.updateSteeringDocument context arguments).SameIn store
      (Action.updateSteeringDocument context others) := by
  refine check_sameIn fun actor => ?_
  refine h.documentId_sameIn.andThen (documentId_inquires arguments) fun id => ?_
  refine argument_sameIn (h.optionalText rfl (by decide)) fun title => ?_
  exact argument_sameIn (h.optionalText rfl (by decide)) fun description => .refl store _

/-- A link names a document and an epic. -/
theorem linkSteeringDocument_sameIn :
    (Action.linkSteeringDocument context arguments).SameIn store
      (Action.linkSteeringDocument context others) := by
  refine check_sameIn fun _ => ?_
  refine h.documentId_sameIn.andThen (documentId_inquires arguments) fun document => ?_
  exact (h.entityId_sameIn rfl).followedBy _

/-- And so does taking one out. -/
theorem unlinkSteeringDocument_sameIn :
    (Action.unlinkSteeringDocument context arguments).SameIn store
      (Action.unlinkSteeringDocument context others) := by
  refine check_sameIn fun _ => ?_
  refine h.documentId_sameIn.andThen (documentId_inquires arguments) fun document => ?_
  exact (h.entityId_sameIn rfl).followedBy _

/-- The documents of an epic are asked for by its name. -/
theorem getEpicSteeringDocuments_sameIn :
    (Action.getEpicSteeringDocuments arguments).SameIn store
      (Action.getEpicSteeringDocuments others) :=
  (h.entityId_sameIn rfl).followedBy _

/-- **Every tool comes to the same** with arguments that mean the same, in its answer, in the world
that it leaves and in what is logged on the way. -/
theorem call_sameIn (tool : Tool) :
    (call tool context arguments).SameIn store (call tool context others) := by
  cases tool with
  | createEpic => exact h.createEpic_sameIn context
  | updateEpic => exact h.updateEntity_sameIn context rfl
  | createUserStory => exact h.createUserStory_sameIn context
  | updateUserStory => exact h.updateEntity_sameIn context rfl
  | createAcceptanceCriteria => exact h.createAcceptanceCriteria_sameIn context
  | createRequirement => exact h.createRequirement_sameIn context
  | updateRequirement => exact h.updateEntity_sameIn context rfl
  | createRelationship => exact h.createRelationship_sameIn context
  | searchGlobal => exact h.searchGlobal_sameIn
  | searchRequirements => exact h.searchRequirements_sameIn
  | listSteeringDocuments => exact h.listSteeringDocuments_sameIn
  | createSteeringDocument => exact h.createSteeringDocument_sameIn context
  | getSteeringDocument => exact h.getSteeringDocument_sameIn
  | updateSteeringDocument => exact h.updateSteeringDocument_sameIn context
  | linkSteeringDocument => exact h.linkSteeringDocument_sameIn context
  | unlinkSteeringDocument => exact h.unlinkSteeringDocument_sameIn context
  | getEpicSteeringDocuments => exact h.getEpicSteeringDocuments_sameIn

/-- So does the tool with a name, if there is one. -/
theorem callNamed_sameIn (name : String) :
    (callNamed name context arguments).SameIn store (callNamed name context others) := by
  rw [callNamed, callNamed]
  cases ofName? name with
  | some tool => exact h.call_sameIn context tool
  | none => exact .refl store _

end MeanSame

end Tool

/-- **Under the limits of its context** a call comes to the same with arguments that mean the same.
Nothing is supposed of the two texts of an argument but what they mean. -/
theorem Server.callTool_of_meanSame {world : World} {params again : Option Json} {name : String}
    {arguments others : Tool.Arguments}
    (hparams : Tool.Params.toolCall? params = some ⟨name, arguments⟩)
    (hagain : Tool.Params.toolCall? again = some ⟨name, others⟩)
    (h : Tool.MeanSame world.store arguments others) (context : Context) (stamp : Nat → Stamp) :
    (Server.callTool context params).exec (.ofStore stamp) world =
      (Server.callTool context again).exec (.ofStore stamp) world := by
  have hcall := (h.callNamed_sameIn context name).within context.limits
    fun stop => .failed stop.failure
  rw [Server.callTool, Server.callTool, hparams, hagain]
  exact hcall.followedBy (fun result => Job.done result.toJson) stamp world rfl

end Planroom
