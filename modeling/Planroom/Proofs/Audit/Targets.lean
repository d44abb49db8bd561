import Planroom.Audit.Record
import Planroom.Proofs.Json.Members
import Planroom.Proofs.Store.History
import Planroom.Proofs.Tool.AllOrNothing
import Planroom.Proofs.Tool.Conduct
import Planroom.Proofs.Work.AtOnce
import Planroom.Server.Methods

/-!
# What an audit record names

The record of a call tells which artifact the call was about. It is guessed: the kind is looked for in
the name of the tool, the identifier under a key or two among the arguments. What the tool itself does
with its arguments is written elsewhere.

* **Keys** — under a key that the tool has a field for, there is what the tool works on
  (`subject?_of_field`); and what the record finds there is what the tool reads
  (`exists_argument_of_record`).
* **Kept** — what the tool has looked up is found again in the store that the call leaves
  (`Moment.tells_of_extends`).
* **Targets** — `audited_artifact_is_touched`: the artifact that is named has been touched by the call,
  unless its name stands under a key that the tool has no field for. Such arguments are ignored by the
  tool, but not by the record.
-/

namespace Planroom

/-- **Has a write touched this artifact**, which it has created, changed, linked, unlinked, or made
the source of a relationship? The target of a relationship does not count: it is not looked for in a
record either. -/
def Access.Touches (access : Access) (result : access.Result) (kind : Kind) (id : Uuid) : Prop :=
  access.subject? = some (kind, id) ∨
    ∃ artifact, access.created? result = some artifact ∧ artifact.kind = kind ∧ artifact.id = id

namespace Tool

open Job

/-! ## Keys -/

/-- The keys under which a record looks for an artifact of the kind. -/
def recordedKeys (kind : Kind) : List String :=
  [kind.scheme ++ "_id", "source_requirement_id"]

/-- **Where the tool has a field for it**, the record looks under the key of what the tool works on.
There are so few tools and keys that all of them are checked. -/
theorem subject?_of_field {tool : Tool} (hwrites : tool.isReadOnly = false) {kind : Kind}
    (hkind : Audit.Record.kindOfTool tool.name = some kind) {key : String}
    (hkey : key ∈ recordedKeys kind) (hfield : key ∈ tool.fields.map (·.name)) :
    tool.subject? = some (kind, key) := by
  have hall : ∀ key ∈ recordedKeys kind, key ∈ tool.fields.map (·.name) →
      tool.subject? = some (kind, key) := by
    clear hkey hfield key
    cases tool <;> first | (cases hwrites; done) | (revert kind; decide +kernel)
  exact hall key hkey hfield

theorem of_call? {arguments data name task : Option Json} {call : CallParams}
    (h : Params.call? arguments data name task = some call) :
    name = some (.string call.name) ∧ Params.arguments? arguments = some call.arguments := by
  unfold Params.call? at h
  split at h
  · next harguments =>
    split at h
    · cases h
      exact ⟨rfl, harguments⟩
    · cases h
  · cases h

/-- **A record that names a kind** is made of an object. An array has no names, so a record finds no
tool in it and tells of no kind. -/
theorem of_toolCall? {params : Option Json} {call : CallParams}
    (hcall : Params.toolCall? params = some call) {kind : Kind}
    (hkind : (Audit.Record.ofParams params).resourceKind = some kind) :
    ∃ members, params = some (.object members) ∧
      Json.lookup "name" members = some (.string call.name) ∧
      Params.arguments? (Json.lookup "arguments" members) = some call.arguments := by
  unfold Params.toolCall? at hcall
  split at hcall
  · next members =>
    obtain ⟨hname, harguments⟩ := of_call? hcall
    exact ⟨members, rfl, hname, harguments⟩
  · cases hkind
  · cases hkind
  · cases hcall

/-- The identifier of a record stands under one of the keys that it is looked for under. -/
theorem exists_key_of_idOfArguments {kind : Kind} {members : Json.Members} {text : String}
    (h : Audit.Record.idOfArguments kind members = some text) :
    ∃ key ∈ recordedKeys kind, Json.lookup key members = some (.string text) := by
  obtain ⟨value, hvalue, htext⟩ := Option.bind_eq_some_iff.1 h
  obtain rfl : value = .string text := by
    cases value <;> cases htext
    rfl
  rcases Option.or_eq_some_iff.1 hvalue with hfirst | ⟨-, hsecond⟩
  · exact ⟨_, List.mem_cons_self, hfirst⟩
  · exact ⟨_, List.mem_cons_of_mem _ (List.mem_singleton_self _), hsecond⟩

/-- **What the record names is one of the arguments** with which the tool is called. The record
reads the arguments as they came, and the tool as they are read again; under a name there is the
same text. -/
theorem exists_argument_of_record {params : Option Json} {call : CallParams}
    (hcall : Params.toolCall? params = some call) {kind : Kind} {text : String}
    (hkind : (Audit.Record.ofParams params).resourceKind = some kind)
    (hid : (Audit.Record.ofParams params).resourceId = some text) :
    Audit.Record.kindOfTool call.name = some kind ∧
      ∃ key ∈ recordedKeys kind, Json.lookup key call.arguments = some (.string text) := by
  obtain ⟨members, rfl, hname, harguments⟩ := of_toolCall? hcall hkind
  have hkindOfName : Audit.Record.kindOfTool call.name = some kind := by
    rw [← hkind]
    simp only [Audit.Record.ofParams, Option.bind_some, Json.get?, hname, Json.text?,
      Option.getD_some]
  obtain ⟨found, hfound, hid⟩ := Option.bind_eq_some_iff.1 hid
  obtain ⟨written, hwritten, hid⟩ := Option.bind_eq_some_iff.1 hid
  obtain rfl := Option.some.inj (hkind.symm.trans hfound)
  obtain ⟨key, hkey, htext⟩ := exists_key_of_idOfArguments hid
  -- the arguments of the record are those that the call has read again
  have hobject : Json.lookup "arguments" members = some (.object written) := by
    unfold Audit.Record.argumentsOf at hwritten
    split at hwritten
    · next hgiven =>
      cases hwritten
      exact hgiven
    · cases hwritten
  rw [hobject] at harguments
  refine ⟨hkindOfName, key, hkey, ?_⟩
  rw [Json.lookup_expandMembers harguments, Option.getD_some, htext]
  rfl

/-! ## Kept -/

/-- **What is known for good**: that an artifact is found in a store. Artifacts are never taken
away, so this stays true of every later store. -/
def FoundIn (store : Store) (kind : Kind) (lookup : Lookup) (id : Uuid) : Prop :=
  ∃ artifact, store.fetch kind lookup = .ok artifact ∧ artifact.id = id

end Tool

/-- **A write that changes something** leaves everything where it was, whatever it is given from
outside. What creates something is not among these writes. -/
theorem Store.Extends.of_subject {store : Store} {access : Access} {subject : Kind × Uuid}
    (h : access.subject? = some subject) (stamp : Stamp) :
    store.Extends (store.after ⟨access, stamp⟩) := by
  cases access with
  | createRelationship draft =>
    have hnone : store.created? stamp (.createRelationship draft) = none := by
      unfold Store.created?
      split <;> rfl
    have heffect := Store.perform_effect store stamp (.createRelationship draft)
    rw [hnone] at heffect
    unfold Store.after
    revert heffect
    generalize (store.perform stamp (.createRelationship draft)).store = after
    intro heffect
    -- a relationship is the only thing that such a write may add, and it is on no shelf
    cases heffect with
    | nothing => exact .refl store
    | @related _ relationship =>
      have hshelf := Store.shelf_with_relationships store (store.relationships ++ [relationship])
      exact ⟨rfl, fun kind => Store.register_congr hshelf kind ▸ List.prefix_rfl⟩
  | updateEntity | updateDocument | linkDocument | unlinkDocument =>
    refine (Store.KeptIn.of_step ?_).toExtends
    rintro ⟨⟩
  | _ => cases h

/-- **What a turn has found** is found in any store that extends the one it met. Only the two
look-ups find anything. -/
theorem Moment.tells_of_extends {moment : Moment} {later : Store}
    (h : moment.world.store.Extends later) : moment.Tells (Tool.Knows (Tool.FoundIn later)) := by
  cases moment with
  | stopped => exact trivial
  | served access stamp world =>
    change Tool.Knows _ access (world.store.perform stamp access).answer
    cases hanswer : (world.store.perform stamp access).answer with
    | error failure => cases access <;> exact trivial
    | ok result =>
      cases access with
      | getEntity kind lookup =>
        have hfetch := Store.fetch_eq_ok_iff.2 (Store.findEntity_eq_ok_iff.1 hanswer)
        obtain ⟨again, hagain, hsame⟩ := h.fetch hfetch
        exact ⟨again, hagain, (congrArg Identity.id hsame).trans result.identity_id⟩
      | getDocument lookup =>
        have hfetch := Store.fetch_eq_ok_iff.2 (Store.findDocument_eq_ok_iff.1 hanswer)
        obtain ⟨again, hagain, hsame⟩ := h.fetch hfetch
        exact ⟨again, hagain, congrArg Identity.id hsame⟩
      | _ => exact trivial

namespace Server

open Job

/-! ## Calls -/

variable {context : Context} {params : Option Json} {call : Tool.CallParams} {world : World}
  {moments : List Moment} {fate : Fate CallError Json}

/-- **A call of a tool** is an errand of the tool, told in data. It returns in any case, for nothing
in a tool breaks off. -/
theorem callTool_course (hcall : Tool.Params.toolCall? params = some call)
    (hcourse : Course (callTool context params) world moments fate) :
    ∃ result, fate = .returned result ∧ Outcome (Tool.ServesNamed call.name) moments result := by
  simp only [callTool, hcall, bind_eq, pure_eq, run, within_map] at hcourse
  exact ((Tool.callNamed_runsErrand context call.arguments call.name).map _).course_within hcourse

/-- What comes of a call that is left alone is one of its courses. -/
theorem callTool_courseAlone (hcall : Tool.Params.toolCall? params = some call)
    (stamp : Nat → Stamp) :
    ∃ moments, Course (callTool context params) world moments
      ((callTool context params).exec (.ofStore stamp) world).value := by
  simp only [callTool, hcall, bind_eq, pure_eq, run, within_map]
  exact ((Tool.callNamed_runsErrand context call.arguments call.name).map _).courseAlone_within _

/-- **What a call has looked up** is found in the store that its last turn leaves. The turns before
are look-ups of the call and writes of others, and neither takes anything away. -/
theorem tells_of_course (hcourse : Course (callTool context params) world moments fate)
    {lookups : List Moment} {last : Moment} (hmoments : moments = lookups ++ [last])
    (hlookups : ∀ moment ∈ lookups, moment.writes = false) {later : Store}
    (hlast : last.world.store.Extends later) :
    ∀ moment ∈ moments, moment.Tells (Tool.Knows (Tool.FoundIn later)) := by
  obtain ⟨-, hextends⟩ := hcourse.extends hmoments fun moment hmem =>
    Moment.keepsStore_of_writes (hlookups moment hmem)
  intro moment hmem
  rw [hmoments] at hmem
  obtain hmem | hmem := List.mem_append.1 hmem
  · exact Moment.tells_of_extends ((hextends moment hmem).trans hlast)
  · rw [List.mem_singleton.1 hmem]
    exact Moment.tells_of_extends hlast

/-- **A write of a call** is one that the tool may make, as far as anything is known of what is
named. What is known is a parameter, since it depends on the store that is spoken of. -/
theorem acts_of_course (hcall : Tool.Params.toolCall? params = some call) {tool : Tool}
    (hname : Tool.ofName? call.name = some tool) (known : Kind → Lookup → Uuid → Prop)
    (hcourse : Course (callTool context params) world moments fate)
    (htold : ∀ moment ∈ moments, moment.Tells (Tool.Knows known)) {moment : Moment}
    (hmem : moment ∈ moments) (hwrite : moment.access.isWrite = true) :
    tool.Acts context call.arguments known moment.access :=
  ((callTool_abides hcall hname known).course hcourse htold).1 moment hmem hwrite

/-- **What a call is recorded to be about** it has touched: the argument that names it is the one
that the tool has worked on. -/
theorem touches_of_subject (hcall : Tool.Params.toolCall? params = some call) {tool : Tool}
    (hname : Tool.ofName? call.name = some tool) {lookups : List Moment} {access : Access}
    {stamp : Stamp} {last : World} {result : access.Result}
    (hcourse : Course (callTool context params) world (lookups ++ [.served access stamp last]) fate)
    (hlookups : ∀ moment ∈ lookups, moment.writes = false) (hwrite : access.isWrite = true)
    {kind : Kind} {key text : String} (hsubject : tool.subject? = some (kind, key))
    (hargument : Json.lookup key call.arguments = some (.string text)) :
    ∃ lookup artifact, Lookup.parse? text = some lookup ∧
      (last.answered stamp access).world.store.fetch kind lookup = .ok artifact ∧
      access.Touches result kind artifact.id := by
  have hmem : Moment.served access stamp last ∈ lookups ++ [.served access stamp last] :=
    List.mem_append_right _ (List.mem_singleton_self _)
  -- what kind of write this is has to be known before it is known that it keeps what was found
  have hany := acts_of_course hcall hname (fun _ _ _ => True) hcourse ?_ hmem hwrite
  · obtain ⟨_, -, hchanges⟩ := hany.subject kind key hsubject
    have htold := tells_of_course hcourse rfl hlookups (.of_subject hchanges stamp)
    obtain ⟨id, ⟨_, lookup, hnamed, hparse, artifact, hfound, rfl⟩, htouched⟩ :=
      (acts_of_course hcall hname _ hcourse htold hmem hwrite).subject kind key hsubject
    cases hargument.symm.trans hnamed
    exact ⟨lookup, artifact, hparse, hfound, .inl htouched⟩
  · intro moment _
    cases moment with
    | served access stamp world => exact Tool.knows_anything access _
    | stopped => exact trivial

/-- **An audit record names nothing that the call has not touched.** Let a tool that changes something be
called, with whatever parameters, while others have turns as they like, and let the call succeed. The
last of its turns is then a write that has succeeded. If the record of the call names an artifact, by
its kind and a text, one of two things is the case. Either in the store that the call leaves the text
designates an artifact of this kind, and the write has touched it: the artifact has been created,
changed, linked or unlinked, or made the source of a relationship. Or the text stands under a key that
the tool has no field for. -/
theorem audited_artifact_is_touched (hcall : Tool.Params.toolCall? params = some call) {tool : Tool}
    (hname : Tool.ofName? call.name = some tool) (hwrites : tool.isReadOnly = false) {reply : Json}
    (hcourse : Course (callTool context params) world moments (.returned (.ok reply))) :
    ∃ lookups access stamp last result, moments = lookups ++ [.served access stamp last] ∧
      (last.answered stamp access).answer = .ok result ∧
      ∀ kind text, (Audit.Record.ofParams params).resourceKind = some kind →
        (Audit.Record.ofParams params).resourceId = some text →
          (∃ lookup artifact, Lookup.parse? text = some lookup ∧
            (last.answered stamp access).world.store.fetch kind lookup = .ok artifact ∧
            access.Touches result kind artifact.id) ∨
          ∃ key, Json.lookup key call.arguments = some (.string text) ∧
            key ∉ tool.fields.map (·.name) := by
  obtain ⟨_, hfate, houtcome⟩ := callTool_course hcall hcourse
  cases hfate
  cases houtcome with
  | @succeeded lookups access stamp last _ hlookups hfinal hlast =>
    obtain ⟨result, hresult⟩ : ∃ result, (last.answered stamp access).answer = .ok result := by
      cases hanswer : (last.answered stamp access).answer with
      | ok result => exact ⟨result, rfl⟩
      | error failure =>
        rw [Moment.succeeds, hanswer] at hlast
        cases hlast
    refine ⟨lookups, access, stamp, last, result, rfl, hresult, fun kind text hkind hid => ?_⟩
    obtain ⟨hkindOfName, key, hkey, hargument⟩ := Tool.exists_argument_of_record hcall hkind hid
    obtain ⟨-, htool⟩ := of_find?_key hname
    rw [← htool] at hkindOfName
    by_cases hfield : key ∈ tool.fields.map (·.name)
    · obtain ⟨again, hagain, hserves⟩ := hfinal
      obtain rfl := Option.some.inj (hname.symm.trans hagain)
      have hwrite : access.isWrite = true := by
        rw [hserves, hwrites]
        rfl
      exact .inl (touches_of_subject hcall hname hcourse
        (fun moment hmem => (hlookups moment hmem).1) hwrite
        (Tool.subject?_of_field hwrites hkindOfName hkey hfield) hargument)
    · exact .inr ⟨key, hargument, hfield⟩

/-- The first epic gets another title, and the record of the call names it. -/
theorem audited_artifact_is_touched_retitling :
    let params := calling "update_epic" Tool.retitling
    ∃ moments reply, Course (callTool Tool.editing params) ⟨Store.withEpic, 0, 0⟩ moments
        (.returned (.ok reply)) ∧
      (Audit.Record.ofParams params).resourceKind = some .epic ∧
      (Audit.Record.ofParams params).resourceId = some "EP-001" ∧
      ∃ lookups access stamp last result, moments = lookups ++ [.served access stamp last] ∧
        ∃ lookup artifact, Lookup.parse? "EP-001" = some lookup ∧
          (last.answered stamp access).world.store.fetch .epic lookup = .ok artifact ∧
          access.Touches result .epic artifact.id := by
  intro params
  have hcall : Tool.Params.toolCall? params = some ⟨"update_epic", Tool.retitling⟩ := by rfl
  have hkind : (Audit.Record.ofParams params).resourceKind = some .epic := by decide +kernel
  have hid : (Audit.Record.ofParams params).resourceId = some "EP-001" := by decide +kernel
  obtain ⟨reply, hreply⟩ : ∃ reply, ((callTool Tool.editing params).exec (.ofStore .nth)
      ⟨Store.withEpic, 0, 0⟩).value = .returned (.ok reply) :=
    Fate.exists_of_isOk (by decide +kernel)
  obtain ⟨moments, hcourse⟩ := callTool_courseAlone hcall .nth
  rw [hreply] at hcourse
  obtain ⟨lookups, access, stamp, last, result, hmoments, -, hrecord⟩ :=
    audited_artifact_is_touched hcall (Tool.ofName?_name .updateEpic) rfl hcourse
  refine ⟨moments, reply, hcourse, hkind, hid, lookups, access, stamp, last, result, hmoments, ?_⟩
  rcases hrecord .epic "EP-001" hkind hid with htouched | ⟨key, hargument, hnoField⟩
  · exact htouched
  · -- the reference stands under no other key than the one that there is a field for
    have hkey : key = "epic_id" := by
      have hmem := Json.mem_of_lookup hargument
      simp only [Tool.retitling, List.mem_cons, Prod.mk.injEq, List.not_mem_nil, or_false] at hmem
      rcases hmem with ⟨hkey, -⟩ | ⟨-, htext⟩
      · exact hkey
      · exact absurd (Json.string.inj htext) (by decide)
    rw [hkey] at hnoField
    exact absurd (by decide +kernel) hnoField

/-- **A bystander is recorded.** A new epic is created, with an argument that the tool has no field
for. The record of the call names the epic that was there before; but all that the call has done is to
create another one, and the epic that was there is as it was. -/
theorem creation_records_bystander :
    let params := calling "create_epic"
      [("epic_id", .string "EP-001"), ("priority", .ofNat 2), ("title", .string "Search")]
    let world : World := ⟨Store.withEpic, 0, 9⟩
    let ended := (callTool Tool.editing params).exec (.ofStore .nth) world
    let creating : Access := .createEpic ⟨"Search", none, .high, (Stamp.nth 0).id, none⟩
    (Audit.Record.ofParams params).resourceKind = some .epic ∧
      (Audit.Record.ofParams params).resourceId = some "EP-001" ∧
      ended.value.isOk = true ∧ ended.state.store = world.store.after ⟨creating, .nth 9⟩ ∧
      ∃ result bystander, (world.answered (.nth 9) creating).answer = .ok result ∧
        Lookup.parse? "EP-001" = some (.byReference "EP-001") ∧
        world.store.fetch .epic (.byReference "EP-001") = .ok bystander ∧
        ended.state.store.fetch .epic (.byReference "EP-001") = .ok bystander ∧
        ¬ creating.Touches result .epic bystander.id := by
  intro params world ended creating
  obtain ⟨epic, hepic, hid⟩ : ∃ epic : Epic, (world.answered (.nth 9) creating).answer = .ok epic ∧
      (Artifact.entity (.epic epic)).id = (Stamp.nth 9).id := exists_answer_of_map (by decide +kernel)
  obtain ⟨bystander, hbystander, hother⟩ : ∃ bystander,
      world.store.fetch .epic (.byReference "EP-001") = .ok bystander ∧
        bystander.id = (Stamp.nth 1).id := exists_answer_of_map (by decide +kernel)
  have hkept : ended.state.store.fetch .epic (.byReference "EP-001") =
      world.store.fetch .epic (.byReference "EP-001") := by decide +kernel
  refine ⟨by decide +kernel, by decide +kernel, by decide +kernel, by decide +kernel, epic, bystander,
    hepic, by decide +kernel, hbystander, hkept.trans hbystander, ?_⟩
  rintro (hsubject | ⟨created, hcreated, -, hsame⟩)
  · cases hsubject
  · -- what has been created is filed under another identifier
    cases hcreated
    rw [hid, hother] at hsame
    exact absurd hsame (by decide +kernel)

end Server

end Planroom
