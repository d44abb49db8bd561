import Planroom.Proofs.Tool.AllOrNothing
import Planroom.Proofs.Tool.Conduct
import Planroom.Server.Methods

/-!
# What is advertised of the tools

A client knows of a tool what the list of tools says: its name, and in the schema of its argument the
members that are required and what they hold. Calling a tool is written without a look at that list,
and reads its arguments one by one. The two go together all the same.

* **The list** — `listedTools` is what a client is told, and `listedName`, `listedRequired` and
  `listedType` are what it reads there.
* **Names** — each name is listed once, and just the names that are listed are known.
* **Arguments** — where a call of a listed tool succeeds, everything that its schema requires was
  there, and was of the type that the schema says (`GivenAsListed`).
-/

namespace Planroom

/-- **Is a number this integer**, however it is written? -/
def Json.Number.Is (n : Int) : Json.Number → Prop
  | .int value => value = n
  | .real x => x.toInt? = some n

namespace Tool

open Job

/-! ## The list -/

/-- **The tools that a client is told of.** They are taken out of the reply to `tools/list`, as a
client would do it. -/
def listedTools : List Json :=
  match Json.get? "tools" Server.listTools with
  | some (.array tools) => tools
  | _ => []

/-- The name of a listed tool. -/
def listedName (listed : Json) : Option String :=
  (Json.get? "name" listed).bind Json.text?

/-- The members of its argument that a listed tool requires. What has no such list requires nothing.
-/
def listedRequired (listed : Json) : List String :=
  match (Json.get? "inputSchema" listed).bind (Json.get? "required") with
  | some (.array names) => names.filterMap Json.text?
  | _ => []

/-- What a member of its argument holds. -/
def listedType (listed : Json) (key : String) : Option String :=
  ((((Json.get? "inputSchema" listed).bind (Json.get? "properties")).bind
    (Json.get? key)).bind (Json.get? "type")).bind Json.text?

/-- **Is a member given as the list says?** A text is not blank, except for the query by which
documents are listed; an integer may be written as a number without a fractional part. No tool
requires anything else. -/
inductive GivenAsListed (listed : Json) (arguments : Arguments) (key : String) : Prop where
  | text (s : String) (htype : listedType listed key = some "string")
      (hgiven : Json.lookup key arguments = some (.string s))
      (hblank : Text.isBlankText s = true →
        listedName listed = some "list_steering_documents" ∧ key = "query")
  | integer (number : Json.Number) (n : Int) (htype : listedType listed key = some "integer")
      (hgiven : Json.lookup key arguments = some (.number number)) (hinteger : number.Is n)

/-- The reply lists all tools, in the order in which they are declared. -/
theorem listedTools_eq : listedTools = all.map toJson := rfl

/-- The name of a tool is read back from its listing. -/
theorem listedName_toJson (tool : Tool) : listedName tool.toJson = some tool.name := by
  rw [listedName, toJson]
  cases tool.isReadOnly <;> rfl

/-- And so is the schema of its argument. -/
theorem get?_inputSchema (tool : Tool) :
    Json.get? "inputSchema" tool.toJson = some tool.inputSchema := by
  rw [toJson]
  cases tool.isReadOnly <;> rfl

/-- What is listed as required are the required fields, by their names. -/
theorem listedRequired_toJson (tool : Tool) :
    listedRequired tool.toJson = tool.required.map (·.name) := by
  rw [listedRequired, get?_inputSchema]
  change (tool.requiredFields.map Json.string).filterMap Json.text? = _
  rw [List.filterMap_map]
  exact List.filterMap_some

/-- How the list writes what a field holds. -/
def FieldType.listedAs : FieldType → String
  | .text => "string"
  | .integer => "integer"
  | .textList => "array"

/-- **What a required member holds** is what the field of its name holds. It is a finite check, over
all tools and their required fields. -/
theorem listedType_of_required {tool : Tool} {field : Field} (h : field ∈ tool.required) :
    listedType tool.toJson field.name = some field.type.listedAs := by
  have hall : ∀ field ∈ tool.required,
      listedType tool.toJson field.name = some field.type.listedAs := by
    cases tool <;> decide +kernel
  exact hall field h

/-! ## Names -/

/-- The names that are listed are those of the tools. -/
theorem listedNames : listedTools.filterMap listedName = all.map name := by
  rw [listedTools_eq, List.filterMap_map]
  change all.filterMap (fun tool => listedName tool.toJson) = _
  simp only [listedName_toJson]
  exact congrFun List.filterMap_eq_map all

/-- A tool is found by a name exactly where the name is listed. Both come from one list of tools. -/
theorem ofName?_isSome_iff {key : String} :
    (ofName? key).isSome = true ↔ key ∈ listedTools.filterMap listedName := by
  rw [listedNames, ofName?, List.find?_isSome, List.mem_map]
  simp only [beq_iff_eq]

/-! ## Arguments -/

/-- A value that is read as an integer is a number, and is this integer, whether or not it is
written with a point. -/
theorem number_of_integral? {value : Json} {n : Int} (h : Argument.integral? value = some n) :
    ∃ number : Json.Number, value = .number number ∧ number.Is n := by
  unfold Argument.integral? at h
  split at h
  · next m =>
    split at h
    · cases h
      exact ⟨.int n, rfl, rfl⟩
    · cases h
  · next x =>
    exact ⟨.real x, rfl, (Option.filter_eq_some_iff.1 h).1⟩
  · cases h

/-- **What is supplied is given as the list says.** The one speaks of fields, and the other of what
stands in the list. -/
theorem givenAsListed_of_supplied {tool : Tool} {arguments : Arguments}
    (hsupplied : tool.Supplied arguments) {key : String}
    (hkey : key ∈ listedRequired tool.toJson) : GivenAsListed tool.toJson arguments key := by
  rw [listedRequired_toJson] at hkey
  obtain ⟨field, hfield, rfl⟩ := List.mem_map.1 hkey
  have htype := listedType_of_required hfield
  have hsupplies := hsupplied field hfield
  -- there is one case for each type that a field can have; no list is ever required
  unfold Supplies at hsupplies
  split at hsupplies
  · next hfieldType =>
    obtain ⟨s, hgiven, hblank⟩ := hsupplies
    rw [hfieldType] at htype
    refine .text s htype hgiven fun hs => ?_
    obtain ⟨rfl, hname⟩ := hblank hs
    exact ⟨listedName_toJson .listSteeringDocuments, hname⟩
  · next hfieldType =>
    obtain ⟨value, n, hgiven, hintegral⟩ := hsupplies
    obtain ⟨number, rfl, hinteger⟩ := number_of_integral? hintegral
    rw [hfieldType] at htype
    exact .integer number n htype hgiven hinteger
  · exact hsupplies.elim

variable (services : Services) (world : World) (context : Context) (arguments : Arguments)

/-- **How a call of a tool ends**: never because there is no such tool, and with success only where
all that it requires is supplied. It follows from the terms by which the tool abides. -/
theorem call_ends (tool : Tool) :
    ((call tool context arguments).start services world).Ends fun fate =>
      fate.Meets (fun _ => tool.Supplied arguments) fun error => ∀ text, error ≠ .methodNotFound text :=
  (call_abides context arguments (fun _ _ _ => True) tool).ends knows_anything services world

/-- A tool is called by its own name. -/
theorem callNamed_name (tool : Tool) :
    callNamed tool.name context arguments = call tool context arguments := by
  rw [callNamed, ofName?_name]

/-- **What is advertised is what is called.** The names in the list of tools are different from one
another. Whoever answers its accesses, whatever the store holds, whoever calls and with whatever
arguments: a call ends with the error that the tool is unknown exactly if its name is not in the list.
And if a call of a listed tool succeeds, then everything that the schema of its argument requires was
given, with the type that the schema says. -/
theorem calls_agree_with_listing :
    (listedTools.filterMap listedName).Nodup ∧
      (∀ name, ((callNamed name context arguments).start services world).Ends fun fate =>
        (fate = .returned (.error (.methodNotFound ("Unknown tool: " ++ name))) ↔
          name ∉ listedTools.filterMap listedName) ∧
        ((∃ text, fate = .returned (.error (.methodNotFound text))) →
          name ∉ listedTools.filterMap listedName)) ∧
      ∀ listed ∈ listedTools, ∀ name, listedName listed = some name →
        ((callNamed name context arguments).start services world).Ends fun fate =>
          ∀ result, fate = .returned (.ok result) →
            ∀ key ∈ listedRequired listed, GivenAsListed listed arguments key := by
  refine ⟨?_, fun name => ?_, ?_⟩
  · rw [listedNames]
    decide +kernel
  · cases hname : ofName? name with
    | none =>
      have hunlisted : name ∉ listedTools.filterMap listedName := by
        rw [← ofName?_isSome_iff, hname]
        exact Bool.false_ne_true
      rw [callNamed, hname]
      exact ⟨iff_of_true rfl hunlisted, fun _ => hunlisted⟩
    | some tool =>
      have hlisted : name ∈ listedTools.filterMap listedName := by
        rw [← ofName?_isSome_iff, hname]
        rfl
      rw [callNamed, hname]
      refine (call_ends services world context arguments tool).imp fun fate hmeets => ?_
      -- a tool that is known has no such error among its own
      have hknown : ∀ text, fate ≠ .returned (.error (.methodNotFound text)) := by
        rintro text rfl
        exact hmeets text rfl
      refine ⟨iff_of_false (hknown _) (not_not.2 hlisted), ?_⟩
      rintro ⟨text, htext⟩
      exact absurd htext (hknown text)
  · intro listed hlisted name hname
    rw [listedTools_eq] at hlisted
    obtain ⟨tool, -, rfl⟩ := List.mem_map.1 hlisted
    rw [listedName_toJson] at hname
    obtain rfl := Option.some.inj hname
    rw [callNamed_name]
    refine (call_ends services world context arguments tool).imp ?_
    rintro _ hsupplied result rfl key hkey
    exact givenAsListed_of_supplied hsupplied hkey

/-- A new epic, of which the priority is written with a fraction of zero. -/
def drafting : Arguments :=
  [("title", .string "Search"), ("priority", .number (.real ⟨false, 1, 0⟩))]

/-- An epic is created, with all that its schema requires; and there is no tool by which one is taken
away. -/
theorem calls_agree_with_listing_epics :
    let world : World := ⟨.initial [] [], 0, 0⟩
    let created := (callNamed "create_epic" editing drafting).start (.ofStore .nth) world
    let deleted := (callNamed "delete_epic" editing drafting).start (.ofStore .nth) world
    created.finish.value.isOk = true ∧
      listedRequired createEpic.toJson = ["title", "priority"] ∧
      GivenAsListed createEpic.toJson drafting "priority" ∧
      deleted.finish.value =
        .returned (.error (.methodNotFound "Unknown tool: delete_epic")) := by
  intro world created deleted
  obtain ⟨-, hnames, harguments⟩ :=
    calls_agree_with_listing (.ofStore .nth) world editing drafting
  have hcreated : created.finish.value.isOk = true := by decide +kernel
  obtain ⟨result, hresult⟩ := Fate.exists_of_isOk hcreated
  have hlisted : createEpic.toJson ∈ listedTools := List.mem_map_of_mem (mem_all .createEpic)
  have hgiven := (harguments createEpic.toJson hlisted "create_epic" rfl).finish result hresult
  refine ⟨hcreated, rfl, hgiven "priority" (by decide +kernel), ?_⟩
  refine (hnames "delete_epic").finish.1.2 ?_
  decide +kernel

end Tool

end Planroom
