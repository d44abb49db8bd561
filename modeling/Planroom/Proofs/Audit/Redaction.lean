import Planroom.Rpc.Dispatch

/-!
# Nothing sensitive is logged

What is logged of a call is made of its parameters, and the record of a call is read from them as they
are, before anything is redacted. That no sensitive value gets into the log is a matter of two calls:
the log does not tell them apart.

* **Agreeing** — `Agree`: two values are the same everywhere but under sensitive names.
* **Redaction** — values that agree are redacted to the same (`redact_eq_of_agree`), and a value agrees
  with what it is redacted to (`agree_redact`). So redacting again changes nothing.
* **Places** — `valueAt?`: what is not held under a sensitive name stays in its place
  (`valueAt_redact`).
* **Records** — whatever a record is read from has a name that is not sensitive
  (`Agree.ofParams_eq`).
-/

namespace Planroom.Audit

/-! ## Agreeing -/

mutual

/-- **Do two values agree outside of what is sensitive?** They have the same shape, for redaction
does not change it; only under a sensitive name may one of them hold something else altogether. -/
inductive Agree : Json → Json → Prop where
  | same (value : Json) : Agree value value
  | array {items others : List Json} (h : AgreeItems items others) :
      Agree (.array items) (.array others)
  | object {members others : Json.Members} (h : AgreeMembers members others) :
      Agree (.object members) (.object others)

/-- Items that agree one by one. -/
inductive AgreeItems : List Json → List Json → Prop where
  | nil : AgreeItems [] []
  | cons {item other : Json} {items others : List Json} (h : Agree item other)
      (hrest : AgreeItems items others) : AgreeItems (item :: items) (other :: others)

/-- Members of the same names. Under a sensitive name there may be anything. -/
inductive AgreeMembers : Json.Members → Json.Members → Prop where
  | nil : AgreeMembers [] []
  | sensitive {name : String} (h : isSensitiveKey name = true) (value other : Json)
      {members others : Json.Members} (hrest : AgreeMembers members others) :
      AgreeMembers ((name, value) :: members) ((name, other) :: others)
  | plain (name : String) {value other : Json} (h : Agree value other)
      {members others : Json.Members} (hrest : AgreeMembers members others) :
      AgreeMembers ((name, value) :: members) ((name, other) :: others)

end

variable {name : String} {value other : Json} {members others : Json.Members}

/-! ## Redaction -/

mutual

/-- **Values that agree** are redacted to the same. So nothing that is logged of a value depends on
what is sensitive in it. -/
theorem redact_eq_of_agree {value other : Json} (h : Agree value other) :
    redact value = redact other := by
  cases h with
  | same => rfl
  | array h => rw [redact, redact, redactItems_eq_of_agree h]
  | object h => rw [redact, redact, redactMembers_eq_of_agree h]

theorem redactItems_eq_of_agree {items others : List Json} (h : AgreeItems items others) :
    redactItems items = redactItems others := by
  cases h with
  | nil => rfl
  | cons h hrest =>
    rw [redactItems, redactItems, redact_eq_of_agree h, redactItems_eq_of_agree hrest]

theorem redactMembers_eq_of_agree {members others : Json.Members}
    (h : AgreeMembers members others) : redactMembers members = redactMembers others := by
  cases h with
  | nil => rfl
  | sensitive hname value other hrest =>
    rw [redactMembers, redactMembers, redactMembers_eq_of_agree hrest, if_pos hname, if_pos hname]
  | plain name h hrest =>
    rw [redactMembers, redactMembers, redactMembers_eq_of_agree hrest, redact_eq_of_agree h]

end

mutual

/-- **Only what is sensitive is redacted**: a value agrees with what it is redacted to. Together
with the converse this says that redaction picks one of all the values that agree. -/
theorem agree_redact : ∀ value, Agree value (redact value)
  | .null | .bool _ | .number _ | .string _ => .same _
  | .array items => by
    rw [redact]
    exact .array (agree_redactItems items)
  | .object members => by
    rw [redact]
    exact .object (agree_redactMembers members)

theorem agree_redactItems : ∀ items, AgreeItems items (redactItems items)
  | [] => .nil
  | item :: rest => by
    rw [redactItems]
    exact .cons (agree_redact item) (agree_redactItems rest)

theorem agree_redactMembers : ∀ members, AgreeMembers members (redactMembers members)
  | [] => .nil
  | (name, value) :: rest => by
    rw [redactMembers]
    by_cases hname : isSensitiveKey name = true
    · exact .sensitive hname _ _ (agree_redactMembers rest)
    · rw [if_neg hname]
      exact .plain name (agree_redact value) (agree_redactMembers rest)

end

/-- **Redacting again** changes nothing. What was logged may be logged once more. -/
theorem redact_redact (value : Json) : redact (redact value) = redact value :=
  (redact_eq_of_agree (agree_redact value)).symm

/-! ## Places -/

/-- **A step** from a value to one that it holds, by the name of a member or by the place of an
item. -/
inductive Step where
  | member (name : String)
  | item (index : Nat)
  deriving DecidableEq, Repr

/-- **The value at a place**, which is reached by these steps. A step that cannot be taken leads
nowhere. -/
def valueAt? : List Step → Json → Option Json
  | [], value => some value
  | .member name :: path, value => (value.get? name).bind (valueAt? path)
  | .item index :: path, .array items => items[index]?.bind (valueAt? path)
  | .item _ :: _, _ => none

/-- **Is the place open**, that is, under no sensitive name? One sensitive name on the way is enough
to close it. -/
def IsOpen (path : List Step) : Prop :=
  ∀ name, .member name ∈ path → isSensitiveKey name = false

/-- What is held under a name that is not sensitive. -/
theorem lookup_redactMembers (hname : isSensitiveKey name = false) (members : Json.Members) :
    Json.lookup name (redactMembers members) = (Json.lookup name members).map redact := by
  induction members with
  | nil => rfl
  | cons member rest ih =>
    obtain ⟨first, value⟩ := member
    rw [redactMembers]
    by_cases hfirst : first = name
    · subst hfirst
      simp only [Json.lookup, List.find?_cons, beq_self_eq_true, hname, Option.map_some,
        Bool.false_eq_true, if_false]
    · have hother : (first == name) = false := beq_false_of_ne hfirst
      simp only [Json.lookup, List.find?_cons, hother] at ih ⊢
      exact ih

theorem redactItems_eq_map (items : List Json) : redactItems items = items.map redact := by
  induction items with
  | nil => rfl
  | cons item rest ih => rw [redactItems, ih, List.map_cons]

/-- **An open place** holds after redaction what it held before, redacted in turn. The value there
may hold sensitive names itself. -/
theorem valueAt_redact {path : List Step} (hopen : IsOpen path) (value : Json) :
    valueAt? path (redact value) = (valueAt? path value).map redact := by
  induction path generalizing value with
  | nil => rfl
  | cons step path ih =>
    have hrest : IsOpen path := fun name hmem => hopen name (List.mem_cons_of_mem _ hmem)
    cases step with
    | member name =>
      -- only an object has members, and what is none is redacted to itself or to an array
      have hget : (redact value).get? name = (value.get? name).map redact := by
        cases value with
        | object members =>
          rw [redact]
          exact lookup_redactMembers (hopen name List.mem_cons_self) members
        | null | bool | number | string | array => simp [redact, Json.get?]
      simp only [valueAt?, hget, Option.bind_map, Option.map_bind]
      exact congrArg _ (funext fun found => ih hrest found)
    | item index =>
      cases value with
      | array items =>
        simp only [redact, redactItems_eq_map, valueAt?, List.getElem?_map, Option.bind_map,
          Option.map_bind]
        exact congrArg _ (funext fun found => ih hrest found)
      | null | bool | number | string | object => simp [redact, valueAt?]

/-! ## Records -/

/-- Under a name that is not sensitive, what is found agrees. -/
theorem AgreeMembers.lookup (h : AgreeMembers members others)
    (hname : isSensitiveKey name = false) :
    Option.Rel Agree (Json.lookup name members) (Json.lookup name others) := by
  induction members generalizing others with
  | nil =>
    cases h
    exact .none
  | cons member rest ih =>
    obtain ⟨first, value⟩ := member
    by_cases hfirst : first = name
    · subst hfirst
      cases h with
      | sensitive hsensitive =>
        rw [hname] at hsensitive
        cases hsensitive
      | plain _ h hrest =>
        simp only [Json.lookup, List.find?_cons, beq_self_eq_true, Option.map_some]
        exact .some h
    · have hother : (first == name) = false := beq_false_of_ne hfirst
      cases h with
      | sensitive _ _ _ hrest | plain _ _ hrest =>
        simp only [Json.lookup, List.find?_cons, hother] at ih ⊢
        exact ih hrest

theorem Agree.get? (h : Agree value other) (hname : isSensitiveKey name = false) :
    Option.Rel Agree (value.get? name) (other.get? name) := by
  cases h with
  | same =>
    cases value.get? name with
    | none => exact .none
    | some found => exact .some (.same found)
  | array => exact .none
  | object h => exact h.lookup hname

/-- Values agree that are the same or missing. -/
theorem agreeMembers_same (members : Json.Members) : AgreeMembers members members := by
  induction members with
  | nil => exact .nil
  | cons member rest ih => exact .plain member.1 (.same member.2) ih

variable {first second : Option Json}

/-- What two calls have under a name that is not sensitive. -/
theorem get?_of_agree (h : Option.Rel Agree first second) (hname : isSensitiveKey name = false) :
    Option.Rel Agree (first.bind (Json.get? name)) (second.bind (Json.get? name)) := by
  cases h with
  | none => exact .none
  | some h => exact h.get? hname

/-- A text agrees with itself only. -/
theorem text?_of_agree (h : Option.Rel Agree first second) :
    first.bind Json.text? = second.bind Json.text? := by
  cases h with
  | none => rfl
  | some h => cases h <;> rfl

/-- The arguments of two calls. -/
theorem argumentsOf_of_agree (h : Option.Rel Agree first second) :
    Option.Rel AgreeMembers (Record.argumentsOf first) (Record.argumentsOf second) := by
  have hname : isSensitiveKey "arguments" = false := by decide
  have hfound := get?_of_agree h hname
  unfold Record.argumentsOf
  generalize first.bind (Json.get? "arguments") = found at hfound ⊢
  generalize second.bind (Json.get? "arguments") = other at hfound ⊢
  cases hfound with
  | none => exact .none
  | @some value _ h =>
    cases h with
    | array => exact .none
    | object h => exact .some h
    | same =>
      cases value with
      | object members => exact .some (agreeMembers_same members)
      | null | bool | number | string | array => exact .none

/-- **What identifies an artifact** is not sensitive. It is found under names that are made of the
scheme of a kind, and none of these is sensitive. -/
theorem AgreeMembers.idOfArguments_eq (h : AgreeMembers members others) (kind : Kind) :
    Record.idOfArguments kind members = Record.idOfArguments kind others := by
  have hkind : isSensitiveKey (kind.scheme ++ "_id") = false := by cases kind <;> decide
  have hsource : isSensitiveKey "source_requirement_id" = false := by decide
  have hnamed := h.lookup hkind
  refine text?_of_agree ?_
  generalize Json.lookup (kind.scheme ++ "_id") members = named at hnamed ⊢
  generalize Json.lookup (kind.scheme ++ "_id") others = other at hnamed ⊢
  cases hnamed with
  | none => exact h.lookup hsource
  | some h => exact .some h

/-- **The records of two calls** whose parameters agree are the same, although a record is made from
the parameters before they are redacted. -/
theorem ofParams_eq_of_agree (h : Option.Rel Agree first second) :
    Record.ofParams first = Record.ofParams second := by
  have hname : isSensitiveKey "name" = false := by decide
  have htool : (first.bind (Json.get? "name")).bind Json.text? =
      (second.bind (Json.get? "name")).bind Json.text? := text?_of_agree (get?_of_agree h hname)
  have harguments := argumentsOf_of_agree h
  unfold Record.ofParams
  rw [htool]
  generalize Record.argumentsOf first = members at harguments ⊢
  generalize Record.argumentsOf second = others at harguments ⊢
  cases harguments with
  | none => rfl
  | some h =>
    simp only [redact_eq_of_agree (.object h), Option.bind_eq_bind, Option.bind_some,
      h.idOfArguments_eq]

/-- The parameters of two calls as they are logged. -/
theorem redactParams_eq_of_agree (h : Option.Rel Agree first second) :
    redactParams first = redactParams second := by
  cases h with
  | none => rfl
  | some h => exact redact_eq_of_agree h

/-- **Nothing sensitive is logged.** Let the parameters of two calls agree everywhere but under
sensitive names. Then they are redacted to the same and have the same record. What is logged when the
calls come in is the same, and so is what is logged when they have come to the same result, the audit
included. Redacting a value again changes nothing; a value agrees with what it is redacted to, and at
each place under no sensitive name there is then what was there before, redacted in turn. -/
theorem sensitive_values_are_not_logged :
    (∀ first second : Option Json, Option.Rel Agree first second →
      redactParams first = redactParams second ∧
        Record.ofParams first = Record.ofParams second ∧
        (∀ context method id,
          Event.ofRequest context method id first = Event.ofRequest context method id second) ∧
        ∀ (σ : Type) (registry : Rpc.Registry σ) context id method spelling elapsed result,
          Rpc.closingEvents registry context ⟨id, method, first, spelling⟩ elapsed result =
            Rpc.closingEvents registry context ⟨id, method, second, spelling⟩ elapsed result) ∧
    ∀ value : Json, redact (redact value) = redact value ∧ Agree value (redact value) ∧
      ∀ path, IsOpen path → valueAt? path (redact value) = (valueAt? path value).map redact := by
  refine ⟨fun first second h => ?_, fun value => ?_⟩
  · have hparams := redactParams_eq_of_agree h
    have hrecord := ofParams_eq_of_agree h
    refine ⟨hparams, hrecord, fun context method id => ?_, ?_⟩
    · rw [Event.ofRequest, Event.ofRequest, hparams]
    · intro σ registry context id method spelling elapsed result
      simp only [Rpc.closingEvents, Event.ofCall, hrecord]
  · exact ⟨redact_redact value, agree_redact value, fun path hopen => valueAt_redact hopen value⟩

/-- A call with a token among its arguments. -/
def tokenCall (token : Json) : Json :=
  .object [("arguments", .object [("api_token", token), ("epic_id", .string "EP-001")]),
    ("name", .string "update_epic")]

/-- Whatever the token is, the call leaves the same record, and the epic that it is about stays in its
place. -/
theorem sensitive_values_are_not_logged_token :
    tokenCall (.string "hunter2") ≠ tokenCall .null ∧
      Record.ofParams (some (tokenCall (.string "hunter2"))) =
        Record.ofParams (some (tokenCall .null)) ∧
      valueAt? [.member "arguments", .member "epic_id"]
        (redact (tokenCall (.string "hunter2"))) = some (.string "EP-001") := by
  obtain ⟨hcalls, hvalues⟩ := sensitive_values_are_not_logged
  have htoken : isSensitiveKey "api_token" = true := by decide
  have hagree : Agree (tokenCall (.string "hunter2")) (tokenCall .null) :=
    .object (.plain "arguments"
      (.object (.sensitive htoken _ _ (agreeMembers_same [("epic_id", .string "EP-001")])))
      (agreeMembers_same [("name", .string "update_epic")]))
  have hopen : IsOpen [.member "arguments", .member "epic_id"] := by
    intro name hmem
    simp only [List.mem_cons, Step.member.injEq, List.not_mem_nil, or_false] at hmem
    obtain rfl | rfl := hmem <;> decide
  refine ⟨nofun, (hcalls _ _ (.some hagree)).2.1, ?_⟩
  rw [(hvalues _).2.2 _ hopen]
  simp [valueAt?, tokenCall, Json.get?, Json.lookup, redact]

end Planroom.Audit
