import Planroom.Proofs.Server.Handshake
import Planroom.Proofs.Work.Hearing
import Planroom.Server.Methods

/-!
# Connecting without prompts

A client that connects is told what prompts there are, but it is not turned away where they cannot be
had: they may not be listed, or not in time, and the active one may be missing. Whether the client may
connect is a matter of what it says, and of nothing else.

* **Looking up** — the two look-ups of a connection always end with a value, whatever is heard
  (`hasPrompts_hears`, `instructions_hears`).
* **Being told** — `Connected`: how a connection ends, and what the client is told, for what was heard.
  `connected_of_hears`: so it is whatever anybody answers, and whenever.
* **Coming to an end** — `connect_answerable`: nobody has to answer, provided that the limits of the
  context run out.
-/

namespace Planroom.Server

variable {context : Context} {params : Option Json} {heard : List Hearing}

/-! ## Looking up -/

/-- **What the active prompt says**, if there is one and it was found. Otherwise nothing is said,
which is not told apart from a prompt that says nothing. -/
def contentOf : Option (Option Prompt) → String
  | some (some prompt) => prompt.content
  | _ => ""

theorem hasPrompts_hears {fate : Fate CallError Bool} (h : (hasPrompts context).Hears heard fate) :
    ∃ listed : Option (List Prompt), Looked context.limits .listPrompts heard listed ∧
      fate = .returned (.ok (listed.any (!·.isEmpty))) := by
  obtain ⟨first, rest, result, rfl, hlooked, hrest⟩ := h.of_lookUp
  have hended : rest = [] ∧ fate = .returned (.ok (result.toOption.any (!·.isEmpty))) := by
    cases result <;> exact hrest.of_done
  obtain ⟨rfl, rfl⟩ := hended
  rw [List.append_nil]
  exact ⟨_, hlooked, rfl⟩

theorem instructions_hears {fate : Fate CallError String}
    (h : (instructions context).Hears heard fate) :
    ∃ active : Option (Option Prompt), Looked context.limits .activePrompt heard active ∧
      fate = .returned (.ok (contentOf active)) := by
  obtain ⟨first, rest, result, rfl, hlooked, hrest⟩ := h.of_lookUp
  have hended : rest = [] ∧ fate = .returned (.ok (contentOf result.toOption)) := by
    rcases result with failure | _ | prompt <;> exact hrest.of_done
  obtain ⟨rfl, rfl⟩ := hended
  rw [List.append_nil]
  exact ⟨_, hlooked, rfl⟩

/-! ## Being told -/

/-- **What a client is told** that may connect: the version that it has offered, that there are
prompts, and what the active one says. Each of the two is looked up once, the list first, and a
look-up that came to nothing counts as an empty one. -/
inductive Welcomed (limits : Planroom.Limits) (version : Version) : List Hearing → Json → Prop where
  | mk {first rest : List Hearing} {listed : Option (List Prompt)} {active : Option (Option Prompt)}
      {value : Json} (hlisted : Looked limits .listPrompts first listed)
      (hactive : Looked limits .activePrompt rest active)
      (hversion : value.get? "protocolVersion" = some (.string version.date))
      (hprompts : ((value.get? "capabilities").bind (Json.get? "prompts")).isSome = true ↔
        ∃ prompts, listed = some prompts ∧ prompts ≠ [])
      (hinstructions : value.get? "instructions" = some (.string (contentOf active))) :
      Welcomed limits version (first ++ rest) value

/-- **How a connection ends**: whether it succeeds is seen from what the client says. What was heard
of the prompts decides only what it is told. -/
structure Connected (context : Context) (params : Option Json) (heard : List Hearing)
    (fate : Fate CallError Json) : Prop where
  returns : ∃ result, fate = .returned result
  succeeds : (∃ value, fate = .returned (.ok value)) ↔ ∃ version, Greets params version
  told : ∀ {version value}, Greets params version → fate = .returned (.ok value) →
    Welcomed context.limits version heard value

theorem greeting_prompts (version : Version) (hasPrompts : Bool) (instructions : String) :
    (((greeting version hasPrompts instructions).get? "capabilities").bind
      (Json.get? "prompts")).isSome = hasPrompts := by
  cases hasPrompts <;> rfl

theorem any_not_isEmpty_iff {listed : Option (List Prompt)} :
    listed.any (!·.isEmpty) = true ↔ ∃ prompts, listed = some prompts ∧ prompts ≠ [] := by
  cases listed with
  | none => simp
  | some prompts => simp

/-- A client that does not say what it has to say is turned away, and nothing is looked up for it.
Its error comes at once. -/
theorem connect_of_not_greets (context : Context) (h : ¬ ∃ version, Greets params version) :
    ∃ error, connect context params = .fail error := by
  rw [connect]
  cases hversion : Version.negotiate params with
  | error error => exact ⟨error, rfl⟩
  | ok version =>
    cases hinfo : checkClientInfo params with
    | error error => exact ⟨error, rfl⟩
    | ok _ => exact absurd ⟨version, negotiate_and_checkClientInfo_iff.1 ⟨hversion, hinfo⟩⟩ h

theorem connect_of_greets {version : Version} (h : Greets params version) :
    connect context params = (hasPrompts context).bind fun prompts =>
      (instructions context).bind fun content => .done (greeting version prompts content) := by
  obtain ⟨hversion, hinfo⟩ := negotiate_and_checkClientInfo_iff.2 h
  rw [connect, hversion, hinfo]
  rfl

/-- The version is the one that the client has offered. -/
theorem Greets.unique {version other : Version} (h : Greets params version)
    (hother : Greets params other) : version = other := by
  have hversion := (negotiate_and_checkClientInfo_iff.2 h).1
  rw [(negotiate_and_checkClientInfo_iff.2 hother).1] at hversion
  cases hversion
  rfl

/-- **What is heard of the prompts does not decide whether a client may connect.** Each look-up
turns whatever it hears into a value, and no failure gets past it. -/
theorem connected_of_hears {fate : Fate CallError Json}
    (h : (connect context params).Hears heard fate) : Connected context params heard fate := by
  by_cases hgreets : ∃ version, Greets params version
  · obtain ⟨version, hversion⟩ := hgreets
    rw [connect_of_greets hversion] at h
    -- what is heard is parted where the first look-up ends and the second begins
    obtain ⟨first, rest, prompts, rfl, hfirst, hrest⟩ := h.of_bind_sure fun heard fate h => by
      obtain ⟨listed, -, hfate⟩ := hasPrompts_hears h
      exact ⟨_, hfate⟩
    obtain ⟨second, last, content, rfl, hsecond, hlast⟩ := hrest.of_bind_sure fun heard fate h => by
      obtain ⟨active, -, hfate⟩ := instructions_hears h
      exact ⟨_, hfate⟩
    obtain ⟨listed, hlisted, hprompts⟩ := hasPrompts_hears hfirst
    obtain ⟨active, hactive, hcontent⟩ := instructions_hears hsecond
    obtain ⟨rfl, rfl⟩ := hlast.of_done
    cases hprompts
    cases hcontent
    refine ⟨⟨_, rfl⟩, ⟨fun _ => ⟨version, hversion⟩, fun _ => ⟨_, rfl⟩⟩, ?_⟩
    intro offered value hoffered hvalue
    cases hvalue
    rw [List.append_nil, hoffered.unique hversion]
    refine .mk hlisted hactive rfl ?_ rfl
    rw [greeting_prompts, any_not_isEmpty_iff]
  · obtain ⟨error, herror⟩ := connect_of_not_greets context hgreets
    rw [herror] at h
    obtain ⟨rfl, rfl⟩ := h.of_fail
    refine ⟨⟨_, rfl⟩, ⟨nofun, fun hsome => absurd hsome hgreets⟩, ?_⟩
    intro version value hversion _
    exact absurd ⟨version, hversion⟩ hgreets

/-! ## Coming to an end -/

/-- **Does somebody answer the two look-ups**, or do the limits run out? One of the two is enough to
bring a wait to its end. -/
def Heeded (services : Services) (limits : Planroom.Limits) : Prop :=
  services.Heeds limits .listPrompts ∧ services.Heeds limits .activePrompt

variable {services : Services}

/-- Whether a connection can come to its end depends on these two look-ups only, for it asks for
nothing else. -/
theorem connect_answerable (h : Heeded services context.limits) (params : Option Json)
    (now : Instant) : (connect context params).Answerable services now := by
  obtain ⟨hlisting, hactive⟩ := h
  refine (Job.answerable_ofExcept _ now).bind fun version now => ?_
  refine (Job.answerable_ofExcept _ now).bind fun _ now => ?_
  refine Job.Answerable.bind ?_ fun prompts now => ?_
  · refine (Job.answerable_ask hlisting _ _ now).attempt.bind fun result now => ?_
    cases result <;> exact trivial
  · refine Job.Answerable.bind ?_ fun content now => trivial
    refine (Job.answerable_ask hactive _ _ now).attempt.bind fun result now => ?_
    rcases result with failure | _ | prompt <;> exact trivial

/-- **The prompts never keep a client from connecting.** Whatever the look-ups are answered, and
whenever, and whether the job is told to stop: it succeeds exactly if the client says what it has to say,
and then tells what the look-ups have given in time. Run against any services, of which neither has to
answer if the limits run out, it comes to such an end with what it has heard from them. -/
theorem connect_succeeds_by_params (context : Context) (params : Option Json) :
    (∀ heard fate, (connect context params).Hears heard fate →
      Connected context params heard fate) ∧
    ∀ services, Heeded services context.limits → ∀ world,
      ((connect context params).start services world).Ends fun fate =>
        ∃ heard, (connect context params).Hears heard fate ∧ services.Told world.now heard ∧
          Connected context params heard fate := by
  refine ⟨fun heard fate h => connected_of_hears h, fun services hheeded world => ?_⟩
  refine (connect_answerable hheeded params world.now).ends.imp ?_
  rintro fate ⟨heard, hheard, htold⟩
  exact ⟨heard, hheard, htold, connected_of_hears hheard⟩

/-- What a client says that may connect. -/
def greeted : Option Json :=
  some (.object [("clientInfo", .object [("name", .string "a"), ("version", .string "1")]),
    ("protocolVersion", .string "2025-06-18 ")])

/-- A context with a deadline. -/
def hurried : Context := ⟨"c", none, ⟨false, some 30⟩⟩

/-- Services that list a prompt, and never answer anything else. The second look-up has to end by
the deadline. -/
def halfServed : Services where
  serve
    | .listPrompts => .answered (.ok [⟨.zero, "p", "P", none, "Be brief.", true⟩])
    | _ => .never
  stamp _ := ⟨.zero, ⟨0⟩⟩

/-- The prompts are listed, but nobody says which one is active: the client waits until its time is up,
and is let in. It is told that there are prompts, and no more of them. -/
theorem connect_succeeds_by_params_unanswered :
    let ended := (connect hurried greeted).exec halfServed ⟨.initial [] [], 5, 0⟩
    ended.value = .returned (.ok (greeting .latest true "")) ∧
      ∃ heard, (connect hurried greeted).Hears heard ended.value ∧ halfServed.Told 5 heard ∧
        Welcomed hurried.limits .latest heard (greeting .latest true "") := by
  intro ended
  have hgreets : Greets greeted .latest :=
    ⟨⟨_, rfl, by decide +kernel⟩, _, rfl, ⟨_, rfl, by decide +kernel⟩, _, rfl, by decide +kernel⟩
  have hheeded : Heeded halfServed hurried.limits := ⟨fun _ => .inr rfl, fun _ => .inr rfl⟩
  have hvalue : ended.value = .returned (.ok (greeting .latest true "")) := rfl
  obtain ⟨hhears, hends⟩ := connect_succeeds_by_params hurried greeted
  obtain ⟨heard, hheard, htold, -⟩ := (hends halfServed hheeded ⟨.initial [] [], 5, 0⟩).finish
  exact ⟨hvalue, heard, hheard, htold, (hhears heard _ hheard).told hgreets hvalue⟩

end Planroom.Server
