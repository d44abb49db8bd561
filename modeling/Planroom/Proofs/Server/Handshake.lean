import Planroom.Proofs.Json.Members
import Planroom.Server.Handshake

/-!
# Who may connect

A client that connects has to offer a version that the server speaks, and to say its name and its own
version. `Greets` says this of the parameters; the two checks of the server are passed exactly then
(`negotiate_and_checkClientInfo_iff`).
-/

namespace Planroom.Server

/-- **Has the value a text under this name**, one that is not blank? A text of blanks counts as
none. -/
def Names (value : Json) (name : String) : Prop :=
  ∃ text, value.get? name = some (.string text) ∧ Text.trim text ≠ ""

/-- **Does a client that connects say what it has to say?** It offers this version, with or without
blanks around it, and introduces itself. What else it may say is not looked at. -/
structure Greets (params : Option Json) (version : Version) : Prop where
  offers : ∃ text, params.bind (Json.get? "protocolVersion") = some (.string text) ∧
    Text.trim text = version.date
  introduces : ∃ info, params.bind (Json.get? "clientInfo") = some info ∧
    Names info "name" ∧ Names info "version"

variable {params : Option Json} {version : Version}

theorem hasText_iff {name : String} {value : Json} :
    hasText name value = true ↔ Names value name := by
  rw [hasText, Names]
  split
  · next text htext =>
    rw [Bool.not_eq_true', Bool.eq_false_iff, ne_eq, Text.isBlankText_iff_trim]
    constructor
    · intro hfilled
      exact ⟨text, htext, hfilled⟩
    · rintro ⟨other, hother, hfilled⟩
      rw [htext] at hother
      cases hother
      exact hfilled
  · next hnone =>
    constructor
    · intro hfalse
      cases hfalse
    · rintro ⟨text, htext, -⟩
      exact absurd htext (hnone text)

/-- A version is known by its date. No two versions have the same one. -/
theorem ofDate?_eq_some_iff {text : String} :
    Version.ofDate? text = some version ↔ version.date = text := by
  rw [Version.ofDate?]
  constructor
  · intro h
    have hdate := List.find?_some h
    exact beq_iff_eq.1 hdate
  · rintro rfl
    cases version <;> rfl

/-- **The version that is spoken** is the one that is offered. There is no choice of another one
where it is not known. -/
theorem negotiate_eq_ok_iff :
    Version.negotiate params = .ok version ↔
      ∃ text, params.bind (Json.get? "protocolVersion") = some (.string text) ∧
        Text.trim text = version.date := by
  constructor
  · intro h
    dsimp only [Version.negotiate] at h
    split at h
    · cases h
    next offered hoffered =>
    split at h
    · cases h
    split at h
    · next found hfound =>
      cases h
      obtain ⟨hgiven, -⟩ := Option.filter_eq_some_iff.1 hoffered
      obtain ⟨text, htext, rfl⟩ := Option.map_eq_some_iff.1 hgiven
      obtain ⟨value, hvalue, hstring⟩ := Option.bind_eq_some_iff.1 htext
      rw [Json.text?_eq_some_iff.1 hstring] at hvalue
      exact ⟨text, hvalue, (ofDate?_eq_some_iff.1 hfound).symm⟩
    · cases h
  · rintro ⟨text, htext, hdate⟩
    -- the two tests that come first cannot fail for the date of a version
    have hfilled : (!version.date.isEmpty) = true := by cases version <;> decide
    have hisDate : Version.isDate version.date = true := by cases version <;> decide
    simp only [Version.negotiate, htext, Option.bind_some, Json.text?, Option.map_some, hdate,
      Option.filter_some, hfilled, if_true, hisDate, Bool.not_true, Bool.false_eq_true, if_false,
      ofDate?_eq_some_iff.2 rfl]

theorem checkClientInfo_eq_ok_iff :
    checkClientInfo params = .ok () ↔
      ∃ info, params.bind (Json.get? "clientInfo") = some info ∧
        Names info "name" ∧ Names info "version" := by
  rw [checkClientInfo]
  cases hinfo : params.bind (Json.get? "clientInfo") with
  | none => exact ⟨nofun, fun ⟨_, h, _⟩ => nomatch h⟩
  | some info =>
    simp only [Option.some.injEq, exists_eq_left', ← hasText_iff]
    cases hasText "name" info <;> cases hasText "version" info <;> simp

/-- **Both checks are passed** exactly when the client says what it has to say. In which order they
are made matters only to the error. -/
theorem negotiate_and_checkClientInfo_iff :
    Version.negotiate params = .ok version ∧ checkClientInfo params = .ok () ↔
      Greets params version := by
  rw [negotiate_eq_ok_iff, checkClientInfo_eq_ok_iff]
  constructor
  · rintro ⟨hoffers, hintroduces⟩
    exact ⟨hoffers, hintroduces⟩
  · rintro ⟨hoffers, hintroduces⟩
    exact ⟨hoffers, hintroduces⟩

end Planroom.Server
