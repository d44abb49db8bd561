import Planroom.Artifact.Encoding
import Planroom.Json.Printer
import Planroom.Proofs.Artifact.Reference
import Planroom.Proofs.Artifact.Spelling
import Planroom.Proofs.Store.Shelf

/-!
# What the data of an artifact tell

The members of an artifact are listed by hand, kind by kind, so that a field could be left out or told
under the name of another one. What the data must tell is said here by name, and not by the order in
which the members are written.

* **Told** — `Artifact.ToldBy`: each field of an artifact is told under its own name. It is so of the data
  of every artifact (`Artifact.toldBy_toJson`).
* **Plain texts** — identifiers and references have no character in them that is escaped. So the text of
  an artifact begins with the two, as they are (`Artifact.exists_compact`).
* **Apart** — artifacts of which the same text is written have the same identifier
  (`Artifact.id_eq_of_compact`).
-/

namespace Planroom

/-! ## Told -/

/-- **Do the data tell a card?** What is absent is told as null, and is not left out. -/
structure Card.ToldBy (card : Card) (value : Json) : Prop where
  id : value.get? "id" = some (.string card.id.text)
  reference : value.get? "reference_id" = some (.string card.reference)
  title : value.get? "title" = some (.string card.title)
  description : value.get? "description" = some (card.description.elim .null .string)
  priority : value.get? "priority" = some (.number (.int card.priority.value))
  creator : value.get? "creator_id" = some (.string card.creator.text)
  assignee : value.get? "assignee_id" = some (card.assignee.elim .null fun user => .string user.text)
  createdAt : value.get? "created_at" = some (.string card.createdAt.text)
  modifiedAt : value.get? "last_modified" = some (.string card.modifiedAt.text)

/-- **Do the data tell acceptance criteria?** They have no title and no state, and their maker is
called an author. -/
structure Criteria.ToldBy (criteria : Criteria) (value : Json) : Prop where
  id : value.get? "id" = some (.string criteria.id.text)
  reference : value.get? "reference_id" = some (.string criteria.reference)
  story : value.get? "user_story_id" = some (.string criteria.story.text)
  description : value.get? "description" = some (.string criteria.description)
  author : value.get? "author_id" = some (.string criteria.author.text)
  createdAt : value.get? "created_at" = some (.string criteria.createdAt.text)
  modifiedAt : value.get? "last_modified" = some (.string criteria.modifiedAt.text)

/-- **Do the data tell a steering document?** It has a card of its own sort, without a priority and
an assignee. -/
structure SteeringDocument.ToldBy (document : SteeringDocument) (value : Json) : Prop where
  id : value.get? "id" = some (.string document.id.text)
  reference : value.get? "reference_id" = some (.string document.reference)
  title : value.get? "title" = some (.string document.title)
  description : value.get? "description" = some (document.description.elim .null .string)
  creator : value.get? "creator_id" = some (.string document.creator.text)
  createdAt : value.get? "created_at" = some (.string document.createdAt.text)
  modifiedAt : value.get? "last_modified" = some (.string document.modifiedAt.text)

/-- **Do the data tell an artifact?** Beside its card, an artifact of the hierarchy has a state and
what it belongs to. Nothing is said of the order of the members, nor of members that the data may
have besides. -/
inductive Artifact.ToldBy (value : Json) : Artifact → Prop where
  | epic {epic : Epic} (hcard : epic.card.ToldBy value)
      (hstatus : value.get? "status" = some (.string epic.status.name)) :
      ToldBy value (.entity (.epic epic))
  | story {story : UserStory} (hcard : story.card.ToldBy value)
      (hepic : value.get? "epic_id" = some (.string story.epic.text))
      (hstatus : value.get? "status" = some (.string story.status.name)) :
      ToldBy value (.entity (.story story))
  | criteria {criteria : Criteria} (hcriteria : criteria.ToldBy value) :
      ToldBy value (.entity (.criteria criteria))
  | requirement {requirement : Requirement} (hcard : requirement.card.ToldBy value)
      (hstory : value.get? "user_story_id" = some (.string requirement.story.text))
      (hcriteria : value.get? "acceptance_criteria_id" =
        some (requirement.criteria.elim .null fun criteria => .string criteria.text))
      (hstatus : value.get? "status" = some (.string requirement.status.name))
      (htype : value.get? "type" = some (.string requirement.type.name)) :
      ToldBy value (.entity (.requirement requirement))
  | document {document : SteeringDocument} (hdocument : document.ToldBy value) :
      ToldBy value (.document document)

/-- An artifact in data. -/
def Artifact.toJson : Artifact → Json
  | .entity e => e.toJson
  | .document d => d.toJson

theorem Json.ofString?_eq (s? : Option String) : ofString? s? = s?.elim .null .string := by
  cases s? <;> rfl

theorem Uuid.toJson?_eq (id? : Option Uuid) :
    toJson? id? = id?.elim .null fun id => .string id.text := by
  cases id? <;> rfl

/-- The members that every card is written with. -/
def Card.members (card : Card) : Json.Members :=
  card.head ++ card.content ++ card.tail

/-- Data in which each of the members of a card is found under its name tell the card, whatever else
stands between them. -/
theorem Card.toldBy_of_members {card : Card} {value : Json}
    (h : card.members.map (fun member => value.get? member.1) =
      card.members.map fun member => some member.2) : card.ToldBy value := by
  simp only [members, head, content, tail, List.cons_append, List.nil_append, List.map_cons,
    List.map_nil, List.cons.injEq, and_true] at h
  obtain ⟨hid, hreference, htitle, hdescription, hpriority, hcreator, hassignee, htimes⟩ := h
  rw [Json.ofString?_eq] at hdescription
  rw [Uuid.toJson?_eq] at hassignee
  exact ⟨hid, hreference, htitle, hdescription, hpriority, hcreator, hassignee, htimes.1, htimes.2⟩

/-- **The data of every artifact tell it.** A field that was left out, or was told under the name of
another one, would be found here. -/
theorem Artifact.toldBy_toJson (artifact : Artifact) : artifact.ToldBy artifact.toJson := by
  cases artifact with
  | entity entity =>
    cases entity with
    | epic epic => exact .epic (Card.toldBy_of_members rfl) rfl
    | story story => exact .story (Card.toldBy_of_members rfl) rfl rfl
    | criteria criteria => exact .criteria ⟨rfl, rfl, rfl, rfl, rfl, rfl, rfl⟩
    | requirement requirement =>
      exact .requirement (Card.toldBy_of_members rfl) rfl (congrArg some (Uuid.toJson?_eq _)) rfl rfl
  | document steering =>
    exact .document ⟨rfl, rfl, rfl, congrArg some (Json.ofString?_eq _), rfl, rfl, rfl⟩

/-! ## Plain texts -/

/-- **Is nothing in the text escaped** when it is written? Such a text can be found in what was
written by looking for it. -/
def Json.Plain (s : String) : Prop :=
  ∀ c ∈ s.toList, escapeChar c = [c]

theorem Json.quote_of_plain {s : String} (h : Plain s) : quote s = '"' :: (s.toList ++ ['"']) := by
  rw [quote, List.flatMap_congr h, List.flatMap_singleton', List.cons_append]

/-- A printed character that is neither a quote nor a backslash is not escaped. -/
theorem Json.escapeChar_of_printed {c : Char} (hprinted : 0x20 ≤ c.toNat) (hquote : c ≠ '"')
    (hbackslash : c ≠ '\\') : escapeChar c = [c] := by
  -- the five controls with an escape of their own lie below the printed characters, as all others do
  have hcontrol : ∀ control : Char, control.toNat < 0x20 → c ≠ control := by
    rintro control hbelow rfl
    omega
  rw [escapeChar, if_neg hquote, if_neg hbackslash, if_neg (hcontrol _ (by decide)),
    if_neg (hcontrol _ (by decide)), if_neg (hcontrol _ (by decide)), if_neg (hcontrol _ (by decide)),
    if_neg (hcontrol _ (by decide)), if_neg (by omega)]

/-- An identifier is written as it is. -/
theorem Uuid.plain_text (id : Uuid) : Json.Plain id.text := by
  intro c hc
  rw [text, String.toList_ofList] at hc
  rcases mem_hyphenate hc with rfl | ⟨d, rfl⟩
  · decide
  · clear hc
    revert d
    decide

/-- A reference is written as it is. -/
theorem Reference.plain_ofNumber (kind : Kind) (n : Nat) : Json.Plain (ofNumber kind n) := by
  intro c hc
  rw [ofNumber, String.toList_append, String.toList_append, List.mem_append, List.mem_append] at hc
  rcases hc with (hlabel | hhyphen) | hdigit
  · have hall : (kind.label.toList.all fun c => Json.escapeChar c == [c]) = true := by
      cases kind <;> decide
    exact eq_of_beq (List.all_eq_true.1 hall c hlabel)
  · obtain rfl := List.mem_singleton.1 hhyphen
    decide
  · obtain ⟨hlow, hhigh⟩ := isDigit_iff.1 (Text.isDigit_of_mem_padded hdigit)
    have hprinted : 0x20 ≤ c.toNat := Nat.le_trans (by decide) (show 0x30 ≤ c.toNat from hlow)
    refine Json.escapeChar_of_printed hprinted ?_ ?_
    · rintro rfl
      exact absurd hlow (by decide)
    · rintro rfl
      exact absurd hhigh (by decide)

/-- **The text of an artifact begins with its identifier and its reference**, whatever its kind is.
Only the reference needs a premise, as it is a text like any other until it is known where it comes
from. -/
theorem Artifact.exists_compact {artifact : Artifact} (h : Json.Plain artifact.reference) :
    ∃ rest, artifact.toJson.compact = "\x7b\"id\":\"" ++ artifact.id.text ++
      "\",\"reference_id\":\"" ++ artifact.reference ++ "\"" ++ rest := by
  obtain ⟨members, hmembers⟩ : ∃ members, artifact.toJson =
      .object (("id", .string artifact.id.text) :: ("reference_id", .string artifact.reference) ::
        members) := by
    cases artifact with
    | entity entity => cases entity <;> exact ⟨_, rfl⟩
    | document steering => exact ⟨_, rfl⟩
  refine ⟨String.ofList (Json.compactMembers members), ?_⟩
  have hid : Json.quote "id" = ['"', 'i', 'd', '"'] := by decide
  have hreference : Json.quote "reference_id" = "\"reference_id\"".toList := by decide
  rw [hmembers, Json.compact, ← String.toList_inj]
  simp [Json.compactChars, Json.compactMembers, Json.quote_of_plain h,
    Json.quote_of_plain artifact.id.plain_text, hid, hreference]

/-- Identifiers are equally long. -/
theorem Uuid.length_text (id : Uuid) : id.text.toList.length = 36 := by
  rw [text, String.toList_ofList]
  simp [hyphenate, groups, id.length_eq]

/-! ## Apart -/

/-- **Artifacts of which the same text is written** have the same identifier. Identifiers are
equally long, so the texts need not be parsed: the identifiers stand in the same place. -/
theorem Artifact.id_eq_of_compact {artifact other : Artifact} (h : Json.Plain artifact.reference)
    (hother : Json.Plain other.reference) (hsame : artifact.toJson.compact = other.toJson.compact) :
    artifact.id = other.id := by
  obtain ⟨rest, hrest⟩ := exists_compact h
  obtain ⟨others, hothers⟩ := exists_compact hother
  rw [hrest, hothers, ← String.toList_inj] at hsame
  simp only [String.toList_append, List.append_assoc] at hsame
  have htext : artifact.id.text.toList = other.id.text.toList :=
    List.append_inj_left (List.append_cancel_left hsame)
      (artifact.id.length_text.trans other.id.length_text.symm)
  have hread := Uuid.canonical?_text artifact.id
  rw [String.toList_inj.1 htext, Uuid.canonical?_text] at hread
  exact (Option.some.inj hread).symm

end Planroom
