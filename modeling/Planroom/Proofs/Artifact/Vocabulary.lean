import Mathlib.Data.List.Forall2
import Planroom.Artifact.Vocabulary

/-!
# How the type of a requirement is spelled

The program writes the types of requirements as titles, with blanks and hyphens in them. Whoever gives
one may write it as a title, as an identifier or in plain words, and it is the same type. Which texts
name a type is said here letter by letter, next to the words of the types, and without the function that
reads them.

* **Words** — `RequirementType.words`: the type in plain words.
* **Named** — `RequirementType.NamedBy`: the texts that name a type. The type that is read from a text is
  the one that the text names (`parse_eq_ok_iff`), and if it names none, none is read.
-/

namespace Planroom.RequirementType

/-- **The words of a type**, with a blank between two of them, as they would be said. -/
def words : RequirementType → String
  | .functional => "functional"
  | .nonFunctional => "non functional"
  | .businessRule => "business rule"
  | .interface => "interface"
  | .data => "data"

/-- **Does a letter stand for this one?** It does for itself; and between two words there may be a
low line or a hyphen, as in identifiers and in compounds. Two words are never run together. -/
def StandsFor (given letter : Char) : Prop :=
  given = letter ∨ letter = ' ' ∧ (given = '_' ∨ given = '-')

/-- **The texts that name a type**: its words, whatever the case of the letters, with blanks around
them. No text names two types, for their words differ in more than what is between them. -/
def NamedBy (type : RequirementType) (s : String) : Prop :=
  List.Forall₂ StandsFor (Text.asciiLower (Text.trim s)).toList type.words.toList

variable {type : RequirementType} {s : String}

/-- Between words there are only blanks. -/
theorem not_mem_words {letter : Char} (h : letter ∈ type.words.toList) :
    letter ≠ '_' ∧ letter ≠ '-' := by
  have hall : (type.words.toList.all fun letter => letter ≠ '_' ∧ letter ≠ '-') = true := by
    cases type <;> decide
  exact of_decide_eq_true (List.all_eq_true.1 hall letter h)

/-- A letter with a blank put in its place stands for what comes of it. -/
theorem standsFor_iff {given letter : Char} (hletter : letter ≠ '_' ∧ letter ≠ '-') :
    StandsFor given letter ↔ (if given = '_' ∨ given = '-' then ' ' else given) = letter := by
  split
  · next hseparator =>
    -- a separator is no letter of the words, and so it can only stand for a blank
    have hother : given ≠ letter := by
      rintro rfl
      exact hseparator.elim hletter.1 hletter.2
    rw [StandsFor, or_iff_right hother, and_iff_left hseparator, eq_comm]
  · next hplain => rw [StandsFor, or_iff_left fun h => hplain h.2]

/-- A text names a type if it is spelled by the words of the type once there are blanks in it. -/
theorem namedBy_iff : type.NamedBy s ↔ spaced (nameKey s) = type.words := by
  rw [NamedBy, spaced, nameKey, ← String.toList_inj, String.toList_ofList]
  have hletters : ∀ letter ∈ type.words.toList, letter ≠ '_' ∧ letter ≠ '-' := fun _ => not_mem_words
  generalize type.words.toList = letters at hletters
  generalize (Text.asciiLower (Text.trim s)).toList = cs
  induction cs generalizing letters with
  | nil => rw [List.forall₂_nil_left_iff, List.map_nil, eq_comm]
  | cons c cs ih =>
    cases letters with
    | nil => simp
    | cons letter letters =>
      obtain ⟨hletter, hrest⟩ := List.forall_mem_cons.1 hletters
      rw [List.forall₂_cons, standsFor_iff hletter, List.map_cons, List.cons.injEq]
      exact and_congr_right fun _ => ih letters hrest

/-- **The type that is read** from a text is the one that the text names. If a text names none,
reading it fails. -/
theorem parse_eq_ok_iff : parse s = .ok type ↔ type.NamedBy s := by
  rw [namedBy_iff]
  constructor
  · intro h
    rw [parse] at h
    split at h
    case h_6 => cases h
    all_goals
      next hwords =>
      cases h
      exact hwords
  · intro h
    rw [parse, h]
    cases type <;> rfl

end Planroom.RequirementType
