import Planroom.Proofs.Artifact.Lookup
import Planroom.Proofs.Artifact.Reference
import Planroom.Store.Table

/-!
# References and look-ups, read back from their texts

A reference is kept as a text only. Whatever it was made from is read off this text again: by the one who
looks for an artifact, by the one who wants to know its kind, and by the list that it is put in order for.

* **References** — `Reference.Says`: what a text says that is the reference of a kind and a number.
  `says_ofNumber`: that is what is said by the one written for them.
* **Order** — `Reference.mergeSort_ofNumbers`: references are put in order as their numbers are, and those
  of different kinds with the same number stay as they were.
* **Look-ups** — `Lookup.parse?_text_iff`: a look-up is read back from its text exactly if it is one that
  can be read at all. No text is an identifier and a reference (`Lookup.not_both`).
-/

namespace Planroom

/-! ## References -/

namespace Reference

variable {kind : Kind} {n : Nat}

/-- **What the reference of a kind and a number says**: it is a reference, the kind and the number
are read off it, and it is the look-up that is read from it, whatever blanks are around it. These
are all the ways in which references are read. -/
structure Says (reference : String) (kind : Kind) (n : Nat) : Prop where
  isReference : isReference reference = true
  kind : kind? reference = some kind
  number : number reference = n
  lookup : ∀ s, Text.Padded reference s → Lookup.parse? s = some (.byReference reference)

/-- **What is written is said.** The bound is that of the reader of numbers: beyond it the text is
still a reference, but says no number. -/
theorem says_ofNumber (h : n ≤ maxNumber) : Says (ofNumber kind n) kind n where
  isReference := isReference_ofNumber kind n
  kind := kind?_ofNumber kind n
  number := number_ofNumber h
  lookup _ := Lookup.parse?_of_padded (.byReference (isReference_ofNumber kind n))

/-! ## Order -/

/-- **Is the number of one reference at most that of another?** This is the order that artifacts are
listed in. It does not look at the kind. -/
def upTo (a b : String) : Bool :=
  number a ≤ number b

theorem inOrder_eq {α : Type} [Referenced α] (a b : α) :
    Table.inOrder a b = upTo (Referenced.reference a) (Referenced.reference b) := rfl

theorem upTo_ofNumber {other : Kind} {m : Nat} (hn : n ≤ maxNumber) (hm : m ≤ maxNumber) :
    upTo (ofNumber kind n) (ofNumber other m) = decide (n ≤ m) := by
  rw [upTo, number_ofNumber hn, number_ofNumber hm]

/-- **References are put in order as their numbers are.** The sort is stable, so those of one number
stay in the order in which they came. -/
theorem mergeSort_ofNumbers {pairs : List (Kind × Nat)} (h : ∀ pair ∈ pairs, pair.2 ≤ maxNumber) :
    (pairs.map fun pair => ofNumber pair.1 pair.2).mergeSort upTo =
      (pairs.mergeSort fun a b => decide (a.2 ≤ b.2)).map fun pair => ofNumber pair.1 pair.2 := by
  refine (List.map_mergeSort fun a ha b hb => ?_).symm
  rw [upTo_ofNumber (h a ha) (h b hb)]

end Reference

/-! ## Look-ups -/

namespace Lookup

/-- **Can the look-up be read** from any text? Every identifier can, and a text that is a reference.
A look-up by any other text can be made, but only by hand. -/
def Readable : Lookup → Prop
  | .byId _ => True
  | .byReference s => Reference.isReference s = true

/-- **A look-up is read back from its text** exactly if it can be read at all. For a reference the
text is itself; for an identifier it is the one in lower case. -/
theorem parse?_text_iff {lookup : Lookup} : parse? lookup.text = some lookup ↔ lookup.Readable := by
  cases lookup with
  | byId id =>
    have hspelled : (byId id).SpelledBy id.text :=
      .byId (Uuid.canonical?_eq_some_iff.1 (Uuid.canonical?_text id))
    exact iff_of_true ((parse?_eq_some_iff hspelled.trim_eq).2 hspelled) trivial
  | byReference s =>
    constructor
    · intro h
      rw [text, parse?] at h
      split at h
      · cases h
      · split at h
        · next hreference =>
          -- what was read is the text without the blanks around it, so there were none
          have hsame : Text.trim s = s := byReference.inj (Option.some.inj h)
          rwa [hsame] at hreference
        · cases h
    · intro hreference
      have hspelled : (byReference s).SpelledBy s := .byReference hreference
      exact (parse?_eq_some_iff hspelled.trim_eq).2 hspelled

/-- **No text is an identifier and a reference.** What a caller means by a text does not depend on
which of the two is tried first. -/
theorem not_both (s : String) :
    ¬ (Reference.isReference s = true ∧ ∃ id, Uuid.canonical? s = some id) := by
  rintro ⟨hreference, id, hid⟩
  rw [Reference.canonical?_of_isReference hreference] at hid
  cases hid

end Lookup

/-! ## Read back -/

/-- **What is written is read back.** The text that is written as the reference of a kind and a number is
a reference, whichever kind it is, and however great the number, as long as it has no more than 64 bits.
The kind and the number are read off it, and as a look-up it is read as it is, whatever blanks are around
it. So there are no two pairs of a kind and a number with the same reference, and references come in the
order of their numbers, whatever their kinds. A look-up is read back from its text if it is an identifier,
or a reference, and not otherwise; and no text is both of them. -/
theorem references_read_back :
    (∀ kind, ∀ n ≤ Reference.maxNumber, Reference.Says (Reference.ofNumber kind n) kind n) ∧
      (∀ kind other n m, Reference.ofNumber kind n = Reference.ofNumber other m →
        kind = other ∧ n = m) ∧
      (∀ pairs : List (Kind × Nat), (∀ pair ∈ pairs, pair.2 ≤ Reference.maxNumber) →
        (pairs.map fun pair => Reference.ofNumber pair.1 pair.2).mergeSort Reference.upTo =
          (pairs.mergeSort fun a b => decide (a.2 ≤ b.2)).map fun pair =>
            Reference.ofNumber pair.1 pair.2) ∧
      (∀ {α : Type} [Referenced α] (a b : α),
        Table.inOrder a b = Reference.upTo (Referenced.reference a) (Referenced.reference b)) ∧
      (∀ lookup : Lookup, Lookup.parse? lookup.text = some lookup ↔ lookup.Readable) ∧
      ∀ s, ¬ (Reference.isReference s = true ∧ ∃ id, Uuid.canonical? s = some id) :=
  ⟨fun _ _ => Reference.says_ofNumber, fun _ _ _ _ h => Reference.ofNumber_inj.1 h,
    fun _ => Reference.mergeSort_ofNumbers, Reference.inOrder_eq, fun _ => Lookup.parse?_text_iff,
    Lookup.not_both⟩

/-- The references around the first one that has no zeros in front, and the greatest one. They are in order
as their numbers are, and not as their texts would be. -/
theorem references_read_back_boundaries :
    Reference.Says "EP-18446744073709551615" .epic 18446744073709551615 ∧
      Lookup.parse? " US-007\t" = some (.byReference "US-007") ∧
      ["REQ-1000", "EP-999", "US-007", "AC-999"].mergeSort Reference.upTo =
        ["US-007", "EP-999", "AC-999", "REQ-1000"] := by
  obtain ⟨htold, -, hsorted, -⟩ := references_read_back
  refine ⟨?_, ?_, ?_⟩
  · have hgreatest : Reference.ofNumber .epic 18446744073709551615 = "EP-18446744073709551615" := by
      decide +kernel
    rw [← hgreatest]
    exact htold .epic 18446744073709551615 (by decide +kernel)
  · have hseven : Reference.ofNumber .userStory 7 = "US-007" := by decide +kernel
    have hlookup := (htold .userStory 7 (by decide +kernel)).lookup " US-007\t"
    rw [hseven] at hlookup
    exact hlookup ⟨" ", "\t", by decide, by decide, by decide⟩
  · let pairs : List (Kind × Nat) :=
      [(.requirement, 1000), (.epic, 999), (.userStory, 7), (.acceptanceCriteria, 999)]
    have hwritten : pairs.map (fun pair => Reference.ofNumber pair.1 pair.2) =
        ["REQ-1000", "EP-999", "US-007", "AC-999"] := by decide +kernel
    have hnumbers : pairs.mergeSort (fun a b => decide (a.2 ≤ b.2)) =
        [(.userStory, 7), (.epic, 999), (.acceptanceCriteria, 999), (.requirement, 1000)] := by
      simp [pairs, List.mergeSort, List.MergeSort.Internal.splitInTwo]
    have hreferences := hsorted pairs (by decide +kernel)
    rw [hwritten, hnumbers] at hreferences
    rw [hreferences]
    decide +kernel

end Planroom
