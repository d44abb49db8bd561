import Mathlib.Data.List.Nodup
import Mathlib.Data.List.Range
import Planroom.Artifact.Reference

/-!
# References and numbers

A reference is written from a kind and a number, with zeros in front of short numbers, and both can
be read off it again: the number as long as it is not too great (`number_ofNumber`). References that
are equal are those of one kind and one number (`ofNumber_inj`), however many digits the number has.
-/

namespace Planroom

namespace Text

/-- A padded number is read as the number. -/
theorem value?_padded (width n : Nat) : value? (padded width n).toList = some n := by
  rw [padded, String.toList_ofList]
  have hne : (List.replicate (width - (digits n).length) '0' ++ digits n).isEmpty = false := by
    rw [List.isEmpty_eq_false_iff]
    exact List.append_ne_nil_of_right_ne_nil _ (digits_ne_nil n)
  rw [value?, hne, if_neg Bool.false_ne_true, valueFrom_replicate_zero, valueFrom_digits]

/-- Only digits are in a padded number. -/
theorem isDigit_of_mem_padded {width n : Nat} {c : Char} (h : c ∈ (padded width n).toList) :
    isDigit c = true := by
  rw [padded, String.toList_ofList] at h
  rcases List.mem_append.1 h with hzero | hdigit
  · rw [List.eq_of_mem_replicate hzero]
    decide
  · exact isDigit_of_mem_digits hdigit

/-- A padded number has no plus sign in front, and is read as it was written. -/
theorem readUnsigned_padded {bound n : Nat} (width : Nat) (h : n ≤ bound) :
    readUnsigned bound (padded width n) = some n := by
  have hvalue := value?_padded width n
  rw [readUnsigned]
  split
  next cs hplus =>
    have hdigit : ∀ c ∈ (padded width n).toList, isDigit c = true :=
      fun _ hmem => isDigit_of_mem_padded hmem
    rw [hplus] at hdigit
    exact absurd (hdigit '+' List.mem_cons_self) (by decide)
  next => rw [hvalue, Option.filter_some, if_pos (by simpa using h)]

/-- What follows the last separator, where what follows one has none in it. -/
theorem afterLast_append {separator : Char} {front back : String}
    (h : separator ∉ back.toList) :
    afterLast separator (front ++ String.singleton separator ++ back) = back := by
  have hall : ∀ c ∈ back.toList.reverse, (c != separator) = true := by
    intro c hc
    rw [bne_iff_ne]
    rintro rfl
    exact h (List.mem_reverse.1 hc)
  have htake : (back.toList.reverse ++ separator :: front.toList.reverse).takeWhile
      (· != separator) = back.toList.reverse := by
    rw [List.takeWhile_append_of_pos hall]
    simp
  rw [afterLast]
  simp only [String.toList_append, String.toList_singleton, List.reverse_append,
    List.reverse_singleton, List.singleton_append]
  rw [htake, List.reverse_reverse, String.ofList_toList]

end Text

namespace Reference

variable {kind other : Kind} {n m : Nat}

theorem afterLast_ofNumber (kind : Kind) (n : Nat) :
    Text.afterLast '-' (ofNumber kind n) = Text.padded 3 n := by
  refine Text.afterLast_append fun hmem => ?_
  have hdigit := Text.isDigit_of_mem_padded hmem
  revert hdigit
  decide

/-- **The number of a reference** is the one that it was written with. The zeros in front are read
like any others. -/
theorem number_ofNumber (h : n ≤ maxNumber) : number (ofNumber kind n) = n := by
  rw [number, afterLast_ofNumber, Text.readUnsigned_padded 3 h]
  rfl

/-- The kind is read off a reference. -/
theorem kind?_ofNumber (kind : Kind) (n : Nat) : kind? (ofNumber kind n) = some kind := by
  cases kind <;> simp [kind?, ofNumber, Kind.label, Text.cut, Text.cutChars] <;> decide

/-- **A reference has one kind and one number.** The kind is read off the label and the number off
the digits, so a reference with more digits is never one with fewer. -/
theorem ofNumber_inj : ofNumber kind n = ofNumber other m ↔ kind = other ∧ n = m := by
  constructor
  · intro h
    have hkind := congrArg kind? h
    have hnumber := congrArg (fun s => Text.value? (Text.afterLast '-' s).toList) h
    simp only [kind?_ofNumber, Option.some.injEq] at hkind
    simp only [afterLast_ofNumber, Text.value?_padded, Option.some.injEq] at hnumber
    exact ⟨hkind, hnumber⟩
  · rintro ⟨rfl, rfl⟩
    rfl

/-- **The first `n` references of a kind.** While nothing is deleted, these are the ones in use. -/
def firsts (kind : Kind) (n : Nat) : List String :=
  (List.range n).map fun k => ofNumber kind (k + 1)

@[simp] theorem length_firsts (kind : Kind) (n : Nat) : (firsts kind n).length = n := by
  rw [firsts, List.length_map, List.length_range]

theorem firsts_succ (kind : Kind) (n : Nat) :
    firsts kind (n + 1) = firsts kind n ++ [ofNumber kind (n + 1)] := by
  rw [firsts, List.range_succ, List.map_append]
  rfl

theorem mem_firsts_iff {text : String} :
    text ∈ firsts kind n ↔ ∃ k, k < n ∧ text = ofNumber kind (k + 1) := by
  simp only [firsts, List.mem_map, List.mem_range, eq_comm]

/-- No reference comes twice. -/
theorem nodup_firsts (kind : Kind) (n : Nat) : (firsts kind n).Nodup := by
  refine List.nodup_range.map fun a b hab => ?_
  have hnumber := (ofNumber_inj.1 hab).2
  omega

end Reference

end Planroom
