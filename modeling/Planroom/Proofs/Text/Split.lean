import Mathlib.Data.List.TakeWhile
import Planroom.Proofs.Text.Cut

/-!
# Splitting what was joined

* **Parts** — texts that were joined by a separator are the parts that they are split into, as long as
  the separator is in none of them (`split_join`).
* **Blanks around** — `Padded`: what trimming takes away does not matter to what is left, and neither
  to the parts between separators, once these are trimmed as well (`Padded.map_trim_split`).
-/

namespace Planroom.Text

/-! ## Parts -/

theorem splitChars_eq_splitOn (separator : Char) (cs : List Char) :
    splitChars separator cs = cs.splitOn separator := by
  induction cs with
  | nil => rfl
  | cons c cs ih =>
    -- the equation of the library is stated for a predicate, and `splitOn` is the case of a single
    -- character
    have hsplit := List.splitOnP_cons_eq_if_modifyHead (p := (· == separator)) c cs
    change (c :: cs).splitOn separator = _ at hsplit
    rw [splitChars, ih, hsplit]
    by_cases h : c = separator
    · rw [if_pos h, if_pos (beq_iff_eq.2 h)]
      rfl
    · rw [if_neg h, if_neg (beq_iff_eq.not.2 h)]
      change _ = (cs.splitOn separator).modifyHead _
      cases hparts : cs.splitOn separator with
      | nil => exact absurd hparts (List.splitOn_ne_nil separator cs)
      | cons part parts => rfl

/-- **Joined, then split.** There must be a part: joining none gives the empty text, which is split
into one. -/
theorem split_join {separator : String} {c : Char} (hseparator : separator.toList = [c])
    {parts : List String} (hne : parts ≠ []) (h : ∀ part ∈ parts, c ∉ part.toList) :
    split c (join separator parts) = parts := by
  have hparts : ∀ part ∈ parts.map String.toList, c ∉ part := by
    intro part hmem
    obtain ⟨text, htext, rfl⟩ := List.mem_map.1 hmem
    exact h text htext
  rw [split, join, String.toList_intercalate, hseparator, splitChars_eq_splitOn,
    List.splitOn_intercalate c hparts (List.map_eq_nil_iff.not.2 hne), List.map_map]
  exact (List.map_congr_left fun text _ => String.ofList_toList).trans (List.map_id parts)

theorem join_cons_cons (separator first second : String) (parts : List String) :
    join separator (first :: second :: parts) = first ++ separator ++ join separator (second :: parts) :=
  String.intercalate_cons_cons

/-- What is in none of the parts, and not in the separator, is not in what is joined. -/
theorem not_mem_join {separator : String} {c : Char} (hseparator : c ∉ separator.toList)
    {parts : List String} (h : ∀ part ∈ parts, c ∉ part.toList) :
    c ∉ (join separator parts).toList := by
  induction parts with
  | nil => exact List.not_mem_nil
  | cons part parts ih =>
    obtain ⟨hpart, hparts⟩ := List.forall_mem_cons.1 h
    cases parts with
    | nil =>
      rw [join, String.intercalate_singleton]
      exact hpart
    | cons second others =>
      rw [join_cons_cons, String.toList_append, String.toList_append, List.mem_append, List.mem_append]
      rintro ((hmem | hmem) | hmem)
      · exact hpart hmem
      · exact hseparator hmem
      · exact ih hparts hmem

/-- What is put in front goes into the first part. There always is one, for splitting never gives
none. -/
theorem splitChars_append_front {separator : Char} {front : List Char} (h : separator ∉ front)
    (cs : List Char) :
    ∃ first rest, splitChars separator cs = first :: rest ∧
      splitChars separator (front ++ cs) = (front ++ first) :: rest := by
  induction front with
  | nil =>
    cases hparts : splitChars separator cs with
    | nil =>
      rw [splitChars_eq_splitOn] at hparts
      exact absurd hparts (List.splitOn_ne_nil separator cs)
    | cons first rest => exact ⟨first, rest, rfl, hparts⟩
  | cons c front ih =>
    rw [List.mem_cons, not_or] at h
    obtain ⟨first, rest, hparts, hfront⟩ := ih h.2
    refine ⟨first, rest, hparts, ?_⟩
    rw [List.cons_append, splitChars, if_neg (Ne.symm h.1), hfront]
    rfl

/-- What is put behind goes into the last part. The induction is on what stands in front of it, so
the last part has to be named from the end. -/
theorem splitChars_append_back {separator : Char} {back : List Char} (h : separator ∉ back)
    (cs : List Char) :
    ∃ front last, splitChars separator cs = front ++ [last] ∧
      splitChars separator (cs ++ back) = front ++ [last ++ back] := by
  induction cs with
  | nil =>
    refine ⟨[], [], rfl, ?_⟩
    obtain ⟨first, rest, hparts, hback⟩ := splitChars_append_front h []
    cases hparts
    rw [List.append_nil] at hback
    exact hback
  | cons c cs ih =>
    obtain ⟨front, last, hparts, hback⟩ := ih
    by_cases hc : c = separator
    · refine ⟨[] :: front, last, ?_, ?_⟩
      · rw [splitChars, if_pos hc, hparts]
        rfl
      · rw [List.cons_append, splitChars, if_pos hc, hback]
        rfl
    · rw [List.cons_append, splitChars, splitChars, if_neg hc, if_neg hc, hparts, hback]
      -- the character goes into the first part, which may be the last one as well
      cases front with
      | nil => exact ⟨[], c :: last, rfl, rfl⟩
      | cons first rest => exact ⟨(c :: first) :: rest, last, rfl, rfl⟩

/-! ## Blanks around -/

/-- **Is this the text with blanks around it**, or maybe none? Readers that trim cannot tell the two
apart. -/
def Padded (s padded : String) : Prop :=
  ∃ front back, isBlankText front = true ∧ isBlankText back = true ∧ padded = front ++ s ++ back

theorem isBlank_of_isBlankText {s : String} (h : isBlankText s = true) :
    ∀ c ∈ s.toList, isBlank c = true :=
  List.all_eq_true.1 h

/-- There is no separator among blanks. -/
theorem not_mem_of_isBlankText {s : String} (h : isBlankText s = true) {c : Char}
    (hc : isBlank c = false) : c ∉ s.toList := by
  intro hmem
  rw [isBlank_of_isBlankText h c hmem] at hc
  cases hc

/-- What is not blank and not in a text is not in it with blanks around it. -/
theorem Padded.not_mem {s padded : String} (h : Padded s padded) {c : Char} (hc : isBlank c = false)
    (hs : c ∉ s.toList) : c ∉ padded.toList := by
  obtain ⟨front, back, hfront, hback, rfl⟩ := h
  rw [String.toList_append, String.toList_append, List.mem_append, List.mem_append]
  rintro ((hmem | hmem) | hmem)
  · exact not_mem_of_isBlankText hfront hc hmem
  · exact hs hmem
  · exact not_mem_of_isBlankText hback hc hmem

/-- Dropping blanks at the back does not see more blanks there. -/
theorem trimRight_append {cs back : List Char} (h : ∀ c ∈ back, isBlank c = true) :
    trimRight (cs ++ back) = trimRight cs := by
  rw [trimRight, List.reverse_append,
    List.dropWhile_append_of_pos fun c hc => h c (List.mem_reverse.1 hc)]
  rfl

theorem trim_append_front {front : String} (h : isBlankText front = true) (s : String) :
    trim (front ++ s) = trim s := by
  rw [trim, String.toList_append, trimLeft,
    List.dropWhile_append_of_pos (isBlank_of_isBlankText h)]
  rfl

theorem trim_append_back {back : String} (h : isBlankText back = true) (s : String) :
    trim (s ++ back) = trim s := by
  have hback := isBlank_of_isBlankText h
  rw [trim, trim, String.toList_append, trimLeft, List.dropWhile_append]
  split
  · next hempty =>
    -- nothing but blanks, and nothing is left of them
    rw [trimLeft, List.isEmpty_iff.1 hempty, List.dropWhile_eq_nil_iff.2 hback]
  · rw [trimRight_append hback]
    rfl

/-- **Blanks around a text** do not matter when it is trimmed. The text may have blanks of its own
at its ends. -/
theorem Padded.trim_eq {s padded : String} (h : Padded s padded) : trim padded = trim s := by
  obtain ⟨front, back, hfront, hback, rfl⟩ := h
  rw [trim_append_back hback, trim_append_front hfront]

/-- **What trimming takes away** are blanks around what it leaves. So whatever ignores padding may
be asked of the trimmed text instead. -/
theorem padded_trim (s : String) : Padded (trim s) s := by
  refine ⟨String.ofList (s.toList.takeWhile isBlank),
    String.ofList ((trimLeft s.toList).reverse.takeWhile isBlank).reverse, ?_, ?_, ?_⟩
  · rw [isBlankText, String.toList_ofList, List.all_takeWhile]
  · rw [isBlankText, String.toList_ofList, List.all_reverse, List.all_takeWhile]
  · rw [← String.toList_inj, String.toList_append, String.toList_append, String.toList_ofList,
      String.toList_ofList, trim, String.toList_ofList, trimRight, List.append_assoc,
      ← List.reverse_append, List.takeWhile_append_dropWhile, List.reverse_reverse, trimLeft,
      List.takeWhile_append_dropWhile]

/-- **Blanks around a text** do not matter to its parts, where these are trimmed. In front they go
into the first part and behind into the last, and both lose them again. -/
theorem Padded.map_trim_split {c : Char} (hc : isBlank c = false) {s padded : String}
    (h : Padded s padded) : (split c padded).map trim = (split c s).map trim := by
  obtain ⟨front, back, hfront, hback, rfl⟩ := h
  obtain ⟨first, rest, hparts, hfirst⟩ :=
    splitChars_append_front (not_mem_of_isBlankText hfront hc) s.toList
  obtain ⟨others, last, hothers, hlast⟩ :=
    splitChars_append_back (not_mem_of_isBlankText hback hc) (front ++ s).toList
  have hchars : ((splitChars c (front ++ s ++ back).toList).map String.ofList).map trim =
      ((splitChars c (front ++ s).toList).map String.ofList).map trim := by
    rw [String.toList_append, hlast, hothers]
    simp only [List.map_append, List.map_cons, List.map_nil, String.ofList_append,
      String.ofList_toList, trim_append_back hback]
  rw [split, split, hchars, String.toList_append, hfirst, hparts]
  simp only [List.map_cons, String.ofList_append, String.ofList_toList, trim_append_front hfront]

end Planroom.Text
