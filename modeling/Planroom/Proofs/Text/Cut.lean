import Planroom.Text.Blank
import Planroom.Text.Cut

/-!
# Cutting what was put together

* **At a separator** — two texts with a separator between them are cut where they were put together,
  if the first one has nothing in it with which the separator begins (`cut_append`). Whatever is cut
  was put together in this way (`eq_append_of_cut`).
* **At the front** — a beginning is dropped exactly where it stands (`dropStart?_eq_some_iff`).
* **Trimmed** — trimming leaves a text as it is when there is no blank in it (`trim_eq_self`), or none
  at its ends. A text that was trimmed neither begins nor ends with one (`isBlank_of_end_trim`).
-/

namespace Planroom.Text

/-! ## At a separator -/

theorem cutChars_append {c : Char} {separator front : List Char} (h : c ∉ front)
    (back : List Char) :
    cutChars (c :: separator) (front ++ (c :: separator ++ back)) = some (front, back) := by
  induction front with
  | nil =>
    have hstart : (c :: separator).isPrefixOf (c :: separator ++ back) = true :=
      List.isPrefixOf_iff_prefix.2 (List.prefix_append _ _)
    rw [List.nil_append, List.cons_append, cutChars, ← List.cons_append, if_pos hstart,
      List.drop_left]
  | cons d front ih =>
    rw [List.mem_cons, not_or] at h
    -- no separator begins at `d`, for it begins with `c`
    have hother : (c :: separator).isPrefixOf (d :: (front ++ (c :: separator ++ back))) = false := by
      rw [List.isPrefixOf, beq_eq_false_iff_ne.2 h.1, Bool.false_and]
    rw [List.cons_append, cutChars, hother, if_neg Bool.false_ne_true, ih h.2]
    rfl

theorem eq_append_of_cutChars {separator cs front back : List Char}
    (h : cutChars separator cs = some (front, back)) : cs = front ++ separator ++ back := by
  induction cs generalizing front with
  | nil =>
    rw [cutChars] at h
    split at h
    · next hempty =>
      cases h
      rw [List.isEmpty_iff.1 hempty]
      rfl
    · cases h
  | cons c cs ih =>
    rw [cutChars] at h
    split at h
    · next hstart =>
      obtain ⟨rest, hrest⟩ := List.isPrefixOf_iff_prefix.1 hstart
      rw [← hrest, List.drop_left] at h
      cases h
      exact hrest.symm
    · obtain ⟨halves, hhalves, hsame⟩ := Option.map_eq_some_iff.1 h
      obtain ⟨hfront, rfl⟩ := Prod.mk.inj hsame
      rw [ih hhalves, ← hfront]
      rfl

/-- **Put together, then cut.** Only the first character of the separator must be missing in front:
where the separator stands, it has to begin. -/
theorem cut_append {separator front : String} {c : Char}
    (hseparator : separator.toList.head? = some c) (h : c ∉ front.toList) (back : String) :
    cut separator (front ++ separator ++ back) = some (front, back) := by
  obtain ⟨rest, hrest⟩ := List.head?_eq_some_iff.1 hseparator
  rw [cut, String.toList_append, String.toList_append, hrest, List.append_assoc,
    cutChars_append h]
  simp only [Option.map_some, String.ofList_toList]

/-- **What is cut was put together.** Nothing is said of where: the text may hold the separator
again further on. -/
theorem eq_append_of_cut {separator s front back : String}
    (h : cut separator s = some (front, back)) : s = front ++ separator ++ back := by
  obtain ⟨halves, hhalves, hsame⟩ := Option.map_eq_some_iff.1 h
  obtain ⟨rfl, rfl⟩ := Prod.mk.inj hsame
  rw [← String.toList_inj, String.toList_append, String.toList_append, String.toList_ofList,
    String.toList_ofList]
  exact eq_append_of_cutChars hhalves

/-! ## At the front -/

/-- **A beginning is dropped** exactly where it stands. Both directions are needed: that a text is
read, and that nothing else is. -/
theorem dropStart?_eq_some_iff {start s rest : String} :
    dropStart? start s = some rest ↔ s = start ++ rest := by
  rw [dropStart?, ← String.toList_inj, String.toList_append]
  constructor
  · intro h
    split at h
    · next hstart =>
      obtain ⟨tail, htail⟩ := List.isPrefixOf_iff_prefix.1 hstart
      rw [← htail, ← String.length_toList, List.drop_left] at h
      cases h
      rw [String.toList_ofList, htail]
    · cases h
  · intro h
    have hstart : start.toList.isPrefixOf s.toList = true := by
      rw [h]
      exact List.isPrefixOf_iff_prefix.2 (List.prefix_append _ _)
    rw [if_pos hstart, h, ← String.length_toList, List.drop_left, String.ofList_toList]

@[simp] theorem dropStart?_append (start rest : String) :
    dropStart? start (start ++ rest) = some rest :=
  dropStart?_eq_some_iff.2 rfl

/-! ## Trimmed -/

theorem dropWhile_eq_self_of_head {p : Char → Bool} {cs : List Char}
    (h : ∀ c, cs.head? = some c → p c = false) : cs.dropWhile p = cs := by
  cases cs with
  | nil => rfl
  | cons c rest =>
    rw [List.dropWhile_cons, h c rfl]
    rfl

/-- **Is there something in the text, and no blank around it?** Names that are looked for are
compared in this form, so one that is not `Trimmed` can never be found. -/
structure Trimmed (s : String) : Prop where
  ne_empty : s ≠ ""
  front : ∀ c, s.toList.head? = some c → isBlank c = false
  back : ∀ c, s.toList.getLast? = some c → isBlank c = false

/-- Where no blank is at either end, there is nothing to trim. -/
theorem trim_eq_of_ends {s : String} (hfront : ∀ c, s.toList.head? = some c → isBlank c = false)
    (hback : ∀ c, s.toList.getLast? = some c → isBlank c = false) : trim s = s := by
  have hreverse : ∀ c, s.toList.reverse.head? = some c → isBlank c = false := by
    intro c hc
    rw [List.head?_reverse] at hc
    exact hback c hc
  rw [trim, trimRight, trimLeft, dropWhile_eq_self_of_head hfront,
    dropWhile_eq_self_of_head hreverse, List.reverse_reverse, String.ofList_toList]

/-- **A text without blanks** is trimmed already. References and addresses are such texts. -/
theorem trim_eq_self {s : String} (h : ∀ c ∈ s.toList, isBlank c = false) : trim s = s :=
  trim_eq_of_ends (fun c hc => h c (List.mem_of_head? hc)) fun c hc => h c (List.mem_of_getLast? hc)

/-- **A trimmed text** is so too, whatever blanks it has inside. -/
theorem Trimmed.trim_eq {s : String} (h : Trimmed s) : trim s = s :=
  trim_eq_of_ends h.front h.back

/-- What comes first after the blanks in front are dropped is not blank. -/
theorem isBlank_of_head?_dropWhile {cs : List Char} {c : Char}
    (h : (cs.dropWhile isBlank).head? = some c) : isBlank c = false := by
  have hnot := List.head?_dropWhile_not isBlank cs
  rw [h] at hnot
  exact hnot

/-- **At both ends** of a text that was trimmed there is no blank. The blanks in front are dropped
first, and dropping those behind does not uncover any in front. -/
theorem isBlank_of_end_trim {s : String} {c : Char}
    (h : (trim s).toList.head? = some c ∨ (trim s).toList.getLast? = some c) :
    isBlank c = false := by
  rw [trim, String.toList_ofList, trimRight] at h
  rcases h with hfront | hback
  · -- what is kept at the back begins as it did before
    have hprefix : ((trimLeft s.toList).reverse.dropWhile isBlank).reverse <+: trimLeft s.toList :=
      List.reverse_suffix.1 (by
        rw [List.reverse_reverse]
        exact List.dropWhile_suffix isBlank)
    obtain ⟨dropped, hdropped⟩ := hprefix
    have hhead : (trimLeft s.toList).head? = some c := by
      rw [← hdropped, List.head?_append, hfront]
      rfl
    exact isBlank_of_head?_dropWhile hhead
  · rw [List.getLast?_reverse] at hback
    exact isBlank_of_head?_dropWhile hback

/-- What trimming leaves is trimmed. -/
theorem trimmed_trim {s : String} (h : trim s ≠ "") : Trimmed (trim s) :=
  ⟨h, fun _ hc => isBlank_of_end_trim (.inl hc), fun _ hc => isBlank_of_end_trim (.inr hc)⟩

end Planroom.Text
