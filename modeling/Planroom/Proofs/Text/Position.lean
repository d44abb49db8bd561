import Planroom.Text.Position

/-!
# Positions in bytes and in characters

Positions are worked out on the bytes of a text. What they mean is said on its characters.

* **Offsets** — `byteOffset_eq`: the offset of a position is the size of the characters in front of
  it. There are no other boundaries of characters (`exists_byteOffset_iff_isValid`).
* **Slices** — `slice_eq`: a slice is there exactly when its two positions are in order and inside
  the text, and then it is the characters between them.
* **Occurrences** — `mem_occurrences_iff`: a position is one of those listed exactly when the
  characters from there on begin with the needle. They are listed in ascending order
  (`pairwise_occurrences`).

The encoding of a character is never the beginning of that of another, so that bytes that agree are
characters that agree (`extract_utf8Encode_iff`). `positions_count_characters` puts all of this together.
-/

namespace Planroom.Text

/-! ## Encodings -/

theorem size_utf8Encode_cons (c : Char) (cs : List Char) :
    (c :: cs).utf8Encode.size = c.utf8Size + cs.utf8Encode.size := by
  rw [← List.singleton_append, List.utf8Encode_append, ByteArray.size_append]
  simp [List.utf8Encode_singleton]

/-- A longer beginning of a text takes more bytes. -/
theorem size_take_lt {cs : List Char} {i j : Nat} (hij : i < j) (hj : j ≤ cs.length) :
    (cs.take i).utf8Encode.size < (cs.take j).utf8Encode.size := by
  induction cs generalizing i j with
  | nil =>
    simp only [List.length_nil] at hj
    omega
  | cons c cs ih =>
    obtain ⟨j, rfl⟩ : ∃ k, j = k + 1 := ⟨j - 1, by omega⟩
    rw [List.take_succ_cons, size_utf8Encode_cons]
    cases i with
    | zero =>
      have hc := c.utf8Size_pos
      rw [List.take_zero, List.utf8Encode_nil, ByteArray.size_empty]
      omega
    | succ i =>
      rw [List.take_succ_cons, size_utf8Encode_cons]
      have hrest := @ih i j (by omega) (by simpa using hj)
      omega

/-- What follows some bytes, up to a number of bytes after them. -/
theorem extract_after (front back : ByteArray) (n : Nat) :
    (front ++ back).extract front.size (front.size + n) = back.extract 0 n := by
  have h := ByteArray.extract_append_size_add (a := front) (b := back) (i := 0) (j := n)
  rwa [Nat.add_zero] at h

/-- The bytes of the characters between two places. -/
theorem extract_utf8Encode (front middle back : List Char) :
    (front ++ middle ++ back).utf8Encode.extract front.utf8Encode.size
      (front ++ middle).utf8Encode.size = middle.utf8Encode := by
  simp only [List.utf8Encode_append, ByteArray.size_append]
  rw [ByteArray.append_assoc, extract_after]
  exact ByteArray.extract_append_eq_left rfl

/-- **Bytes that agree are characters that agree.** A search on the bytes would otherwise find a
needle in the middle of a character. -/
theorem extract_utf8Encode_iff {needle cs : List Char} :
    cs.utf8Encode.extract 0 needle.utf8Encode.size = needle.utf8Encode ↔ needle <+: cs := by
  constructor
  · intro h
    refine List.isPrefix_of_utf8Encode_append_eq_utf8Encode
      (cs.utf8Encode.extract needle.utf8Encode.size cs.utf8Encode.size) ?_
    -- bytes are taken only as far as there are any, so as many as the needle has must be there
    have hle : needle.utf8Encode.size ≤ cs.utf8Encode.size := by
      have hsize := congrArg ByteArray.size h
      rw [ByteArray.size_extract] at hsize
      omega
    rw [← h, ByteArray.size_extract]
    rw [Nat.min_eq_left hle, Nat.sub_zero]
    rw [ByteArray.extract_append_extract, Nat.min_eq_left (Nat.zero_le _), Nat.max_eq_right hle]
    exact ByteArray.extract_zero_size
  · rintro ⟨back, rfl⟩
    exact extract_utf8Encode [] needle back

/-! ## Offsets -/

/-- **An offset** is the size of what stands in front of it. Beyond the end there is none, and at
the end it is the size of the text. -/
theorem byteOffset_eq (cs : List Char) (i : Nat) :
    byteOffset cs i = if i ≤ cs.length then some (cs.take i).utf8Encode.size else none := by
  induction cs generalizing i with
  | nil => cases i <;> simp
  | cons c cs ih =>
    cases i with
    | zero => simp
    | succ i =>
      rw [byteOffset_cons_succ, ih, List.length_cons]
      by_cases hi : i ≤ cs.length
      · rw [if_pos hi, if_pos (by omega), List.take_succ_cons, size_utf8Encode_cons]
        rfl
      · rw [if_neg hi, if_neg (by omega)]
        rfl

/-- **A position has an offset** up to the end of the text, and it is the number of bytes in front
of it. So the offset tells the position again. -/
theorem byteOffset_eq_some_iff {body : String} {position offset : Nat} :
    byteOffset body.toList position = some offset ↔
      position ≤ body.length ∧
        offset = (String.ofList (body.toList.take position)).utf8ByteSize := by
  have hsize : (String.ofList (body.toList.take position)).utf8ByteSize =
      (body.toList.take position).utf8Encode.size := by
    rw [← String.size_toByteArray, String.toByteArray_ofList]
  rw [byteOffset_eq, String.length_toList, hsize]
  by_cases hposition : position ≤ body.length
  · simp [hposition, eq_comm]
  · simp [hposition]

/-- **Offsets are the boundaries of characters** in the encoding, the end of the text included. An
offset inside a character belongs to no position. -/
theorem exists_byteOffset_iff_isValid {body : String} {offset : Nat} :
    (∃ position, byteOffset body.toList position = some offset) ↔
      String.Pos.Raw.IsValid body ⟨offset⟩ := by
  rw [String.Pos.Raw.isValid_iff_exists_take_toList]
  constructor
  · rintro ⟨position, h⟩
    exact ⟨position, (byteOffset_eq_some_iff.1 h).2⟩
  · rintro ⟨count, hoffset⟩
    -- more characters than there are stand for all of them
    refine ⟨min count body.length, byteOffset_eq_some_iff.2 ⟨Nat.min_le_right _ _, ?_⟩⟩
    rw [← String.length_toList, ← List.take_eq_take_min]
    exact hoffset

/-! ## Slices -/

theorem fromUTF8?_utf8Encode (cs : List Char) :
    String.fromUTF8? cs.utf8Encode = some (String.ofList cs) := by
  have hvalid : cs.utf8Encode.IsValidUTF8 := ByteArray.isValidUTF8_utf8Encode
  rw [String.fromUTF8?, dif_pos hvalid]
  rfl

/-- The bytes between the offsets of two positions that are in order. -/
theorem decodeRange_take {cs : List Char} {start stop : Nat} (horder : start ≤ stop)
    (hstop : stop ≤ cs.length) :
    decodeRange cs.utf8Encode (cs.take start).utf8Encode.size (cs.take stop).utf8Encode.size =
      some (String.ofList ((cs.take stop).drop start)) := by
  have hparts : cs.take start ++ (cs.take stop).drop start = cs.take stop := by
    have htake : cs.take start = (cs.take stop).take start := by
      rw [List.take_take, Nat.min_eq_left horder]
    rw [htake, List.take_append_drop]
  have hwhole : cs.take start ++ (cs.take stop).drop start ++ cs.drop stop = cs := by
    rw [hparts, List.take_append_drop]
  have hcut := extract_utf8Encode (cs.take start) ((cs.take stop).drop start) (cs.drop stop)
  rw [hwhole, hparts] at hcut
  -- offsets are in order because positions are
  have hle : (cs.take start).utf8Encode.size ≤ (cs.take stop).utf8Encode.size := by
    rcases Nat.lt_or_eq_of_le horder with hlt | rfl
    · exact Nat.le_of_lt (size_take_lt hlt hstop)
    · exact Nat.le_refl _
  rw [decodeRange, if_pos hle, hcut, fromUTF8?_utf8Encode]

/-- There are no bytes between two positions that are not in order. -/
theorem decodeRange_take_eq_none {bytes : ByteArray} {cs : List Char} {start stop : Nat}
    (horder : stop < start) (hstart : start ≤ cs.length) :
    decodeRange bytes (cs.take start).utf8Encode.size (cs.take stop).utf8Encode.size = none := by
  have hlt := size_take_lt horder hstart
  rw [decodeRange, if_neg (by omega)]

/-- **A slice** is the characters between two positions of the text that are in order. -/
theorem slice_eq (body : String) (start stop : Nat) :
    slice body start stop =
      if start ≤ stop ∧ stop ≤ body.length then
        some (String.ofList ((body.toList.take stop).drop start))
      else none := by
  have hbytes : body.toUTF8 = body.toList.utf8Encode := String.utf8Encode_toList.symm
  rw [← String.length_toList]
  simp only [slice, hbytes, byteOffset_eq]
  generalize body.toList = cs
  by_cases hstart : start ≤ cs.length
  · by_cases hstop : stop ≤ cs.length
    · simp only [if_pos hstart, hstop, and_true]
      by_cases horder : start ≤ stop
      · rw [if_pos horder]
        exact decodeRange_take horder hstop
      · rw [if_neg horder]
        exact decodeRange_take_eq_none (by omega) hstart
    · simp [hstart, hstop]
  · have hout : ¬ (start ≤ stop ∧ stop ≤ cs.length) := by omega
    simp [hstart, hout]

/-- **A piece is cut out** between two positions that are in order and inside the text, and it is the
characters between them. -/
theorem slice_eq_some_iff {body piece : String} {start stop : Nat} :
    slice body start stop = some piece ↔
      start ≤ stop ∧ stop ≤ body.length ∧
        (body.toList.take stop).drop start = piece.toList := by
  rw [slice_eq, ← and_assoc]
  by_cases hinside : start ≤ stop ∧ stop ≤ body.length
  · rw [if_pos hinside, Option.some.injEq, ← String.toList_inj, String.toList_ofList]
    simp [hinside]
  · simp [hinside]

/-! ## Occurrences -/

/-- The positions that are found in the rest `cs` of a text, after `front`. -/
theorem mem_occurrencesFrom_iff (front cs needle : List Char) (position p : Nat) :
    p ∈ occurrencesFrom (front ++ cs).utf8Encode needle.utf8Encode front.utf8Encode.size position
        cs ↔
      ∃ i, i < cs.length ∧ p = position + i ∧ needle <+: cs.drop i := by
  -- the characters that have been passed move over to `front`
  induction cs generalizing front position with
  | nil => simp
  | cons c cs ih =>
    have hfront : front ++ c :: cs = (front ++ [c]) ++ cs := by simp
    have hsize : (front ++ [c]).utf8Encode.size = front.utf8Encode.size + c.utf8Size := by
      simp [List.utf8Encode_append, List.utf8Encode_singleton]
    have hhere : (front ++ c :: cs).utf8Encode.extract front.utf8Encode.size
        (front.utf8Encode.size + needle.utf8Encode.size) = needle.utf8Encode ↔
          needle <+: c :: cs := by
      rw [List.utf8Encode_append, extract_after, extract_utf8Encode_iff]
    have hlater : p ∈ occurrencesFrom (front ++ c :: cs).utf8Encode needle.utf8Encode
        (front.utf8Encode.size + c.utf8Size) (position + 1) cs ↔
          ∃ i, i < cs.length ∧ p = position + 1 + i ∧ needle <+: cs.drop i := by
      rw [hfront, ← hsize]
      exact ih (front ++ [c]) (position + 1)
    -- the position itself is the first of the places, the others are one further on
    have hplaces : (∃ i, i < (c :: cs).length ∧ p = position + i ∧ needle <+: (c :: cs).drop i) ↔
        (p = position ∧ needle <+: c :: cs) ∨
          ∃ i, i < cs.length ∧ p = position + 1 + i ∧ needle <+: cs.drop i := by
      constructor
      · rintro ⟨i, hi, rfl, hstands⟩
        cases i with
        | zero => exact .inl ⟨rfl, hstands⟩
        | succ i => exact .inr ⟨i, by simpa using hi, by omega, hstands⟩
      · rintro (⟨rfl, hstands⟩ | ⟨i, hi, rfl, hstands⟩)
        · exact ⟨0, Nat.zero_lt_succ _, rfl, hstands⟩
        · exact ⟨i + 1, by simpa using hi, by omega, hstands⟩
    rw [hplaces, ← hlater]
    by_cases hneedle : needle <+: c :: cs
    · rw [occurrencesFrom_cons_of_eq (hhere.2 hneedle), List.mem_cons]
      simp only [hneedle, and_true]
    · rw [occurrencesFrom_cons_of_ne fun h => hneedle (hhere.1 h)]
      simp only [hneedle, and_false, false_or]

/-- **An occurrence** is a position from which on the text goes on with the needle. The empty needle
would have one everywhere, and is given none. -/
theorem mem_occurrences_iff {body needle : String} {position : Nat} :
    position ∈ occurrences body needle ↔
      needle ≠ "" ∧ needle.toList <+: body.toList.drop position := by
  by_cases hempty : needle = ""
  · subst hempty
    simp [occurrences]
  · have hbytes : ∀ s : String, s.toUTF8 = s.toList.utf8Encode :=
      fun s => String.utf8Encode_toList.symm
    have hisEmpty : needle.isEmpty = false := by simpa using hempty
    have hfound := mem_occurrencesFrom_iff [] body.toList needle.toList 0 position
    rw [occurrences, hisEmpty, if_neg Bool.false_ne_true, hbytes, hbytes]
    refine hfound.trans ⟨?_, ?_⟩
    · rintro ⟨i, -, rfl, hstands⟩
      rw [Nat.zero_add]
      exact ⟨hempty, hstands⟩
    · rintro ⟨-, hstands⟩
      refine ⟨position, ?_, (Nat.zero_add _).symm, hstands⟩
      -- past the end nothing is left for the needle to begin
      refine Nat.lt_of_not_le fun hpast => ?_
      rw [List.drop_eq_nil_of_le hpast, List.prefix_nil] at hstands
      exact hempty (String.toList_eq_nil_iff.1 hstands)

/-! ### In order -/

/-- Nothing is found before the position from which on it is looked for. -/
theorem le_of_mem_occurrencesFrom {bytes needle : ByteArray} {cs : List Char} {offset position p : Nat}
    (h : p ∈ occurrencesFrom bytes needle offset position cs) : position ≤ p := by
  induction cs generalizing offset position with
  | nil => simp at h
  | cons c cs ih =>
    by_cases hhere : bytes.extract offset (offset + needle.size) = needle
    · rw [occurrencesFrom_cons_of_eq hhere, List.mem_cons] at h
      -- either it is this position, or it is found from the next one on
      obtain rfl | hlater := h
      · exact Nat.le_refl _
      · have hle := ih hlater
        omega
    · rw [occurrencesFrom_cons_of_ne hhere] at h
      have hle := ih h
      omega

theorem pairwise_occurrencesFrom (bytes needle : ByteArray) (offset position : Nat)
    (cs : List Char) : (occurrencesFrom bytes needle offset position cs).Pairwise (· < ·) := by
  induction cs generalizing offset position with
  | nil => simp
  | cons c cs ih =>
    by_cases hhere : bytes.extract offset (offset + needle.size) = needle
    · rw [occurrencesFrom_cons_of_eq hhere, List.pairwise_cons]
      refine ⟨?_, ih _ _⟩
      intro p hp
      have hle := le_of_mem_occurrencesFrom hp
      omega
    · rw [occurrencesFrom_cons_of_ne hhere]
      exact ih _ _

/-- **Occurrences** are listed in ascending order, each of them once. The nearest one is therefore
the first of several that are equally near. -/
theorem pairwise_occurrences (body needle : String) :
    (occurrences body needle).Pairwise (· < ·) := by
  rw [occurrences]
  split
  · exact List.Pairwise.nil
  · apply pairwise_occurrencesFrom

/-! ## Positions count characters -/

/-- **Positions count characters.** What is worked out on the bytes of a text is what its characters say,
whatever the text, the positions and the needle are. A position has an offset exactly up to the number of
characters, namely the number of bytes of the characters in front of it, and the offsets are exactly the
boundaries of characters in the encoding. A slice is there exactly between two positions in order of which
the second is not beyond the number of characters, and it is the characters between them. The positions of
a needle are listed in ascending order, and they are exactly those from which on the characters go on with
the needle; they may overlap, and an empty needle has none. -/
theorem positions_count_characters (body needle : String) :
    (∀ position offset, byteOffset body.toList position = some offset ↔
      position ≤ body.length ∧
        offset = (String.ofList (body.toList.take position)).utf8ByteSize) ∧
    (∀ offset, (∃ position, byteOffset body.toList position = some offset) ↔
      String.Pos.Raw.IsValid body ⟨offset⟩) ∧
    (∀ start stop piece, slice body start stop = some piece ↔
      start ≤ stop ∧ stop ≤ body.length ∧
        (body.toList.take stop).drop start = piece.toList) ∧
    (occurrences body needle).Pairwise (· < ·) ∧
    ∀ position, position ∈ occurrences body needle ↔
      needle ≠ "" ∧ needle.toList <+: body.toList.drop position := by
  refine ⟨?_, ?_, ?_, pairwise_occurrences body needle, ?_⟩
  · intro position offset
    exact byteOffset_eq_some_iff
  · intro offset
    exact exists_byteOffset_iff_isValid
  · intro start stop piece
    exact slice_eq_some_iff
  · intro position
    exact mem_occurrences_iff

/-- Occurrences may overlap, and the end of a text is a position of it. -/
example : occurrences "aééé" "éé" = [1, 2] ∧ byteOffset "aééé".toList 4 = some 7 := by
  decide +kernel

end Planroom.Text
