import Planroom.Proofs.Artifact.Reference
import Planroom.Proofs.Text.Split
import Planroom.Text.Lowercase

/-!
# Texts that name an artifact

* **Identifiers** — a text is read as an identifier exactly when it is that identifier's text, but
  for the case of its letters (`Uuid.canonical?_eq_some_iff`).
* **References** — a text is a reference when it is the label of a kind, a hyphen and digits
  (`Reference.isOfKind_iff`). No reference is an identifier.
* **Look-ups** — `Lookup.SpelledBy`: the texts without blanks around them that spell a look-up are
  those from which it is read (`Lookup.parse?_eq_some_iff`), also with blanks (`parse?_of_padded`).
-/

namespace Planroom

/-! ## Identifiers in either case -/

namespace Text

/-- Outside of ASCII, no character has another lower-case form here. -/
theorem toLower_of_not_ascii {c : Char} (h : ¬ c.toNat < 128) : c.toLower = c := by
  refine dif_neg fun hupper => h ?_
  have hbound : c.toNat ≤ 'Z'.toNat := hupper.2
  exact Nat.lt_of_le_of_lt hbound (by decide)

/-- **What holds of the ASCII characters**, one by one, and of those that lower-casing leaves as
they are. The first can be checked by computing, the second is left as a proof. -/
theorem forall_char {P : Char → Prop} (hascii : ∀ n : Fin 128, P (Char.ofNat n.val))
    (hother : ∀ c : Char, ¬ c.toNat < 128 → P c) (c : Char) : P c := by
  by_cases h : c.toNat < 128
  · have hchar := hascii ⟨c.toNat, h⟩
    rwa [Char.ofNat_toNat] at hchar
  · exact hother c h

/-- A blank is a blank in either case. -/
theorem isBlank_toLower (c : Char) : isBlank c.toLower = isBlank c := by
  refine forall_char (P := fun c => isBlank c.toLower = isBlank c) (by decide +kernel) ?_ c
  intro c hother
  rw [toLower_of_not_ascii hother]

/-- Only a hyphen is a hyphen in lower case. -/
theorem toLower_eq_hyphen_iff (c : Char) : c.toLower = '-' ↔ c = '-' := by
  refine forall_char (P := fun c => c.toLower = '-' ↔ c = '-') (by decide +kernel) ?_ c
  intro c hother
  rw [toLower_of_not_ascii hother]

end Text

namespace Uuid

theorem digitChar_ne_hyphen (d : Fin 16) : digitChar d ≠ '-' := by
  revert d
  decide

theorem isBlank_digitChar (d : Fin 16) : Text.isBlank (digitChar d) = false := by
  revert d
  decide

/-- **A digit in either case.** The reader of digits and lower-casing are two tables; this says that
they agree. -/
theorem digit?_eq_some_iff (c : Char) (d : Fin 16) :
    digit? c = some d ↔ c.toLower = digitChar d := by
  refine Text.forall_char (P := fun c => ∀ d, digit? c = some d ↔ c.toLower = digitChar d)
    (by decide +kernel) ?_ c d
  intro c hother d
  have hdigit : (digitChar d).toNat < 128 := by
    revert d
    decide
  -- beyond ASCII there is no digit, and nothing that would be in lower case
  have hnone : digit? c = none := by
    have hbound (last : Char) (hlast : last.toNat < 128) : ¬ c ≤ last :=
      fun hle => hother (Nat.lt_of_le_of_lt hle hlast)
    rw [digit?, Json.hexValue?, if_neg fun h => hbound '9' (by decide) h.2,
      if_neg fun h => hbound 'f' (by decide) h.2, if_neg fun h => hbound 'F' (by decide) h.2]
    rfl
  rw [hnone, Text.toLower_of_not_ascii hother]
  refine ⟨nofun, fun h => absurd hdigit ?_⟩
  rw [← h]
  exact hother

theorem readGroup_eq_some_iff {n : Nat} {cs rest : List Char} {ds : List (Fin 16)} :
    readGroup n cs = some (ds, rest) ↔
      ∃ front, cs = front ++ rest ∧ front.map Char.toLower = ds.map digitChar ∧ ds.length = n := by
  induction n generalizing cs ds with
  | zero =>
    rw [readGroup, Option.some.injEq, Prod.mk.injEq]
    constructor
    · rintro ⟨rfl, rfl⟩
      exact ⟨[], rfl, rfl, rfl⟩
    · rintro ⟨front, rfl, hlower, hlength⟩
      obtain rfl := List.length_eq_zero_iff.1 hlength
      obtain rfl := List.map_eq_nil_iff.1 hlower
      exact ⟨rfl, rfl⟩
  | succ n ih =>
    constructor
    · intro h
      cases cs with
      | nil => cases h
      | cons c cs =>
        simp only [readGroup, bind, pure, Option.bind_eq_some_iff, Option.some.injEq,
          Prod.mk.injEq] at h
        obtain ⟨d, hd, ⟨later, tail⟩, hgroup, rfl, rfl⟩ := h
        obtain ⟨front, rfl, hlower, hlength⟩ := ih.1 hgroup
        refine ⟨c :: front, rfl, ?_, by rw [List.length_cons, hlength]⟩
        rw [List.map_cons, List.map_cons, hlower, (digit?_eq_some_iff c d).1 hd]
    · rintro ⟨front, rfl, hlower, hlength⟩
      obtain ⟨d, later, rfl⟩ := List.exists_cons_of_length_eq_add_one hlength
      obtain ⟨c, front, rfl, hc, hfront⟩ := List.map_eq_cons_iff.1 hlower
      have hgroup := ih.2 ⟨front, rfl, hfront, Nat.succ.inj hlength⟩
      simp only [List.cons_append, readGroup, (digit?_eq_some_iff c d).2 hc, hgroup, bind, pure,
        Option.bind_some]

/-- The last group has nothing after it. -/
theorem readGroups_last_iff {n : Nat} {cs : List Char} {ds : List (Fin 16)} :
    readGroups [n] cs = some ds ↔ cs.map Char.toLower = ds.map digitChar ∧ ds.length = n := by
  simp only [readGroups, bind, Option.bind_eq_some_iff]
  constructor
  · rintro ⟨⟨read, rest⟩, hgroup, hend⟩
    split at hend
    · next hempty =>
      cases hend
      obtain rfl := List.isEmpty_iff.1 hempty
      obtain ⟨front, rfl, hlower, hlength⟩ := readGroup_eq_some_iff.1 hgroup
      rw [List.append_nil]
      exact ⟨hlower, hlength⟩
    · cases hend
  · rintro ⟨hlower, hlength⟩
    exact ⟨(ds, []), readGroup_eq_some_iff.2 ⟨cs, (List.append_nil cs).symm, hlower, hlength⟩, rfl⟩

/-- Any other group has a hyphen after it. -/
theorem readGroups_cons_iff {n m : Nat} {ns : List Nat} {cs : List Char} {ds : List (Fin 16)} :
    readGroups (n :: m :: ns) cs = some ds ↔ ∃ front later read more,
      cs = front ++ '-' :: later ∧ front.map Char.toLower = read.map digitChar ∧
        read.length = n ∧ readGroups (m :: ns) later = some more ∧ ds = read ++ more := by
  simp only [readGroups, bind, pure, Option.bind_eq_some_iff]
  constructor
  · rintro ⟨⟨read, rest⟩, hgroup, hend⟩
    obtain ⟨front, rfl, hlower, hlength⟩ := readGroup_eq_some_iff.1 hgroup
    split at hend
    · next later hrest =>
      dsimp only at hrest
      subst hrest
      obtain ⟨more, hmore, hsame⟩ := Option.bind_eq_some_iff.1 hend
      exact ⟨front, later, read, more, rfl, hlower, hlength, hmore, (Option.some.inj hsame).symm⟩
    · cases hend
  · rintro ⟨front, later, read, more, rfl, hlower, hlength, hmore, rfl⟩
    refine ⟨(read, '-' :: later), readGroup_eq_some_iff.2 ⟨front, rfl, hlower, hlength⟩, ?_⟩
    simp only [hmore, Option.bind_some]

theorem readGroups_eq_some_iff {ns : List Nat} {cs : List Char} {ds : List (Fin 16)} :
    readGroups ns cs = some ds ↔ cs.map Char.toLower = hyphenate ns ds ∧ ds.length = total ns := by
  -- group by group: what is read of the first one is what `hyphenate` takes off the digits
  induction ns generalizing cs ds with
  | nil =>
    cases cs with
    | nil =>
      rw [readGroups, Option.some.injEq, hyphenate, total, List.length_eq_zero_iff]
      exact ⟨fun h => ⟨rfl, h.symm⟩, fun h => h.2.symm⟩
    | cons c cs =>
      constructor
      · intro h
        cases h
      · rintro ⟨hlower, -⟩
        cases hlower
  | cons n ns ih =>
    cases ns with
    | nil =>
      rw [readGroups_last_iff, hyphenate, total]
      refine and_congr_left fun hlength => ?_
      rw [List.take_of_length_le (Nat.le_of_eq hlength)]
    | cons m ms =>
      rw [readGroups_cons_iff, total]
      simp only [hyphenate]
      constructor
      · rintro ⟨front, later, read, more, rfl, hlower, hlength, hmore, rfl⟩
        obtain ⟨hlater, htotal⟩ := ih.1 hmore
        rw [List.map_append, hlower, List.map_cons, (Text.toLower_eq_hyphen_iff '-').2 rfl,
          hlater, List.take_left' hlength, List.drop_left' hlength, List.length_append, hlength,
          htotal]
        exact ⟨rfl, rfl⟩
      · rintro ⟨hlower, hlength⟩
        obtain ⟨front, back, rfl, hfront, hback⟩ := List.map_eq_append_iff.1 hlower
        obtain ⟨c, later, rfl, hc, hlater⟩ := List.map_eq_cons_iff.1 hback
        obtain rfl := (Text.toLower_eq_hyphen_iff c).1 hc
        have htake : (ds.take n).length = n := by
          rw [List.length_take]
          omega
        have hdrop : (ds.drop n).length = total (m :: ms) := by
          rw [List.length_drop]
          omega
        exact ⟨front, later, ds.take n, ds.drop n, rfl, hfront, htake, ih.2 ⟨hlater, hdrop⟩,
          (List.take_append_drop n ds).symm⟩

/-- **A text is read as an identifier** exactly when it is its text, in whatever case. So an
identifier has as many spellings as its letters have cases, and no more. -/
theorem canonical?_eq_some_iff {s : String} {id : Uuid} :
    canonical? s = some id ↔ Text.asciiLower s = id.text := by
  rw [canonical?, ofHyphenated?, Option.bind_eq_some_iff, Text.asciiLower, text,
    String.ofList_inj]
  constructor
  · rintro ⟨ds, hread, hdigits⟩
    rw [ofDigits?] at hdigits
    split at hdigits
    · cases hdigits
      exact (readGroups_eq_some_iff.1 hread).1
    · cases hdigits
  · intro hlower
    refine ⟨id.digits, readGroups_eq_some_iff.2 ⟨hlower, id.length_eq⟩, ?_⟩
    rw [ofDigits?, dif_pos id.length_eq]

theorem mem_hyphenate {ns : List Nat} {ds : List (Fin 16)} {c : Char} (h : c ∈ hyphenate ns ds) :
    c = '-' ∨ ∃ d, c = digitChar d := by
  have hdigits {ds : List (Fin 16)} (h : c ∈ ds.map digitChar) : ∃ d, c = digitChar d := by
    obtain ⟨d, -, rfl⟩ := List.mem_map.1 h
    exact ⟨d, rfl⟩
  induction ns generalizing ds with
  | nil => cases h
  | cons n ns ih =>
    cases ns with
    | nil => exact .inr (hdigits h)
    | cons m ms =>
      rcases List.mem_append.1 h with hfront | hback
      · exact .inr (hdigits hfront)
      · rcases List.mem_cons.1 hback with rfl | hlater
        · exact .inl rfl
        · exact ih hlater

/-- There is no blank in the text of an identifier, in whatever case. -/
theorem isBlank_of_mem {s : String} {id : Uuid} (h : Text.asciiLower s = id.text) {c : Char}
    (hc : c ∈ s.toList) : Text.isBlank c = false := by
  rw [Text.asciiLower, text, String.ofList_inj] at h
  have hmem : c.toLower ∈ hyphenate groups id.digits := by
    rw [← h]
    exact List.mem_map_of_mem hc
  rw [← Text.isBlank_toLower]
  rcases mem_hyphenate hmem with hsame | ⟨d, hsame⟩
  · rw [hsame]
    decide
  · rw [hsame, isBlank_digitChar]

end Uuid

/-! ## References -/

namespace Reference

variable {kind : Kind} {s : String}

/-- **A reference of a kind** is its label, a hyphen and digits. How many digits, and with how many
zeros in front, does not matter. -/
theorem isOfKind_iff : isOfKind kind s = true ↔
    ∃ number, s = kind.label ++ "-" ++ number ∧ number ≠ "" ∧
      ∀ c ∈ number.toList, Text.isDigit c = true := by
  rw [isOfKind]
  constructor
  · intro h
    split at h
    · next number hnumber =>
      rw [Bool.and_eq_true, Bool.not_eq_true', List.all_eq_true] at h
      refine ⟨number, Text.dropStart?_eq_some_iff.1 hnumber, ?_, h.2⟩
      rintro rfl
      exact absurd h.1 (by decide)
    · cases h
  · rintro ⟨number, rfl, hne, hdigits⟩
    rw [Text.dropStart?_append]
    dsimp only
    rw [List.all_eq_true.2 hdigits, Bool.and_true, Bool.not_eq_true', Bool.eq_false_iff, ne_eq,
      String.isEmpty_iff]
    exact hne

theorem isReference_iff : isReference s = true ↔ ∃ kind, isOfKind kind s = true := by
  rw [isReference, List.any_eq_true]
  exact ⟨fun ⟨kind, _, h⟩ => ⟨kind, h⟩, fun ⟨kind, h⟩ => ⟨kind, kind.mem_all, h⟩⟩

/-- What is written for a number is a reference. -/
theorem isOfKind_ofNumber (kind : Kind) (n : Nat) : isOfKind kind (ofNumber kind n) = true := by
  refine isOfKind_iff.2 ⟨Text.padded 3 n, rfl, ?_, fun c hc => Text.isDigit_of_mem_padded hc⟩
  intro hempty
  have hvalue := Text.value?_padded 3 n
  rw [hempty] at hvalue
  cases hvalue

theorem isReference_ofNumber (kind : Kind) (n : Nat) : isReference (ofNumber kind n) = true :=
  isReference_iff.2 ⟨kind, isOfKind_ofNumber kind n⟩

/-- A digit is no blank. -/
theorem isBlank_of_isDigit {c : Char} (h : Text.isDigit c = true) : Text.isBlank c = false := by
  revert h
  refine Text.forall_char (P := fun c => Text.isDigit c = true → Text.isBlank c = false)
    (by decide +kernel) ?_ c
  intro c hother h
  rw [Text.isDigit, Text.digitValue?, if_neg] at h
  · cases h
  · exact fun hrange => hother (Nat.lt_of_le_of_lt hrange.2 (by decide))

/-- There is no blank in a reference. -/
theorem isBlank_of_mem (h : isReference s = true) {c : Char} (hc : c ∈ s.toList) :
    Text.isBlank c = false := by
  obtain ⟨kind, hkind⟩ := isReference_iff.1 h
  obtain ⟨number, rfl, -, hdigits⟩ := isOfKind_iff.1 hkind
  rw [String.toList_append, List.mem_append] at hc
  rcases hc with hlabel | hnumber
  · have hall : (kind.label ++ "-").toList.all (fun c => !Text.isBlank c) = true := by
      cases kind <;> decide
    simpa using List.all_eq_true.1 hall c hlabel
  · exact isBlank_of_isDigit (hdigits c hnumber)

/-- **A reference is no identifier**: its hyphen stands where an identifier has a digit. That an
identifier is tried first is therefore of no consequence. -/
theorem canonical?_of_isReference (h : isReference s = true) : Uuid.canonical? s = none := by
  obtain ⟨kind, hkind⟩ := isReference_iff.1 h
  obtain ⟨number, rfl, -, -⟩ := isOfKind_iff.1 hkind
  cases hread : Uuid.canonical? (kind.label ++ "-" ++ number) with
  | none => rfl
  | some id =>
    obtain ⟨ds, hgroups, -⟩ := Option.bind_eq_some_iff.1 hread
    rw [Uuid.groups, Uuid.readGroups] at hgroups
    · obtain ⟨⟨first, rest⟩, hgroup, -⟩ := Option.bind_eq_some_iff.1 hgroups
      obtain ⟨front, hfront, hlower, hlength⟩ := Uuid.readGroup_eq_some_iff.1 hgroup
      have hlong : front.length = 8 := by
        rw [← hlength, ← List.length_map (f := Uuid.digitChar), ← hlower, List.length_map]
      -- no label has more than three letters, so the hyphen is among the first eight characters
      have hmem : '-' ∈ front := by
        have htake : front = (kind.label ++ "-" ++ number).toList.take 8 := by
          rw [hfront, List.take_left' hlong]
        rw [htake, String.toList_append, String.toList_append]
        cases kind <;> simp [Kind.label]
      -- but all of the first eight are digits of the first group
      have hdigit : '-' ∈ first.map Uuid.digitChar := by
        rw [← hlower]
        exact List.mem_map.2 ⟨'-', hmem, by decide⟩
      obtain ⟨d, -, hd⟩ := List.mem_map.1 hdigit
      exact absurd hd (Uuid.digitChar_ne_hyphen d)
    · intro h
      cases h

end Reference

/-! ## Look-ups -/

namespace Lookup

/-- **The texts that spell a look-up**: those of the identifier in whatever case, or the reference.
A reference has a single spelling, for it is compared as a text. -/
inductive SpelledBy : Lookup → String → Prop where
  | byId {id : Uuid} {s : String} (h : Text.asciiLower s = id.text) : (byId id).SpelledBy s
  | byReference {s : String} (h : Reference.isReference s = true) : (byReference s).SpelledBy s

/-- There is no blank in what spells a look-up. -/
theorem SpelledBy.trim_eq {lookup : Lookup} {s : String} (h : lookup.SpelledBy s) :
    Text.trim s = s := by
  cases h with
  | byId h => exact Text.trim_eq_self fun c hc => Uuid.isBlank_of_mem h hc
  | byReference h => exact Text.trim_eq_self fun c hc => Reference.isBlank_of_mem h hc

/-- **Reading a look-up** from a text that has no blanks around it. With blanks it is read as
without them, as `parse?_padded` says. -/
theorem parse?_eq_some_iff {s : String} (htrim : Text.trim s = s) {lookup : Lookup} :
    parse? s = some lookup ↔ lookup.SpelledBy s := by
  rw [parse?, htrim]
  constructor
  · intro h
    split at h
    · next id hid =>
      cases h
      exact .byId (Uuid.canonical?_eq_some_iff.1 hid)
    · split at h
      · next hreference =>
        cases h
        exact .byReference hreference
      · cases h
  · intro h
    cases h with
    | byId h =>
      rw [Uuid.canonical?_eq_some_iff.2 h]
    | byReference h =>
      rw [Reference.canonical?_of_isReference h]
      exact if_pos h

/-- **Blanks around a text** do not matter. Both are trimmed to the same text before anything else
is done. -/
theorem parse?_padded {spelling s : String} (h : Text.Padded spelling s) :
    parse? s = parse? spelling := by
  rw [parse?, parse?, h.trim_eq]

/-- What spells a look-up may have blanks around it. -/
theorem parse?_of_padded {lookup : Lookup} {spelling s : String}
    (h : lookup.SpelledBy spelling) (hpadded : Text.Padded spelling s) :
    parse? s = some lookup := by
  rw [parse?_padded hpadded]
  exact (parse?_eq_some_iff h.trim_eq).2 h

end Lookup

end Planroom
