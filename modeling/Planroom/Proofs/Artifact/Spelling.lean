import Planroom.Proofs.Artifact.Address

/-!
# How addresses are spelled

Which texts are addresses is said here character by character, without the functions that read them,
and each reader is shown to accept these texts and no others.

* **Identifiers** — `Uuid.Spelled`: hexadecimal digits in either case, in five groups with hyphens
  between them.
* **References** — `Reference.Spelled`: one of five labels, a hyphen, and ASCII digits.
* **Addresses** — `ResourceUri.Spelled` and `CanonicalUri.Spelled`. An address that is canonical is
  read back from its text exactly if the text is spelled so, and it is the only one with this text.
-/

namespace Planroom

/-! ## Identifiers -/

/-- **A hexadecimal digit** in either case, told by its place among the characters and not by a
reader. -/
def Text.IsHexDigit (c : Char) : Prop :=
  ('0' ≤ c ∧ c ≤ '9') ∨ ('a' ≤ c ∧ c ≤ 'f') ∨ ('A' ≤ c ∧ c ≤ 'F')

namespace Uuid

/-- **Is the text spelled like an identifier?** It is 36 characters long: groups of 8, 4, 4, 4 and
12 hexadecimal digits, and the hyphens between them. -/
def Spelled (s : String) : Prop :=
  ∃ parts : List String, s = Text.join "-" parts ∧ parts.map String.length = [8, 4, 4, 4, 12] ∧
    ∀ part ∈ parts, ∀ c ∈ part.toList, Text.IsHexDigit c

theorem exists_digit?_iff {c : Char} : (∃ d, digit? c = some d) ↔ Text.IsHexDigit c := by
  rw [← Option.isSome_iff_exists, digit?, Json.hexValue?, Text.IsHexDigit, Option.isSome_map]
  split_ifs <;> simp_all

/-- A run of digits in either case is one that lower-casing makes a run of digits. -/
theorem exists_digits_iff {n : Nat} {cs : List Char} :
    (∃ ds : List (Fin 16), cs.map Char.toLower = ds.map digitChar ∧ ds.length = n) ↔
      cs.length = n ∧ ∀ c ∈ cs, Text.IsHexDigit c := by
  induction cs generalizing n with
  | nil =>
    constructor
    · rintro ⟨ds, hds, rfl⟩
      rw [List.map_eq_nil_iff.1 hds.symm]
      exact ⟨rfl, List.forall_mem_nil _⟩
    · rintro ⟨rfl, -⟩
      exact ⟨[], rfl, rfl⟩
  | cons c cs ih =>
    rw [List.forall_mem_cons, ← exists_digit?_iff, List.length_cons]
    constructor
    · rintro ⟨ds, hds, rfl⟩
      obtain ⟨d, rest, rfl, hd, hrest⟩ := List.map_eq_cons_iff.1 hds.symm
      obtain ⟨hlength, hdigits⟩ := ih.1 ⟨rest, hrest.symm, rfl⟩
      exact ⟨congrArg (· + 1) hlength, ⟨d, (digit?_eq_some_iff c d).2 hd.symm⟩, hdigits⟩
    · rintro ⟨rfl, ⟨d, hd⟩, hdigits⟩
      obtain ⟨ds, hds, hlength⟩ := ih.2 ⟨rfl, hdigits⟩
      refine ⟨d :: ds, ?_, congrArg (· + 1) hlength⟩
      rw [List.map_cons, List.map_cons, (digit?_eq_some_iff c d).1 hd, hds]

/-- **Groups of digits are read** where hyphens join them. Since no digit is a hyphen, a text is
joined from such groups in one way at most. -/
theorem exists_readGroups_iff {ns : List Nat} {cs : List Char} :
    (∃ ds, readGroups ns cs = some ds) ↔ ∃ parts : List (List Char),
      cs = ['-'].intercalate parts ∧ parts.map List.length = ns ∧
        ∀ part ∈ parts, ∀ c ∈ part, Text.IsHexDigit c := by
  -- group by group: each one is a part, and all but the last have a hyphen after them
  induction ns generalizing cs with
  | nil =>
    constructor
    · rintro ⟨ds, hread⟩
      obtain ⟨hlower, -⟩ := readGroups_eq_some_iff.1 hread
      exact ⟨[], List.map_eq_nil_iff.1 hlower, rfl, List.forall_mem_nil _⟩
    · rintro ⟨parts, rfl, hsizes, -⟩
      rw [List.map_eq_nil_iff.1 hsizes]
      exact ⟨[], rfl⟩
  | cons n ns ih =>
    cases ns with
    | nil =>
      simp only [readGroups_last_iff, exists_digits_iff]
      constructor
      · rintro ⟨hlength, hdigits⟩
        exact ⟨[cs], List.intercalate_singleton.symm, congrArg (· :: []) hlength,
          List.forall_mem_singleton.2 hdigits⟩
      · rintro ⟨parts, rfl, hsizes, hdigits⟩
        obtain ⟨part, rfl, rfl⟩ := List.map_eq_singleton_iff.1 hsizes
        rw [List.intercalate_singleton]
        exact ⟨rfl, List.forall_mem_singleton.1 hdigits⟩
    | cons m ms =>
      simp only [readGroups_cons_iff]
      constructor
      · rintro ⟨ds, front, later, read, more, rfl, hlower, hlength, hmore, -⟩
        obtain ⟨parts, rfl, hsizes, hdigits⟩ := ih.1 ⟨more, hmore⟩
        obtain ⟨part, rest, rfl, -, -⟩ := List.map_eq_cons_iff.1 hsizes
        obtain ⟨hfront, hhex⟩ := exists_digits_iff.1 ⟨read, hlower, hlength⟩
        refine ⟨front :: part :: rest, ?_, ?_, List.forall_mem_cons.2 ⟨hhex, hdigits⟩⟩
        · rw [List.intercalate_cons_cons, List.append_assoc]
          rfl
        · rw [List.map_cons, hfront, hsizes]
      · rintro ⟨parts, rfl, hsizes, hdigits⟩
        obtain ⟨front, others, rfl, rfl, hothers⟩ := List.map_eq_cons_iff.1 hsizes
        obtain ⟨part, rest, rfl, -, -⟩ := List.map_eq_cons_iff.1 hothers
        obtain ⟨hhex, hlater⟩ := List.forall_mem_cons.1 hdigits
        obtain ⟨read, hlower, hlength⟩ := exists_digits_iff.2 ⟨rfl, hhex⟩
        obtain ⟨more, hmore⟩ := ih.2 ⟨part :: rest, rfl, hothers, hlater⟩
        refine ⟨read ++ more, front, _, read, more, ?_, hlower, hlength, hmore, rfl⟩
        rw [List.intercalate_cons_cons, List.append_assoc]
        rfl

/-- **A text is read as an identifier** exactly when it is spelled like one. That there are 32
digits follows from the sizes of the groups. -/
theorem exists_canonical?_iff {s : String} : (∃ id, canonical? s = some id) ↔ Spelled s := by
  have hread : (∃ id, canonical? s = some id) ↔ ∃ ds, readGroups groups s.toList = some ds := by
    simp only [canonical?, ofHyphenated?, Option.bind_eq_some_iff]
    constructor
    · rintro ⟨-, ds, hds, -⟩
      exact ⟨ds, hds⟩
    · rintro ⟨ds, hds⟩
      have hlength : ds.length = 32 := (readGroups_eq_some_iff.1 hds).2
      exact ⟨⟨ds, hlength⟩, ds, hds, dif_pos hlength⟩
  rw [hread, exists_readGroups_iff, Spelled]
  constructor
  · rintro ⟨parts, hs, hsizes, hdigits⟩
    refine ⟨parts.map String.ofList, ?_, ?_, ?_⟩
    · rw [← String.toList_inj, Text.join, String.toList_intercalate, List.map_map, hs]
      simp [Function.comp_def]
    · rw [List.map_map, ← groups, ← hsizes]
      simp [Function.comp_def]
    · simpa using hdigits
  · rintro ⟨parts, rfl, hsizes, hdigits⟩
    refine ⟨parts.map String.toList, ?_, ?_, ?_⟩
    · rw [Text.join, String.toList_intercalate]
      rfl
    · rw [List.map_map, groups, ← hsizes]
      exact List.map_congr_left fun part _ => String.length_toList
    · simpa using hdigits

end Uuid

/-! ## References -/

namespace Reference

variable {kind : Kind} {s : String}

/-- **Is the text a number** as references have them: one ASCII digit or more? It may begin with
zeros, and be as long as it likes. -/
def IsNumber (number : String) : Prop :=
  number ≠ "" ∧ ∀ c ∈ number.toList, '0' ≤ c ∧ c ≤ '9'

/-- **Is the text spelled like a reference?** The labels are written out here, and not taken from
the kinds. -/
def Spelled (s : String) : Prop :=
  ∃ label ∈ ["EP", "US", "AC", "REQ", "STD"], ∃ number,
    s = label ++ "-" ++ number ∧ IsNumber number

theorem isDigit_iff {c : Char} : Text.isDigit c = true ↔ '0' ≤ c ∧ c ≤ '9' := by
  rw [Text.isDigit, Text.digitValue?]
  split_ifs with h <;> simp [h]

theorem isOfKind_iff_isNumber : isOfKind kind s = true ↔
    ∃ number, s = kind.label ++ "-" ++ number ∧ IsNumber number := by
  simp only [isOfKind_iff, IsNumber, isDigit_iff]

/-- **The references of all kinds** are spelled so. There is one label for each kind, in the order
of the kinds. -/
theorem isReference_iff_spelled : isReference s = true ↔ Spelled s := by
  have hlabels : ["EP", "US", "AC", "REQ", "STD"] = Kind.all.map Kind.label := rfl
  simp only [isReference_iff, isOfKind_iff_isNumber, Spelled, hlabels, List.mem_map]
  constructor
  · rintro ⟨kind, number, hs, hnumber⟩
    exact ⟨kind.label, ⟨kind, kind.mem_all, rfl⟩, number, hs, hnumber⟩
  · rintro ⟨_, ⟨kind, -, rfl⟩, number, hs, hnumber⟩
    exact ⟨kind, number, hs, hnumber⟩

/-- The kind that the label of a reference names is its own. -/
theorem kind?_of_isOfKind (h : isOfKind kind s = true) : kind? s = some kind := by
  obtain ⟨number, rfl, -⟩ := isOfKind_iff.1 h
  have hhyphen : '-' ∉ kind.label.toList := by cases kind <;> decide
  rw [kind?, Text.cut_append rfl hhyphen, Option.bind_some, Kind.ofLabel?_label]

/-- **A reference whose label names a kind** is a reference of this kind. The label is read up to
the first hyphen, and no label has one. -/
theorem isReference_and_kind?_iff :
    isReference s = true ∧ kind? s = some kind ↔ isOfKind kind s = true := by
  constructor
  · rintro ⟨hreference, hkind⟩
    obtain ⟨own, hown⟩ := isReference_iff.1 hreference
    rw [kind?_of_isOfKind hown] at hkind
    rwa [← Option.some.inj hkind]
  · intro h
    exact ⟨isReference_iff.2 ⟨kind, h⟩, kind?_of_isOfKind h⟩

end Reference

/-! ## External addresses -/

namespace ResourceUri

variable {s : String} {failure : Failure}

/-- What may follow a collection: nothing, a slash, or a slash and something that names an artifact. -/
inductive SpelledRest : String → Prop where
  | nothing : SpelledRest ""
  | slash : SpelledRest "/"
  | identifier {text : String} (h : Uuid.Spelled text) : SpelledRest ("/" ++ text)
  | reference {text : String} (h : Reference.Spelled text) : SpelledRest ("/" ++ text)

/-- **Is the text spelled like an external address?** The identifier may be of any case; the scheme
and the collection must be as they stand here. -/
def Spelled (s : String) : Prop :=
  ∃ name ∈ ["epics", "user-stories", "acceptance-criteria", "requirements"], ∃ rest,
    s = "requirements://" ++ name ++ rest ∧ SpelledRest rest

theorem mem_collections_iff {name : String} :
    name ∈ ["epics", "user-stories", "acceptance-criteria", "requirements"] ↔
      ∃ kind ∈ Kind.resources, kind.collection = name := by
  have hnames : ["epics", "user-stories", "acceptance-criteria", "requirements"] =
      Kind.resources.map Kind.collection := rfl
  rw [hnames, List.mem_map]

/-- What names an artifact is what spells a look-up. -/
theorem exists_spelledBy_iff {text : String} :
    (∃ lookup : Lookup, lookup.SpelledBy text) ↔ Uuid.Spelled text ∨ Reference.Spelled text := by
  rw [← Uuid.exists_canonical?_iff, ← Reference.isReference_iff_spelled]
  constructor
  · rintro ⟨lookup, h⟩
    cases h with
    | byId h => exact .inl ⟨_, Uuid.canonical?_eq_some_iff.2 h⟩
    | byReference h => exact .inr h
  · rintro (⟨id, h⟩ | h)
    · exact ⟨.byId id, .byId (Uuid.canonical?_eq_some_iff.1 h)⟩
    · exact ⟨.byReference text, .byReference h⟩

/-- **External addresses are read** exactly where they are spelled so. The ways of writing them
correspond to the ways of spelling them, one by one. -/
theorem exists_parse_iff : (∃ address, parse s = .ok address) ↔ Spelled s := by
  simp only [parse_eq_ok_iff, Spelled, mem_collections_iff]
  constructor
  · rintro ⟨address, hwritten⟩
    cases hwritten with
    | @collection kind hkind =>
      exact ⟨_, ⟨kind, hkind, rfl⟩, "", (String.append_empty).symm, .nothing⟩
    | @collectionSlash kind hkind => exact ⟨_, ⟨kind, hkind, rfl⟩, "/", String.append_empty, .slash⟩
    | @artifact kind lookup identifier hkind hspelled =>
      refine ⟨_, ⟨kind, hkind, rfl⟩, "/" ++ identifier, String.append_assoc .., ?_⟩
      rcases exists_spelledBy_iff.1 ⟨lookup, hspelled⟩ with h | h
      · exact .identifier h
      · exact .reference h
  · rintro ⟨_, ⟨kind, hkind, rfl⟩, rest, rfl, hrest⟩
    have hartifact {text : String} (h : Uuid.Spelled text ∨ Reference.Spelled text) :
        ∃ address : ResourceUri,
          address.WrittenAs ("requirements://" ++ kind.collection ++ ("/" ++ text)) := by
      obtain ⟨lookup, hlookup⟩ := exists_spelledBy_iff.2 h
      rw [← String.append_assoc]
      exact ⟨_, .artifact hkind hlookup⟩
    cases hrest with
    | nothing =>
      rw [String.append_empty]
      exact ⟨_, .collection hkind⟩
    | slash =>
      have hslash := WrittenAs.collectionSlash hkind
      rw [inCollection, String.append_empty] at hslash
      exact ⟨_, hslash⟩
    | identifier h => exact hartifact (.inl h)
    | reference h => exact hartifact (.inr h)

/-- **A collection is read** from its address, with or without a slash after it, and from nothing
else. -/
theorem parse_eq_collection_iff {kind : Kind} : parse s = .ok (.collection kind) ↔
    kind ∈ Kind.resources ∧ (s = ofCollection kind ∨ s = ofCollection kind ++ "/") := by
  rw [parse_eq_ok_iff]
  constructor
  · intro h
    cases h with
    | collection hkind => exact ⟨hkind, .inl rfl⟩
    | collectionSlash hkind => exact ⟨hkind, .inr String.append_empty⟩
  · rintro ⟨hkind, rfl | rfl⟩
    · exact .collection hkind
    · have hslash := WrittenAs.collectionSlash hkind
      rwa [inCollection, String.append_empty] at hslash

/-- **What is no external address** is refused as an invalid value. The reasons differ, but not the
family, and by it the caller is told. -/
theorem parse_error (h : parse s = .error failure) : ∃ reason, failure = .invalid reason := by
  unfold parse at h
  split at h
  · cases h
    exact ⟨_, rfl⟩
  dsimp only at h
  split at h
  · cases h
    exact ⟨_, rfl⟩
  split at h
  · cases h
  -- the collection is known, so that it is the identifier that is refused
  unfold parseIdentifier at h
  split at h
  · cases h
    exact ⟨_, rfl⟩
  split at h
  · cases h
  · cases h
    exact ⟨_, rfl⟩

end ResourceUri

/-! ## Canonical addresses -/

namespace CanonicalUri

variable {s : String} {failure : Failure}

/-- **Is the text spelled like a canonical address?** The scheme and the label are those of one
kind. Steering documents have none. -/
def Spelled (s : String) : Prop :=
  ∃ names ∈ [("epic", "EP"), ("user_story", "US"), ("acceptance_criteria", "AC"),
      ("requirement", "REQ")], ∃ number,
    s = names.1 ++ "://" ++ names.2 ++ "-" ++ number ∧ Reference.IsNumber number

/-- **Canonical addresses are read** exactly where they are spelled so. That the scheme and the
label belong together is checked by the reader, too. -/
theorem exists_parse_iff : (∃ uri, parse s = .ok uri) ↔ Spelled s := by
  have hnames : [("epic", "EP"), ("user_story", "US"), ("acceptance_criteria", "AC"),
      ("requirement", "REQ")] = Kind.resources.map fun kind => (kind.scheme, kind.label) := rfl
  simp only [parse_eq_ok_iff, Proper, Reference.isReference_and_kind?_iff,
    Reference.isOfKind_iff_isNumber, Spelled, hnames, List.mem_map]
  constructor
  · rintro ⟨⟨kind, reference⟩, rfl, hkind, number, hreference, hnumber⟩
    refine ⟨_, ⟨kind, hkind, rfl⟩, number, ?_, hnumber⟩
    rw [text, hreference]
    simp only [separator, String.append_assoc]
  · rintro ⟨_, ⟨kind, hkind, rfl⟩, number, rfl, hnumber⟩
    refine ⟨⟨kind, kind.label ++ "-" ++ number⟩, ?_, hkind, number, rfl, hnumber⟩
    simp only [text, separator, String.append_assoc]

/-- **What is no canonical address** is refused as an invalid value. An external address is none
either, and is refused here. -/
theorem parse_error (h : parse s = .error failure) : ∃ reason, failure = .invalid reason := by
  unfold parse at h
  split at h
  · cases h
    exact ⟨_, rfl⟩
  split at h
  · cases h
    exact ⟨_, rfl⟩
  split at h
  · cases h
  · cases h
    exact ⟨_, rfl⟩

/-- **A canonical address is read back from its text** exactly if the text is spelled like one. An
address can be put together whose text is not, from a reference of another kind, say. -/
theorem parse_text_iff {uri : CanonicalUri} : parse uri.text = .ok uri ↔ Spelled uri.text := by
  rw [← exists_parse_iff]
  refine ⟨fun h => ⟨uri, h⟩, fun ⟨other, hother⟩ => ?_⟩
  -- no other address has the same text
  rwa [← text_inj (parse_eq_ok_iff.1 hother).1] at hother

end CanonicalUri

/-! ## Reading and writing -/

/-- **Addresses are read as they are spelled, and written as they are read.** A text is read as an
external address exactly if it is spelled like one, and as a collection exactly if nothing but a slash
follows the collection's name. It is read as a canonical address exactly if it is spelled like one.
Whatever is not read is an invalid value. The text of a canonical address that was read is the text it
was read from. Reading the text of a canonical address gives the address back exactly if the text is
spelled like one, and never another address: so it does for every address that has the reference of an
artifact of the hierarchy. Reading the text of a collection gives it back exactly if its kind is one of
the hierarchy, as it is for every collection that was read. -/
theorem addresses_read_as_spelled (s : String) :
    ((∃ address, ResourceUri.parse s = .ok address) ↔ ResourceUri.Spelled s) ∧
    (∀ kind, ResourceUri.parse s = .ok (.collection kind) ↔ kind ∈ Kind.resources ∧
      (s = "requirements://" ++ kind.collection ∨
        s = "requirements://" ++ kind.collection ++ "/")) ∧
    ((∃ uri, CanonicalUri.parse s = .ok uri) ↔ CanonicalUri.Spelled s) ∧
    (∀ failure, ResourceUri.parse s = .error failure ∨ CanonicalUri.parse s = .error failure →
      ∃ reason, failure = .invalid reason) ∧
    (∀ uri, CanonicalUri.parse s = .ok uri →
      uri.text = s ∧ CanonicalUri.parse uri.text = .ok uri) ∧
    (∀ uri : CanonicalUri, CanonicalUri.parse uri.text = .ok uri ↔ CanonicalUri.Spelled uri.text) ∧
    (∀ uri other : CanonicalUri, CanonicalUri.parse uri.text = .ok other → other = uri) ∧
    (∀ kind ∈ Kind.resources, ∀ n,
      let uri : CanonicalUri := ⟨kind, Reference.ofNumber kind n⟩
      CanonicalUri.parse uri.text = .ok uri) ∧
    ∀ kind, ResourceUri.parse (ResolvedUri.collection kind).text = .ok (.collection kind) ↔
      kind ∈ Kind.resources := by
  refine ⟨ResourceUri.exists_parse_iff, fun kind => ResourceUri.parse_eq_collection_iff,
    CanonicalUri.exists_parse_iff, ?_, ?_, fun uri => CanonicalUri.parse_text_iff, ?_, ?_, ?_⟩
  · rintro failure (h | h)
    · exact ResourceUri.parse_error h
    · exact CanonicalUri.parse_error h
  · intro uri h
    have htext := (CanonicalUri.parse_eq_ok_iff.1 h).1
    exact ⟨htext.symm, htext ▸ h⟩
  · intro uri other h
    exact CanonicalUri.text_inj (CanonicalUri.parse_eq_ok_iff.1 h).1.symm
  · intro kind hkind n
    exact CanonicalUri.parse_eq_ok_iff.2 ⟨rfl, CanonicalUri.proper_ofNumber hkind n⟩
  · intro kind
    rw [ResourceUri.parse_eq_collection_iff]
    exact and_iff_left (.inl rfl)

/-- A digit of another script is no digit here. -/
example : ¬ (ResourceUri.parse "requirements://epics/EP-٣").isOk := by decide +kernel

end Planroom
