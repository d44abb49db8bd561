import Planroom.Artifact.Uri
import Planroom.Proofs.Artifact.Lookup
import Planroom.Proofs.Keys

/-!
# Addresses as written and as read

An address is read exactly when it is written in the way that its kind of address is written, and
then it is read as what was written.

* **External** — `ResourceUri.WrittenAs`: a collection, with or without a slash after it, or an
  artifact in a collection (`ResourceUri.parse_eq_ok_iff`).
* **Canonical** — a scheme and a reference of the kind that the scheme names
  (`CanonicalUri.parse_eq_ok_iff`). What is read is written as it was.
* **One or the other** — no address is of both forms, since no scheme of a kind is the one of
  external addresses.
-/

namespace Planroom

namespace Kind

/-- What has the collection is a kind of the hierarchy. -/
theorem of_ofCollection? {name : String} {kind : Kind} (h : ofCollection? name = some kind) :
    kind ∈ resources ∧ kind.collection = name :=
  of_find?_key h

/-- What has the scheme is a kind of the hierarchy. -/
theorem of_ofScheme? {name : String} {kind : Kind} (h : ofScheme? name = some kind) :
    kind ∈ resources ∧ kind.scheme = name :=
  of_find?_key h

theorem slash_not_mem_collection (kind : Kind) : '/' ∉ kind.collection.toList := by
  cases kind <;> decide

theorem colon_not_mem_scheme (kind : Kind) : ':' ∉ kind.scheme.toList := by
  cases kind <;> decide

/-- A scheme is that of one kind. -/
theorem scheme_inj {kind other : Kind} (h : kind.scheme = other.scheme) : kind = other := by
  revert h
  cases kind <;> cases other <;> decide

/-- No kind has the scheme of external addresses. -/
theorem scheme_ne (kind : Kind) : kind.scheme ≠ "requirements" := by
  cases kind <;> decide

end Kind

/-! ## External addresses -/

namespace ResourceUri

/-- The address of something in a collection. -/
def inCollection (kind : Kind) (identifier : String) : String :=
  ofCollection kind ++ "/" ++ identifier

/-- **How external addresses are written.** A collection may have a slash after it, so two texts may
be the address of one collection. -/
inductive WrittenAs : ResourceUri → String → Prop where
  | collection {kind : Kind} (hkind : kind ∈ Kind.resources) :
      (collection kind).WrittenAs (ofCollection kind)
  | collectionSlash {kind : Kind} (hkind : kind ∈ Kind.resources) :
      (collection kind).WrittenAs (inCollection kind "")
  | artifact {kind : Kind} {lookup : Lookup} {identifier : String} (hkind : kind ∈ Kind.resources)
      (hspelled : lookup.SpelledBy identifier) :
      (artifact kind lookup).WrittenAs (inCollection kind identifier)

/-- The kind that an address is about. -/
def kind : ResourceUri → Kind
  | collection kind => kind
  | artifact kind _ => kind

/-- Addresses are about kinds of the hierarchy. -/
theorem WrittenAs.kind_mem {address : ResourceUri} {uri : String} (h : address.WrittenAs uri) :
    address.kind ∈ Kind.resources := by
  cases h with
  | collection hkind => exact hkind
  | collectionSlash hkind => exact hkind
  | artifact hkind => exact hkind

/-- **An identifier inside an address.** Unlike elsewhere, blanks around it are refused and not
taken off. -/
theorem parseIdentifier_eq_ok_iff {s : String} {lookup : Lookup} :
    parseIdentifier s = .ok lookup ↔ lookup.SpelledBy s := by
  rw [parseIdentifier]
  constructor
  · intro h
    split at h
    · cases h
    · next htrim =>
      rw [ne_eq, not_not] at htrim
      split at h
      · next found hfound =>
        cases h
        exact (Lookup.parse?_eq_some_iff htrim).1 hfound
      · cases h
  · intro h
    rw [if_neg (not_not.2 h.trim_eq), (Lookup.parse?_eq_some_iff h.trim_eq).2 h]

/-- What spells a look-up is not empty. -/
theorem ne_empty_of_spelledBy {lookup : Lookup} {s : String} (h : lookup.SpelledBy s) : s ≠ "" := by
  rintro rfl
  cases h with
  | byId h =>
    have hnone : Uuid.canonical? "" = none := by decide
    rw [Uuid.canonical?_eq_some_iff.2 h] at hnone
    cases hnone
  | byReference h => exact absurd h (by decide)

/-- What is read of the path in an external address. -/
def ofPath (path : String) : Except Failure ResourceUri :=
  let (name, identifier) := (Text.cut "/" path).getD (path, "")
  match Kind.ofCollection? name with
  | none => .error (.invalid (.resourceCollection name))
  | some kind =>
    if identifier.isEmpty then .ok (.collection kind)
    else (parseIdentifier identifier).map (.artifact kind)

theorem parse_scheme_append (path : String) : parse (scheme ++ path) = ofPath path := by
  rw [parse, Text.dropStart?_append]
  rfl

/-- The path of a collection. -/
theorem ofPath_collection {kind : Kind} (hkind : kind ∈ Kind.resources) :
    ofPath kind.collection = .ok (.collection kind) := by
  have hcut : Text.cut "/" kind.collection = none := by
    cases kind <;> decide +kernel
  rw [ofPath, hcut, Option.getD_none]
  simp only [Kind.ofCollection?_collection kind hkind]
  rfl

/-- The path of something in a collection. -/
theorem ofPath_inCollection {kind : Kind} (hkind : kind ∈ Kind.resources) (identifier : String) :
    ofPath (kind.collection ++ "/" ++ identifier) =
      if identifier.isEmpty then .ok (.collection kind)
      else (parseIdentifier identifier).map (.artifact kind) := by
  rw [ofPath, Text.cut_append rfl kind.slash_not_mem_collection, Option.getD_some]
  simp only [Kind.ofCollection?_collection kind hkind]

theorem inCollection_eq (kind : Kind) (identifier : String) :
    inCollection kind identifier = scheme ++ (kind.collection ++ "/" ++ identifier) := by
  rw [inCollection, ofCollection, String.append_assoc, String.append_assoc, String.append_assoc]

/-- What begins with a collection, if it is read. -/
theorem ofPath_eq_ok {path : String} {address : ResourceUri} (h : ofPath path = .ok address) :
    ∃ kind ∈ Kind.resources,
      path = kind.collection ∨ ∃ identifier, path = kind.collection ++ "/" ++ identifier := by
  rw [ofPath] at h
  cases hfound : Kind.ofCollection? ((Text.cut "/" path).getD (path, "")).1 with
  | none =>
    simp only [hfound] at h
    cases h
  | some kind =>
    obtain ⟨hkind, hname⟩ := Kind.of_ofCollection? hfound
    refine ⟨kind, hkind, ?_⟩
    rw [hname]
    cases hcut : Text.cut "/" path with
    | none => exact .inl rfl
    | some halves => exact .inr ⟨halves.2, Text.eq_append_of_cut hcut⟩

/-- What comes after a collection, if it is read. -/
theorem writtenAs_inCollection {kind : Kind} (hkind : kind ∈ Kind.resources) {identifier : String}
    {address : ResourceUri} (h : ofPath (kind.collection ++ "/" ++ identifier) = .ok address) :
    address.WrittenAs (inCollection kind identifier) := by
  rw [ofPath_inCollection hkind] at h
  split at h
  · next hempty =>
    obtain rfl := String.isEmpty_iff.1 hempty
    cases h
    exact .collectionSlash hkind
  · cases hread : parseIdentifier identifier with
    | error failure =>
      rw [hread] at h
      cases h
    | ok lookup =>
      rw [hread] at h
      cases h
      exact .artifact hkind (parseIdentifier_eq_ok_iff.1 hread)

/-- **External addresses are read** as they are written, and no others are read. From right to left
there is one case for each way to write them; from left to right the path is cut at its first slash.
-/
theorem parse_eq_ok_iff {uri : String} {address : ResourceUri} :
    parse uri = .ok address ↔ address.WrittenAs uri := by
  constructor
  · intro h
    cases hpath : Text.dropStart? scheme uri with
    | none =>
      rw [parse, hpath] at h
      cases h
    | some path =>
      obtain rfl := Text.dropStart?_eq_some_iff.1 hpath
      rw [parse_scheme_append] at h
      obtain ⟨kind, hkind, rfl | ⟨identifier, rfl⟩⟩ := ofPath_eq_ok h
      · rw [ofPath_collection hkind] at h
        cases h
        exact .collection hkind
      · rw [← inCollection_eq]
        exact writtenAs_inCollection hkind h
  · intro h
    cases h with
    | collection hkind => rw [ofCollection, parse_scheme_append, ofPath_collection hkind]
    | collectionSlash hkind =>
      rw [inCollection_eq, parse_scheme_append, ofPath_inCollection hkind]
      rfl
    | artifact hkind hspelled =>
      -- with nothing after the slash it would be read as the collection
      have hne := ne_empty_of_spelledBy hspelled
      rw [inCollection_eq, parse_scheme_append, ofPath_inCollection hkind,
        if_neg fun hempty => hne (String.isEmpty_iff.1 hempty),
        parseIdentifier_eq_ok_iff.2 hspelled]
      rfl

end ResourceUri

/-! ## Canonical addresses -/

namespace CanonicalUri

/-- **Is the address one that a kind of the hierarchy gives** to a reference of its own? Otherwise
its text is that of another address, or of none. -/
def Proper (uri : CanonicalUri) : Prop :=
  uri.kind ∈ Kind.resources ∧ Reference.isReference uri.reference = true ∧
    Reference.kind? uri.reference = some uri.kind

/-- A canonical address is cut into its scheme and its reference. -/
theorem cut_text (uri : CanonicalUri) :
    Text.cut separator uri.text = some (uri.kind.scheme, uri.reference) :=
  Text.cut_append rfl uri.kind.colon_not_mem_scheme uri.reference

/-- **Canonical addresses are read** as they are written, and no others are read. There is just one
way to write them. -/
theorem parse_eq_ok_iff {s : String} {uri : CanonicalUri} :
    parse s = .ok uri ↔ s = uri.text ∧ uri.Proper := by
  rw [parse]
  constructor
  · intro h
    split at h
    · cases h
    · next scheme reference hcut =>
      split at h
      · cases h
      · next kind hfound =>
        split at h
        · next hreference =>
          cases h
          obtain ⟨hkind, rfl⟩ := Kind.of_ofScheme? hfound
          exact ⟨Text.eq_append_of_cut hcut, hkind, hreference⟩
        · cases h
  · rintro ⟨rfl, hkind, hreference⟩
    rw [uri.cut_text]
    simp only [Kind.ofScheme?_scheme uri.kind hkind]
    exact if_pos hreference

/-- A text is that of one canonical address. -/
theorem text_inj {uri other : CanonicalUri} (h : uri.text = other.text) : uri = other := by
  have hcut := uri.cut_text
  rw [h, other.cut_text] at hcut
  obtain ⟨kind, reference⟩ := uri
  obtain ⟨kind', reference'⟩ := other
  obtain ⟨hscheme, rfl⟩ : kind'.scheme = kind.scheme ∧ reference' = reference :=
    Prod.mk.inj (Option.some.inj hcut)
  rw [Kind.scheme_inj hscheme]

/-- The canonical address of an artifact of the hierarchy. -/
theorem proper_ofNumber {kind : Kind} (hkind : kind ∈ Kind.resources) (n : Nat) :
    (CanonicalUri.mk kind (Reference.ofNumber kind n)).Proper :=
  ⟨hkind, Reference.isReference_ofNumber kind n, Reference.kind?_ofNumber kind n⟩

/-- **No canonical address** is an external one. A reader may therefore look at the scheme first,
and has then decided for good. -/
theorem dropStart?_scheme_text (uri : CanonicalUri) :
    Text.dropStart? ResourceUri.scheme uri.text = none := by
  cases hstart : Text.dropStart? ResourceUri.scheme uri.text with
  | none => rfl
  | some rest =>
    have hwritten : uri.text = "requirements" ++ separator ++ rest :=
      Text.dropStart?_eq_some_iff.1 hstart
    -- cut at the first separator, the two texts would have the same scheme
    have hcut := uri.cut_text
    have hother : Text.cut separator ("requirements" ++ separator ++ rest) =
        some ("requirements", rest) := Text.cut_append rfl (by decide) rest
    rw [hwritten, hother] at hcut
    exact absurd (Prod.mk.inj (Option.some.inj hcut)).1.symm uri.kind.scheme_ne

end CanonicalUri

end Planroom
