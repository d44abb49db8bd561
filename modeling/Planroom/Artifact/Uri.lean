import Planroom.Artifact.Reference
import Planroom.Failure

/-!
# Resource addresses

* **External** — `requirements://<collection>` names a collection and
  `requirements://<collection>/<identifier>` an artifact in it, by identifier or reference.
* **Canonical** — `<scheme>://<reference>` names an artifact by the reference of its own kind.
-/

namespace Planroom

/-- **An external address.** It is what a client may ask for without knowing what is there: a
collection, or an artifact by whatever names it. -/
inductive ResourceUri where
  | collection (kind : Kind)
  | artifact (kind : Kind) (lookup : Lookup)
  deriving DecidableEq, Repr

namespace ResourceUri

/-- What every external address begins with. -/
def scheme : String := "requirements://"

/-- The address of a collection. -/
def ofCollection (kind : Kind) : String :=
  scheme ++ kind.collection

/-- An identifier inside an address, where blanks have no place. Elsewhere they are taken off; here
they would have to be escaped. -/
def parseIdentifier (s : String) : Except Failure Lookup :=
  if Text.trim s ≠ s then .error (.invalid .resourceIdentifier)
  else match Lookup.parse? s with
    | some lookup => .ok lookup
    | none => .error (.invalid .resourceIdentifier)

/-- **Read an external address.** Only the first slash counts as the end of the collection's name,
and nothing behind it is as good as no slash at all. -/
def parse (uri : String) : Except Failure ResourceUri :=
  match Text.dropStart? scheme uri with
  | none => .error (.invalid .resourceScheme)
  | some path =>
    let (name, identifier) := (Text.cut "/" path).getD (path, "")
    match Kind.ofCollection? name with
    | none => .error (.invalid (.resourceCollection name))
    | some kind =>
      if identifier.isEmpty then .ok (.collection kind)
      else (parseIdentifier identifier).map (.artifact kind)

end ResourceUri

/-- **A canonical address.** An artifact of the hierarchy has exactly one, by which it is listed and
told. -/
structure CanonicalUri where
  kind : Kind
  reference : String
  deriving DecidableEq, Repr

namespace CanonicalUri

/-- What stands between the scheme and the reference. -/
def separator : String := "://"

/-- The text of a canonical address. -/
def text (uri : CanonicalUri) : String :=
  uri.kind.scheme ++ separator ++ uri.reference

/-- The look-up of what the address names. It is always by reference: there is no canonical address
with an identifier in it. -/
def lookup (uri : CanonicalUri) : Lookup :=
  .byReference uri.reference

/-- **Read a canonical address.** The reference must be one of the kind that the scheme names, or
else one artifact would have addresses under several schemes. -/
def parse (uri : String) : Except Failure CanonicalUri :=
  match Text.cut separator uri with
  | none => .error (.invalid (.unsupportedUri uri))
  | some (scheme, reference) =>
    match Kind.ofScheme? scheme with
    | none => .error (.invalid (.unsupportedUri uri))
    | some kind =>
      if Reference.isReference reference ∧ Reference.kind? reference = some kind then
        .ok ⟨kind, reference⟩
      else .error (.invalid (.unsupportedUri uri))

end CanonicalUri

/-- **An external address after look-up**: a collection stays, an artifact has its canonical
address. That it exists is known from then on. -/
inductive ResolvedUri where
  | collection (kind : Kind)
  | canonical (uri : CanonicalUri)
  deriving DecidableEq, Repr

/-- The text of an address after look-up. -/
def ResolvedUri.text : ResolvedUri → String
  | .collection kind => ResourceUri.ofCollection kind
  | .canonical uri => uri.text

end Planroom
