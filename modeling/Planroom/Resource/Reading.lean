import Planroom.Artifact.Encoding
import Planroom.Json.Printer
import Planroom.Resource.Listing

/-!
# Reading resources

A resource is read under its external or its canonical address. The answer carries the canonical
address, and the artifact, or the first page of a collection, as compact JSON.
-/

namespace Planroom.Resource

/-- **What is read under an address.** The address is the canonical one, whatever was asked for. -/
structure Contents where
  uri : String
  text : String
  deriving DecidableEq, Repr

/-- Contents in data: a list, though there is always one of them. -/
def Contents.toJson (contents : Contents) : Json :=
  .object [("contents", .array [.object [
    ("mimeType", .string Descriptor.mimeType),
    ("text", .string contents.text),
    ("uri", .string contents.uri)]])]

/-- **The canonical form of an external address.** The artifact must exist, for its reference is not
known otherwise. -/
def resolve (uri : String) : Job Failure ResolvedUri := do
  match ← Job.ofExcept (ResourceUri.parse uri) with
  | .collection kind => return .collection kind
  | .artifact kind lookup =>
    let entity ← Job.ask (.getEntity kind lookup)
    return .canonical ⟨kind, entity.reference⟩

/-- What an address of either form stands for. A canonical address is not looked up here: it names
an artifact by itself. -/
def locate (uri : String) : Job Failure ResolvedUri :=
  if (Text.dropStart? ResourceUri.scheme uri).isSome then resolve uri
  else Job.ofExcept ((CanonicalUri.parse uri).map .canonical)

/-- The window through which a collection is read. Who wants more must use the tools. -/
def defaultWindow : Window := ⟨Window.defaultLimit, 0⟩

/-- **Read a resource.** An external address of an artifact takes two looks at the store, and in
between others may change it. -/
def read (uri : String) : Job Failure Contents := do
  match ← locate uri with
  | .collection kind =>
    let page ← Job.ask (.listEntities kind defaultWindow)
    return ⟨ResourceUri.ofCollection kind, (page.toJson Entity.toJson).compact⟩
  | .canonical canonical =>
    let entity ← Job.ask (.getEntity canonical.kind canonical.lookup)
    return ⟨canonical.text, entity.toJson.compact⟩

end Planroom.Resource
