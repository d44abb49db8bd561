import Planroom.Json.Decode

/-!
# Documents

A document is the text of one value. Inside a document, a value may be written as a document of its
own: an object whose first member has the reserved name stands for the value of the document whose text
that member is.

* **Embedding** — the member is a text and the only one of its object, and the text is a document;
  otherwise the object stands for nothing. Depth is counted anew in the document.
* **Order** — only the first member as written announces a document. Under any later one the reserved
  name is a name like another.
* **Objects** — the others have the members that a reader makes of those in the text, as in
  `Json.ofMembers`.
-/

namespace Planroom.Json

/-- **The reserved name**, which announces an embedded document. -/
def embeddedName : String := "$serde_json::private::RawValue"

/-- Do the members of an object, as written, announce an embedded document? Only the name of the
first one matters, not what stands under it. -/
def isEmbedding (members : Members) : Bool :=
  members.head?.any (·.1 == embeddedName)

/-- The text of a member that stands alone. An announcement that is not kept has none, and its
object then stands for nothing. -/
def soleText? : Members → Option String
  | [(_, .string text)] => some text
  | _ => none

mutual

/-- **The value of a value as written**, when `document` gives the values of embedded documents.
With the function as a parameter this is a recursion on the value alone, and `parse` can be defined
by it. -/
def expandWith (document : String → Option Json) : Json → Option Json
  | .array items => (expandItems document items).map .array
  | .object members =>
    if isEmbedding members then (soleText? members).bind document
    else (expandMembers document members).map ofMembers
  | value => some value

/-- The values of the items of an array. -/
def expandItems (document : String → Option Json) : List Json → Option (List Json)
  | [] => some []
  | item :: rest => do
    let value ← expandWith document item
    let values ← expandItems document rest
    return value :: values

/-- The values of the members of an object, each under its name. -/
def expandMembers (document : String → Option Json) : Members → Option Members
  | [] => some []
  | (name, item) :: rest => do
    let value ← expandWith document item
    let values ← expandMembers document rest
    return (name, value) :: values

end

/-- **The value of a document.** The text of an embedded document stands as a string in the document that
holds it, between quotes and beside the reserved name, and escapes only make it longer. So it is shorter
than that document: the comparison of lengths holds of each of them, and reading comes to an end. -/
def parse (text : String) : Option Json := do
  let tree ← Tree.parse text.toList
  let written ← tree.written
  expandWith (fun inner => if inner.length < text.length then parse inner else none) written
termination_by text.length

/-- **The value of a value as written**, its embedded documents read as documents. -/
def expand (written : Json) : Option Json :=
  expandWith parse written

/-- **The value that a tree stands for**: what is written, with its embedded documents read. -/
def Tree.decode (tree : Tree) : Option Json :=
  tree.written.bind expand

end Planroom.Json
