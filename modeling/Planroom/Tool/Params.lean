import Planroom.Json.Document
import Planroom.Tool.Argument

/-!
# Parameters of calls

The parameters of `tools/call` and `resources/read` are an object with named members, others being
ignored, or an array of the same things in the order of their names. Data about a task, too, is an
object or an array; data about a request, which may hold any member, is an object.
-/

namespace Planroom.Tool

/-- **The parameters of a call of a tool.** What else they hold is checked and then forgotten. -/
structure CallParams where
  name : String
  arguments : Arguments
  deriving Repr

namespace Params

/-- An object that may be absent. The outer `none` refuses, the inner one is its absence. -/
def object? : Option Json → Option (Option Json.Members)
  | none | some .null => some none
  | some (.object members) => some (some members)
  | some _ => none

/-- Is this the mark by which progress is reported: a text, an integer, or nothing? -/
def isProgressToken : Option Json → Bool
  | none | some .null | some (.string _) => true
  | some value => value.int64?.isSome

/-- Is this data about a request: an object, whose mark for progress is one, or nothing? The other
members may be anything. -/
def isMeta (value : Option Json) : Bool :=
  match object? value with
  | none => false
  | some none => true
  | some (some members) => isProgressToken (Json.lookup "progressToken" members)

/-- Is this the life of a task: an integer, or nothing? It may be negative, for nobody ever counts
it down. -/
def isSpan : Option Json → Bool
  | none | some .null => true
  | some value => value.int64?.isSome

/-- Is this data about a task: an object whose span is one, an array of at most a span, or
nothing? -/
def isTask : Option Json → Bool
  | none | some .null | some (.array []) => true
  | some (.object members) => isSpan (Json.lookup "ttl" members)
  | some (.array [ttl]) => isSpan (some ttl)
  | some _ => false

/-- Arguments: an object that may be absent. They are read again as though they were written in their
present order, so that an embedded document may not be announced anywhere in them. -/
def arguments? (value : Option Json) : Option Arguments := do
  let members ← object? value
  Json.expandMembers Json.parse (members.getD [])

/-- The call with the given parts. If one of them is not what it must be, there is no call. -/
def call? (arguments data name task : Option Json) : Option CallParams :=
  match arguments? arguments, name with
  | some arguments, some (.string name) =>
    if isMeta data && isTask task then some ⟨name, arguments⟩ else none
  | _, _ => none

/-- **The parameters of a call of a tool.** In an array they stand in a fixed order, and the last
one may be left out. -/
def toolCall? : Option Json → Option CallParams
  | some (.object members) =>
    call? (Json.lookup "arguments" members) (Json.lookup "_meta" members)
      (Json.lookup "name" members) (Json.lookup "task" members)
  | some (.array [arguments, data, name]) => call? (some arguments) (some data) (some name) none
  | some (.array [arguments, data, name, task]) =>
    call? (some arguments) (some data) (some name) (some task)
  | _ => none

/-- The address with the given data, if both are what they must be. Whether it leads anywhere is not
asked yet. -/
def uriWith? (data uri : Option Json) : Option String :=
  match uri with
  | some (.string uri) => if isMeta data then some uri else none
  | _ => none

/-- **The address of a resource that is to be read.** -/
def uri? : Option Json → Option String
  | some (.object members) => uriWith? (Json.lookup "_meta" members) (Json.lookup "uri" members)
  | some (.array [data, uri]) => uriWith? (some data) (some uri)
  | _ => none

end Params

end Planroom.Tool
