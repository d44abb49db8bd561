import Planroom.Http.Target
import Planroom.Json.Basic
import Planroom.Text.Lowercase

/-!
# Requests and responses

* **Requests** — a verb, a target, headers in the order in which they came, and a body of bytes.
* **Headers** — names are compared without regard to case, and of several headers of one name the
  first one counts. Only a value of printable characters is a text.
* **Responses** — a status and a content, which is data, a sentence, or nothing.
-/

namespace Planroom.Http

/-- **What a request wants to do**, as far as the routes know it. -/
inductive Verb where
  | get
  | post
  | put
  | delete
  deriving DecidableEq, Repr

/-- How the verb is written. -/
def Verb.name : Verb → String
  | .get => "GET"
  | .post => "POST"
  | .put => "PUT"
  | .delete => "DELETE"

/-- **A request.** The body has arrived as a whole by the time anything is looked at. -/
structure Request where
  verb : Verb
  target : String
  headers : List (String × String)
  body : ByteArray

/-- The number of bytes that a body may have: two mebibytes. -/
def maxBodyBytes : Nat := 2 * 1024 * 1024

/-- Space, tab, or a visible ASCII character. -/
def isPrintable (c : Char) : Bool :=
  (' ' ≤ c && c ≤ '~') || c == '\t'

namespace Request

/-- The path of the target, as written. What follows it leads nowhere else. -/
def path (request : Request) : String :=
  Target.path request.target

/-- The value of the first header of this name, which is given in lower case. A second one of that
name is never seen. -/
def header? (request : Request) (name : String) : Option String :=
  (request.headers.find? fun header => Text.asciiLower header.1 == name).map (·.2)

/-- The value of the first header of this name, if it is printable. If it is not, no later one is
tried. -/
def plainHeader? (request : Request) (name : String) : Option String :=
  (request.header? name).filter fun value => value.toList.all isPrintable

/-- Is the body longer than it may be? It is bytes that are counted, and not characters. -/
def isTooLarge (request : Request) : Bool :=
  maxBodyBytes < request.body.size

end Request

/-- **What a response holds.** What it is decides in which media type it is sent. -/
inductive Content where
  | empty
  | json (value : Json)
  | sentence (text : String)
  deriving Repr

/-- **A response.** Its headers follow from the rest and are left out. -/
structure Response where
  status : Nat
  content : Content
  deriving Repr

namespace Response

/-- All went well, and here is the result, which may be an empty list. -/
def ok (value : Json) : Response := ⟨200, .json value⟩

/-- Something has been created, namely this. -/
def created (value : Json) : Response := ⟨201, .json value⟩

/-- All went well, and there is nothing to say: the request had only notifications. -/
def noContent : Response := ⟨204, .empty⟩

/-- There is nothing under this path, whoever is asking. -/
def unknownPath : Response := ⟨404, .empty⟩

/-- The path does not know this verb, though it knows another one. -/
def wrongVerb : Response := ⟨405, .empty⟩

end Response

end Planroom.Http
