import Planroom.Http.Message
import Planroom.Text.Cut

/-!
# Routes

What a path leads to. A path is compared part by part, as it is written; the parts that name
something are not read yet, and any of them may be empty.
-/

namespace Planroom.Http

/-- **A page** that everybody may see. It says nothing about what is stored. -/
inductive Landing where
  | health
  | discovery
  deriving DecidableEq, Repr

/-- **Something that a user may do.** The texts are parts of the path as written, with their
escapes. -/
inductive Action where
  | rpc
  | replies (comment : String)
  | resolve (comment : String)
  | unresolve (comment : String)
  | comments (collection artifact : String)
  | visibleComments (collection artifact : String)
  deriving DecidableEq, Repr

/-- **What a path leads to.** -/
inductive Route where
  | landing (landing : Landing)
  | action (action : Action)
  deriving DecidableEq, Repr

namespace Route

/-- The action with these parts after `/api/v1/`. No path fits two of them. -/
def ofApiParts? : List String → Option Action
  | ["comments", comment, "replies"] => some (.replies comment)
  | ["comments", comment, "resolve"] => some (.resolve comment)
  | ["comments", comment, "unresolve"] => some (.unresolve comment)
  | [collection, artifact, "comments"] => some (.comments collection artifact)
  | [collection, artifact, "comments", "inline", "visible"] =>
    some (.visibleComments collection artifact)
  | _ => none

/-- The route with these parts, of which the first one stands before the first slash and is empty in
every path. -/
def ofParts? : List String → Option Route
  | ["", "health"] => some (.landing .health)
  | ["", ".well-known", "mcp"] => some (.landing .discovery)
  | ["", "mcp"] => some (.action .rpc)
  | "" :: "api" :: "v1" :: parts => (ofApiParts? parts).map .action
  | _ => none

/-- **The route of a path**, if there is one. A slash at the end makes another path of it. -/
def ofPath? (path : String) : Option Route :=
  ofParts? (Text.split '/' path)

/-- **The verbs that a route knows.** The comments on an artifact are the only ones that are both
listed and made under one path. -/
def verbs : Route → List Verb
  | .landing _ => [.get]
  | .action (.replies _) | .action (.visibleComments _ _) => [.get]
  | .action .rpc | .action (.resolve _) | .action (.unresolve _) => [.post]
  | .action (.comments _ _) => [.get, .post]

/-- Does the route know the verb? This is asked after the user of an action is known. -/
def knows (route : Route) (verb : Verb) : Bool :=
  route.verbs.contains verb

end Route

end Planroom.Http
