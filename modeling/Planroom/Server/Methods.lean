import Planroom.Resource.Reading
import Planroom.Rpc.Dispatch
import Planroom.Server.Handshake
import Planroom.Tool.Call
import Planroom.Tool.Params

/-!
# Methods

The methods of the protocol and what they do. All that waits for the store does so under the limits of
its context. Connecting never fails because of the prompts: where they cannot be had, there are none.
-/

namespace Planroom.Server

/-- How long the server takes before it counts as slow, and how long it may list resources. The
first only makes it log something, the second stops the work. -/
structure Limits where
  slowOperation : Span
  resourcesList : Span
  deriving DecidableEq, Repr

/-- Parameters that a method cannot do with. What is wrong with them is not said. -/
def invalidParams : CallError := .invalidParams "Invalid params"

/-- **Are there any prompts?** Not if they cannot be listed in time. A client that connects does not
learn that something failed. -/
def hasPrompts (context : Context) : Job CallError Bool := do
  match ← Job.attempt ((Tool.ask .listPrompts).run context) with
  | .ok prompts => return !prompts.isEmpty
  | .error (_ : CallError) => return false

/-- **What the active prompt says**, or nothing if it cannot be had in time, or if no prompt is
active. -/
def instructions (context : Context) : Job CallError String := do
  match ← Job.attempt ((Tool.ask .activePrompt).run context) with
  | .ok (some prompt) => return prompt.content
  | .ok none => return ""
  | .error (_ : CallError) => return ""

/-- Connect. The parameters are checked before anything is asked of the store, and after that
nothing can fail. -/
def connect (context : Context) (params : Option Json) : Job CallError Json := do
  let version ← Job.ofExcept (Version.negotiate params)
  Job.ofExcept (checkClientInfo params)
  let prompts ← hasPrompts context
  return greeting version prompts (← instructions context)

/-- List the tools. As they are the same for everybody, nothing is asked of the store or of the
context. -/
def listTools : Json :=
  .object [("tools", .array (Tool.all.map Tool.toJson))]

/-- Call a tool. Reading the parameters is not under the limits, all the rest is. -/
def callTool (context : Context) (params : Option Json) : Job CallError Json := do
  match Tool.Params.toolCall? params with
  | none => .fail invalidParams
  | some call =>
    let result ← (Tool.callNamed call.name context call.arguments).run context
    return result.toJson

/-- List the resources, under a time limit of its own, which begins when the listing does. The
earlier of the two limits counts. -/
def listResources (limits : Limits) (context : Context) : Job CallError Json := do
  let narrowed ← Job.limited context limits.resourcesList
  let resources ← Resource.list.asCall.run narrowed
  return .object [("resources", .array (resources.map Descriptor.toJson))]

/-- Read a resource, under the limits of the context only. -/
def readResource (context : Context) (params : Option Json) : Job CallError Json := do
  match Tool.Params.uri? params with
  | none => .fail invalidParams
  | some uri =>
    let contents ← (Resource.read uri).asCall.run context
    return contents.toJson

/-- What is told of a prompt. It has no arguments, and its content is not told here. -/
def promptJson (prompt : Prompt) : Json :=
  .object [
    ("arguments", .array []),
    ("description", .ofString? prompt.description),
    ("name", .string prompt.name),
    ("title", .string prompt.title)]

/-- List the prompts, those that are not active too. -/
def listPrompts (context : Context) : Job CallError Json := do
  let prompts ← (Tool.ask .listPrompts).run context
  return .object [("prompts", .array (prompts.map promptJson))]

/-- A prompt as messages: a single one, which the other side speaks. The title stands in for a
description that is missing. -/
def promptMessages (prompt : Prompt) : Json :=
  .object [
    ("description", .string (prompt.description.getD prompt.title)),
    ("messages", .array [.object [
      ("content", .object [("text", .string prompt.content), ("type", .string "text")]),
      ("role", .string "assistant")]])]

/-- The name of a prompt: a text that is not blank. It is looked for as it stands. -/
def promptName? (params : Option Json) : Option String :=
  match params.bind (Json.get? "name") with
  | some (.string name) => if Text.isBlankText name then none else some name
  | _ => none

/-- Get a prompt. One need not be active to be got. -/
def getPrompt (context : Context) (params : Option Json) : Job CallError Json := do
  match promptName? params with
  | none => .fail (.invalidParams (Tool.Argument.Fault.missing "name").message)
  | some name =>
    let prompt ← (Tool.ask (.getPrompt name)).run context
    return promptMessages prompt

/-- **A method**: what it does with a context and parameters. It is a job, so it is known before it
is run which accesses it may make. -/
abbrev Method := Context → Option Json → Job CallError Json

/-- **All methods**, by name. Their names are different, so their order does not matter. -/
def methods (limits : Limits) : List (String × Method) :=
  [("initialize", connect),
    ("notifications/initialized", fun _ _ => .done .null),
    ("ping", fun _ _ => .done (.object [])),
    ("tools/list", fun _ _ => .done listTools),
    ("tools/call", callTool),
    ("resources/list", fun context _ => listResources limits context),
    ("resources/read", readResource),
    ("prompts/list", fun context _ => listPrompts context),
    ("prompts/get", getPrompt)]

/-- **The handler of a method**: its job is run against the world. The time it took is what the
clock has moved on meanwhile. -/
def handler (services : Services) (method : Method) : Rpc.Handler World :=
  fun context params world =>
    ((method context params).start services world).conclude fun later fate =>
      ([], ⟨fate, later.now - world.now⟩)

/-- **The registry of all methods.** It is the one that the program answers with. -/
def registry (services : Services) (limits : Limits) : Rpc.Registry World :=
  { handlers := (methods limits).map fun entry => (entry.1, handler services entry.2)
    slowThreshold := limits.slowOperation }

end Planroom.Server
