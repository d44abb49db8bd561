import Planroom.Http.Bearer
import Planroom.Http.Comments
import Planroom.Http.Correlation
import Planroom.Http.Route
import Planroom.Server.Methods

/-!
# The site

How a request is served, from its path to its response.

* **Order** — a path that leads nowhere is told so at once. The user of an action must be known before
  anything else is looked at, even whether the path knows the verb.
* **Log** — every request is logged when its response is made, with a warning if it was refused for
  want of a user or of a permission.
-/

namespace Planroom.Http

/-- **What a site is run with.** Nothing of it changes while the site runs. -/
structure Site where
  credentials : List Credential
  services : Services
  limits : Server.Limits
  requestTimeout : Span

/-- **What came of a request.** In the last two cases there is no response; they are what a caller
sees as a connection that breaks or stays silent. -/
inductive Outcome where
  | answered (response : Response)
  | aborted (reason : Abort)
  | hung
  deriving Repr

/-- **A request that has been served**: what came of it, the world after it, and what was logged. -/
structure Exchange where
  outcome : Outcome
  world : World
  events : List Audit.Event

namespace Exchange

/-- The exchange that ends with a response and changes nothing. -/
def reply (world : World) (response : Response) : Exchange :=
  ⟨.answered response, world, []⟩

/-- The exchange that ends with a fault and changes nothing. -/
def decline (world : World) (fault : Fault) : Exchange :=
  ⟨.answered fault.response, world, fault.events⟩

/-- **The exchange of a job** that has been run; its fault is a response as well. What the job has
changed stays changed, however it ended. -/
def ofEnded (ended : Ended World (Fate Fault Response)) : Exchange :=
  match ended.value with
  | .returned (.ok response) => ⟨.answered response, ended.state, ended.events⟩
  | .returned (.error fault) =>
    ⟨.answered fault.response, ended.state, ended.events ++ fault.events⟩
  | .aborted reason => ⟨.aborted reason, ended.state, ended.events⟩
  | .hung => ⟨.hung, ended.state, ended.events⟩

end Exchange

/-- What a page says. It is the same for every site. -/
def Landing.content : Landing → Json
  | .health => .object [("status", .string "ok")]
  | .discovery =>
    .object [
      ("name", .string "spexus-mcp"),
      ("version", .string Server.release),
      ("mcp_endpoint", .string "/mcp")]

/-- The status of a reply of the protocol. An error of a call is not one of the exchange, which
succeeded if there is a reply. -/
def rpcStatus (parseFailed : Bool) : Nat :=
  if parseFailed then 400 else 200

/-- **The response to a body of the protocol.** Whether the body was no JSON at all is told by the
status too. -/
def Outcome.ofReply (parseFailed : Bool) : Rpc.Reply → Outcome
  | .nothing => .answered .noContent
  | .single response => .answered ⟨rpcStatus parseFailed, .json response.toJson⟩
  | .batch responses =>
    .answered ⟨rpcStatus parseFailed, .json (.array (responses.map Rpc.Response.toJson))⟩
  | .aborted reason => .aborted reason
  | .hung => .hung

/-- Is the content type that of JSON, loosely read? Without one it is not. -/
def Request.hasJson (request : Request) : Bool :=
  match request.plainHeader? "content-type" with
  | some contentType => Media.isJson contentType
  | none => false

namespace Site

/-- **The site with these settings.** `stamp` is what its store is given from outside. Spans of time
become milliseconds here. -/
def ofSettings (settings : Settings) (stamp : Nat → Stamp) : Site :=
  { credentials := settings.credentials
    services := .ofStore stamp
    limits :=
      { slowOperation := settings.slowOperationMillis
        resourcesList := settings.resourcesListTimeoutSeconds * 1000 }
    requestTimeout := settings.requestTimeoutSeconds * 1000 }

/-- **The world that a site begins with**: the users and the prompt of its settings. There is
nothing else in it yet. -/
def firstWorld (settings : Settings) (promptId : Uuid) (now : Instant) : World :=
  ⟨.initial settings.users (settings.prompts promptId), now, 0⟩

/-- **Speak the protocol**, under the time limit of the site. The limit begins when the body has
been accepted. -/
def rpc (site : Site) (correlationId : String) (user : User) (request : Request)
    (world : World) : Exchange :=
  if request.isTooLarge then .decline world (.refused .tooLarge)
  else if !request.hasJson then .decline world (.problem .unsupportedMediaType)
  else
    -- Nobody cancels a request here: the only limit is the deadline that comes next.
    let context : Context := ⟨correlationId, some user, .none⟩
    match context.withTimeout? world.now site.requestTimeout with
    | none => ⟨.aborted .clockOverflow, world, []⟩
    | some context =>
      let processed := Rpc.process (Server.registry site.services site.limits) context
        request.body world
      ⟨.ofReply processed.parseFailed processed.reply, processed.state, processed.events⟩

/-- **Do what a known user wants to do.** Comments have no time limit; the protocol has the site's.
-/
def act (site : Site) (correlationId : String) (user : User) (action : Action)
    (request : Request) (world : World) : Exchange :=
  let run (job : Job Fault Response) : Exchange := .ofEnded (job.exec site.services world)
  match action with
  | .rpc => site.rpc correlationId user request world
  | .replies comment => run (Comments.listReplies comment)
  | .resolve comment => run (Comments.setResolved user true comment)
  | .unresolve comment => run (Comments.setResolved user false comment)
  | .comments collection artifact =>
    match request.verb with
    | .post => run (Comments.create user request collection artifact)
    | _ => run (Comments.list collection artifact)
  | .visibleComments collection artifact => run (Comments.listVisible collection artifact)

/-- **Follow the path of a request.** The user is asked for before the verb is looked at, so that
somebody unknown does not learn which verbs there are. -/
def follow (site : Site) (correlationId : String) (request : Request) (world : World) :
    Exchange :=
  match Route.ofPath? request.path with
  | none => .reply world .unknownPath
  | some (.landing landing) =>
    if (Route.landing landing).knows request.verb then .reply world (.ok landing.content)
    else .reply world .wrongVerb
  | some (.action action) =>
    -- An unknown user is told so even under a verb that the route does not know.
    match authenticate site.credentials request with
    | .error fault => .decline world fault
    | .ok user =>
      if (Route.action action).knows request.verb then
        site.act correlationId user action request world
      else .reply world .wrongVerb

/-- What is logged when a response is made. The warnings go by the status alone, whoever chose it.
-/
def closingEvents (correlationId : String) (request : Request) (status : Nat) (elapsed : Span) :
    List Audit.Event :=
  .answered correlationId request.verb.name request.path status elapsed ::
    (if status = 401 then
      [.unauthenticated correlationId request.verb.name request.path]
    else if status = 403 then
      [.unauthorized correlationId request.verb.name request.path]
    else [])

/-- **Serve a request.** `fresh` is the identifier under which it is logged if it brings none.
Without a response nothing more is logged. -/
def serve (site : Site) (fresh : Uuid) (request : Request) (world : World) : Exchange :=
  let correlationId := correlationId fresh request
  let exchange := site.follow correlationId request world
  match exchange.outcome with
  | .answered response =>
    { exchange with
      events := exchange.events ++
        closingEvents correlationId request response.status (exchange.world.now - world.now) }
  | _ => exchange

end Site

end Planroom.Http
