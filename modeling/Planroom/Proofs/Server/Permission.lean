import Planroom.Proofs.Resource.Reads
import Planroom.Proofs.Rpc.Leading
import Planroom.Proofs.Tool.Errands
import Planroom.Server.Methods

/-!
# Who can change the store

There is no gate at which permission is asked for: each tool that changes something asks for it
itself. That this suffices is seen from the jobs. Whoever may not change artifacts gets jobs that
only read, whatever is sent and in whatever order its elements are worked off; and a tool that is
advertised as one that only reads gets such a job for everybody.

* **Callers** — `Context.CannotEdit`: there is no user, or one who may only comment.
* **Messages** — `Rpc.Registry.Keeps`: if each handler keeps what is seen of the state, so does the
  working off of a message, and of a batch in any order.
* **Methods** — `Server.methods_onlyRead`: every method, for such a caller, only reads.
* **Hints** — `Tool.Advertised`, as a client finds it in the list of tools.
-/

namespace Planroom

/-! ## Messages -/

namespace Rpc

variable {σ τ : Type} {view : σ → τ} {registry : Registry σ} {context : Context}

/-- **Does every handler keep what is seen of the state**, called in this context? Other parts of
the state may change, such as the clock. -/
def Registry.Keeps (registry : Registry σ) (context : Context) (view : σ → τ) : Prop :=
  ∀ method handler, registry.find? method = some handler →
    ∀ params state, (handler context params state).Keeps view state

/-- A handler keeps what is seen if it leads to states that look the same. -/
theorem Registry.Keeps.leads (h : registry.Keeps context view) (request : Request) :
    registry.Leads context (fun first second => view second = view first) request :=
  fun handler hfind state => Turn.keeps_iff_leads.1 (h _ handler hfind request.params state)

/-- One request, of which the handler keeps what is seen. -/
theorem keeps_dispatch {request : Request}
    (h : ∀ handler, registry.find? request.method = some handler →
      ∀ state, (handler context request.params state).Keeps view state) (state : σ) :
    (dispatch registry context request state).Keeps view state :=
  Turn.keeps_iff_leads.2 <| dispatch_leads (R := fun first second => view second = view first)
    (fun _ => rfl) (fun handler hfind state => Turn.keeps_iff_leads.1 (h handler hfind state)) state

/-- **A batch** keeps what is seen of the state, in whatever order its elements have their turns,
and at every point on the way. -/
theorem Registry.Keeps.sideBySide (h : registry.Keeps context view) {elements : List Json.Tree}
    {state final : σ} {trace : List (TurnTaken σ)} {left : List (Strand σ (Nat × Answer))}
    (hturns : SideBySide (batchStrands registry context elements) state trace left final) :
    view final = view state :=
  batch_leads (R := fun first second => view second = view first) (fun _ => rfl)
    (fun hfirst hsecond => hsecond.trans hfirst) (fun _ _ request _ => h.leads request) hturns

/-- **A body** keeps what is seen of the state, whatever bytes it is made of. -/
theorem Registry.Keeps.process (h : registry.Keeps context view) (body : ByteArray) (state : σ) :
    view (process registry context body state).state = view state :=
  process_leads (R := fun first second => view second = view first) (fun _ => rfl)
    (fun hfirst hsecond => hsecond.trans hfirst) (fun request _ => h.leads request) state

end Rpc

/-! ## Callers -/

/-- **May the caller change no artifact?** There is no user, or one who may only comment. It is said
of the context, since this is all that a method knows of its caller. -/
def Context.CannotEdit (context : Context) : Prop :=
  ∀ user, context.user = some user → user.role = .commenter

/-- Such a caller is refused. The two cases fail differently, but both fail. -/
theorem Context.CannotEdit.refused {context : Context} (h : context.CannotEdit) :
    ∃ failure, context.requireEditor = .error failure := by
  unfold Context.requireEditor Context.requireUser
  cases huser : context.user with
  | none => exact ⟨_, rfl⟩
  | some user =>
    have hrequire : user.requireEditor = .error (.forbidden .notEditor) := by
      rw [User.requireEditor, h user huser]
      rfl
    refine ⟨.forbidden .notEditor, ?_⟩
    change (user.requireEditor >>= fun _ => pure user) = _
    rw [hrequire]
    rfl

/-! ## Methods -/

namespace Server

open Job

variable {context : Context}

/-- What an access is asked for under limits. -/
theorem ask_onlyReads {access : Access} (h : access.isWrite = false) (context : Context) :
    ((Tool.ask access).run context).OnlyReads :=
  ((onlyReads_ask h).mapError CallError.failed).within _ _

/-- Connecting asks for the prompts, which may fail, and for the active one. -/
theorem connect_onlyReads (params : Option Json) : (connect context params).OnlyReads := by
  refine (onlyReads_ofExcept _).bind fun version => (onlyReads_ofExcept _).bind fun _ => ?_
  have hprompts : (hasPrompts context).OnlyReads := by
    refine (ask_onlyReads rfl context).attempt.bind fun result => ?_
    cases result <;> exact trivial
  have hinstructions : (instructions context).OnlyReads := by
    refine (ask_onlyReads rfl context).attempt.bind fun result => ?_
    cases result with
    | ok prompt => cases prompt <;> exact trivial
    | error => exact trivial
  exact hprompts.bind fun prompts => hinstructions.bind fun text => trivial

theorem listResources_onlyReads (limits : Limits) : (listResources limits context).OnlyReads := by
  refine (onlyReads_limited context limits.resourcesList).bind fun narrowed => ?_
  refine OnlyReads.bind ?_ fun resources => trivial
  exact (Resource.list_onlyReads.mapError CallError.failed).within _ _

theorem readResource_onlyReads (params : Option Json) :
    (readResource context params).OnlyReads := by
  unfold readResource
  cases Tool.Params.uri? params with
  | none => exact trivial
  | some uri =>
    refine OnlyReads.bind ?_ fun contents => trivial
    exact ((Resource.read_onlyReads uri).mapError CallError.failed).within _ _

theorem getPrompt_onlyReads (params : Option Json) : (getPrompt context params).OnlyReads := by
  unfold getPrompt
  cases promptName? params with
  | none => exact trivial
  | some name => exact (ask_onlyReads rfl context).bind fun prompt => trivial

/-- **A tool that only reads** has a job that only reads, whatever the arguments. Looking users and
artifacts up is reading, too. -/
theorem call_onlyReads {tool : Tool} (h : tool.isReadOnly = true) (arguments : Tool.Arguments) :
    (Tool.call tool context arguments).OnlyReads := by
  refine (Tool.call_runsErrand context arguments tool).onlyReads fun access hserves => ?_
  rw [hserves, h]
  rfl

/-- **A call by somebody who may change nothing**: the tool only reads, or the call is refused.
Every tool that writes asks for permission before it does anything else. -/
theorem callNamed_onlyReads (hcaller : context.CannotEdit) (name : String)
    (arguments : Tool.Arguments) : (Tool.callNamed name context arguments).OnlyReads := by
  rw [Tool.callNamed]
  cases Tool.ofName? name with
  | none => exact trivial
  | some tool =>
    cases htool : tool.isReadOnly with
    | true => exact call_onlyReads htool arguments
    | false =>
      obtain ⟨failure, hrefused⟩ := hcaller.refused
      simp only [Tool.call_of_not_editor arguments htool hrefused]
      exact trivial

/-- What a call comes to is told afterwards. -/
theorem callTool_onlyReads {params : Option Json}
    (h : ∀ call, Tool.Params.toolCall? params = some call →
      (Tool.callNamed call.name context call.arguments).OnlyReads) :
    (callTool context params).OnlyReads := by
  unfold callTool
  cases hcall : Tool.Params.toolCall? params with
  | none => exact trivial
  | some call => exact OnlyReads.bind ((h call hcall).within _ _) fun result => trivial

/-- **Apart from the calls of tools**, every method only reads, for whoever calls it. -/
theorem methods_cases {limits : Limits} {entry : String × Method} (hentry : entry ∈ methods limits) :
    entry.2 = callTool ∨ ∀ context params, (entry.2 context params).OnlyReads := by
  simp only [methods, List.mem_cons, List.not_mem_nil, or_false] at hentry
  obtain rfl | rfl | rfl | rfl | rfl | rfl | rfl | rfl | rfl := hentry
  · exact .inr fun _ params => connect_onlyReads params
  · exact .inr fun _ _ => trivial
  · exact .inr fun _ _ => trivial
  · exact .inr fun _ _ => trivial
  · exact .inl rfl
  · exact .inr fun _ _ => listResources_onlyReads limits
  · exact .inr fun _ params => readResource_onlyReads params
  · exact .inr fun context _ => (ask_onlyReads rfl context).bind fun prompts => trivial
  · exact .inr fun _ params => getPrompt_onlyReads params

/-- **Every method only reads** for somebody who may change nothing. It is known from the job and
holds for whatever the services answer. -/
theorem methods_onlyRead (hcaller : context.CannotEdit) (limits : Limits)
    {entry : String × Method} (hentry : entry ∈ methods limits) (params : Option Json) :
    (entry.2 context params).OnlyReads := by
  rcases methods_cases hentry with hcall | hreads
  · rw [hcall]
    exact callTool_onlyReads fun call _ => callNamed_onlyReads hcaller call.name call.arguments
  · exact hreads context params

/-- A handler of a job that only reads leaves the store as it is in each of its turns. -/
theorem handler_keeps {method : Method} {params : Option Json}
    (h : (method context params).OnlyReads) (services : Services) (world : World) :
    (handler services method context params world).Keeps World.store world :=
  (h.keeps services world).conclude _

theorem registry_keeps (hcaller : context.CannotEdit) (services : Services) (limits : Limits) :
    (registry services limits).Keeps context World.store := by
  intro method handler hfind params world
  obtain ⟨found, hfound, rfl⟩ := Option.map_eq_some_iff.1 hfind
  obtain ⟨entry, hentry, rfl⟩ := List.mem_map.1 (List.mem_of_find?_eq_some hfound)
  exact handler_keeps (methods_onlyRead hcaller limits hentry params) services world

end Server

/-! ## Hints -/

namespace Tool

/-- **Is the tool advertised as one that only reads?** A client is told so in the list of tools. -/
def HasReadOnlyHint (tool : Tool) : Prop :=
  (Json.get? "annotations" tool.toJson).bind (Json.get? "readOnlyHint") = some (.bool true)

/-- The hint is there exactly when the tool only reads. So what a client is told can be relied on.
-/
theorem hasReadOnlyHint_iff {tool : Tool} : tool.HasReadOnlyHint ↔ tool.isReadOnly = true := by
  unfold HasReadOnlyHint toJson
  cases tool.isReadOnly with
  | true => exact iff_of_true rfl rfl
  | false => exact iff_of_false nofun nofun

end Tool

namespace Server

open Rpc

/-- The method by which tools are called. -/
theorem find?_toolsCall (services : Services) (limits : Limits) :
    (registry services limits).find? "tools/call" = some (handler services callTool) := by
  rfl

/-- **A call of a tool that only reads** keeps the store in each of its turns. Between the turns
others may change it. -/
theorem keeps_toolCall {tool : Tool} (hreads : tool.isReadOnly = true) (context : Context)
    {request : Request} (hmethod : request.method = "tools/call") {call : Tool.CallParams}
    (hcall : Tool.Params.toolCall? request.params = some call)
    (hname : Tool.ofName? call.name = some tool) (services : Services) (limits : Limits)
    (world : World) :
    (dispatch (registry services limits) context request world).Keeps World.store world := by
  refine keeps_dispatch (fun found hfound world => ?_) world
  rw [hmethod, find?_toolsCall] at hfound
  cases hfound
  refine handler_keeps (callTool_onlyReads fun again hagain => ?_) services world
  obtain rfl := Option.some.inj (hcall.symm.trans hagain)
  rw [Tool.callNamed, hname]
  exact call_onlyReads hreads call.arguments

/-- **Nobody changes what he may not.** Let a caller be unknown, or one who may only comment. Then
whatever bytes are sent as a body, the store is what it was; and if the body is a batch, it is so
whatever order its elements have their turns in and however far they have come. And whoever calls a
tool that is advertised as one that only reads, with whatever arguments: each turn of that call
leaves the store as it finds it, whatever else is done meanwhile; and a body that is this call
leaves the store as it was. -/
theorem store_kept_without_permission (services : Services) (limits : Limits) :
    (∀ context : Context, context.CannotEdit →
      ∀ (body : ByteArray) (world : World),
        (process (registry services limits) context body world).state.store = world.store ∧
        ∀ elements, treeOfBody body = some (.array elements) →
          ∀ trace strands final,
            SideBySide (batchStrands (registry services limits) context elements) world trace
              strands final → final.store = world.store) ∧
    ∀ (context : Context) (tool : Tool), tool.HasReadOnlyHint →
      ∀ (request : Request) (call : Tool.CallParams), request.method = "tools/call" →
        Tool.Params.toolCall? request.params = some call → Tool.ofName? call.name = some tool →
        ∀ world : World,
          (dispatch (registry services limits) context request world).Keeps World.store world ∧
          ∀ body tree, treeOfBody body = some tree → Request.ofTree tree = .ok request →
            (process (registry services limits) context body world).state.store = world.store := by
  constructor
  · intro context hcaller body world
    have hkeeps := registry_keeps hcaller services limits
    exact ⟨hkeeps.process body world, fun elements _ trace strands final => hkeeps.sideBySide⟩
  · intro context tool hhint request call hmethod hcall hname world
    have hkeeps := keeps_toolCall (Tool.hasReadOnlyHint_iff.1 hhint) context hmethod hcall hname
      services limits world
    refine ⟨hkeeps, fun body tree hbody hrequest => ?_⟩
    rw [process_of_request hbody hrequest]
    exact hkeeps.finish

/-- Somebody with this role. -/
def alice (role : Role) : Context :=
  ⟨"c", some ⟨(Stamp.nth 0).id, "alice", role⟩, .none⟩

/-- A body by which an epic is created, if that is permitted. -/
def creatingEpic : String :=
  "\x7b\"jsonrpc\":\"2.0\",\"id\":1,\"method\":\"tools/call\"," ++
    "\"params\":\x7b\"name\":\"create_epic\"," ++
      "\"arguments\":\x7b\"title\":\"Search\",\"priority\":1\x7d\x7d\x7d"

/-- A search, without a word to search for. -/
def searching : Request :=
  ⟨none, "tools/call", some (.object [("name", .string "search_global")]), .jsonrpc⟩

/-- A server at its beginning. -/
def beginning : World :=
  ⟨.initial [⟨(Stamp.nth 0).id, "alice", .user⟩] [], 0, 0⟩

/-- The same body creates an epic for somebody who may do so, and nothing for somebody who may only
comment. A search leaves the store alone whoever searches. -/
theorem store_kept_without_permission_commenting :
    (process (registry (.ofStore .nth) ⟨1000, 1000⟩) (alice .user) creatingEpic.toUTF8
        beginning).state.store.epics.values.length = 1 ∧
      (process (registry (.ofStore .nth) ⟨1000, 1000⟩) (alice .commenter) creatingEpic.toUTF8
        beginning).state.store = beginning.store ∧
      (dispatch (registry (.ofStore .nth) ⟨1000, 1000⟩) (alice .user) searching beginning).Keeps
        World.store beginning := by
  have hcommenter : (alice .commenter).CannotEdit := by
    rintro user ⟨⟩
    rfl
  obtain ⟨hcallers, htools⟩ := store_kept_without_permission (.ofStore .nth) ⟨1000, 1000⟩
  have hbody := hcallers (alice .commenter) hcommenter creatingEpic.toUTF8 beginning
  have hsearch := htools (alice .user) .searchGlobal (Tool.hasReadOnlyHint_iff.2 rfl) searching
    ⟨"search_global", []⟩ rfl (by rfl) (Tool.ofName?_name .searchGlobal) beginning
  exact ⟨by decide +kernel, hbody.1, hsearch.1⟩

end Server

end Planroom
