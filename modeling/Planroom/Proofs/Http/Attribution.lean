import Planroom.Proofs.Http.Bearer
import Planroom.Proofs.Http.Comments
import Planroom.Proofs.Http.Status
import Planroom.Proofs.Server.Permission
import Planroom.Proofs.Settings.Credentials
import Planroom.Proofs.Store.Contributions
import Planroom.Proofs.Store.Users
import Planroom.Proofs.Tool.Conduct

/-!
# Whose token it was

The store takes the maker of whatever is made as it is given. That it is the user whose token came with
the request, and one who may make it, is the work of all that lies between: the token names the user,
the user is in the context of the call, and each tool takes the maker from there.

* **Calls** — `Server.makes_of_method`: what a method makes it makes in the name of the user of its
  context, who may change artifacts.
* **Requests** — `Site.MayAsk`: what a request may make a site ask for on account of a user. Nothing of
  it is made in the name of anybody else (`Site.MayAsk.makes`).
* **Serving** — `Site.serve_reaches`: that is all that becomes of the store when a request is served.
* **Whoever comes** — `contributions_are_attributed`: requests are served one after another, or all at
  once, so that the store is asked for something on account of this one and then of that one.
-/

namespace Planroom

/-! ## Calls -/

namespace Server

variable {context : Context} {params : Option Json} {access : Access} {made : Product × Uuid}

/-- What a job that only reads asks for makes nothing. -/
theorem not_makes_of_onlyReads {ε α : Type} {job : Job ε α} (h : job.OnlyReads)
    (hasked : job.MayAsk access) : access.makes? ≠ some made := by
  intro hmakes
  have hread := h.of_mayAsk hasked
  rw [Access.isWrite_of_makes? hmakes] at hread
  cases hread

/-- **What a call of a tool makes** it makes in the name of the user of its context. No argument of
a tool can name anybody else as the maker. -/
theorem makes_of_callTool (hasked : (callTool context params).MayAsk access)
    (hmakes : access.makes? = some made) :
    ∃ user, context.requireEditor = .ok user ∧ made.2 = user.id := by
  cases hcall : Tool.Params.toolCall? params with
  | none =>
    rw [callTool, hcall] at hasked
    exact hasked.elim
  | some call =>
    cases hname : Tool.ofName? call.name with
    | none =>
      -- a name that no tool has asks for nothing
      refine absurd hmakes (not_makes_of_onlyReads (callTool_onlyReads fun again hagain => ?_) hasked)
      obtain rfl := Option.some.inj (hcall.symm.trans hagain)
      rw [Tool.callNamed, hname]
      exact trivial
    | some tool =>
      have hacts := (callTool_abides hcall hname fun _ _ _ => True).of_mayAsk Tool.knows_anything
        hasked
      obtain ⟨user, huser, hmade⟩ := (hacts (Access.isWrite_of_makes? hmakes)).maker
      exact ⟨user, huser, hmade made hmakes⟩

/-- **What a method makes** it makes in the name of the user of its context, who may change
artifacts. All methods but the one that calls tools only read. -/
theorem makes_of_method {limits : Limits} {entry : String × Method} (hentry : entry ∈ methods limits)
    (hasked : (entry.2 context params).MayAsk access) (hmakes : access.makes? = some made) :
    ∃ user, context.requireEditor = .ok user ∧ made.2 = user.id := by
  rcases methods_cases hentry with hcall | hreads
  · rw [hcall] at hasked
    exact makes_of_callTool hasked hmakes
  · exact absurd hmakes (not_makes_of_onlyReads (hreads context params) hasked)

end Server

/-- Who is asked for as one who may change artifacts is the user of the context, and may do so. -/
theorem Context.of_requireEditor {context : Context} {user : User}
    (h : context.requireEditor = .ok user) :
    context.user = some user ∧ user.role.canEdit = true := by
  obtain ⟨found, hfound, h⟩ := Store.ok_of_bind h
  obtain ⟨_, hrole, h⟩ := Store.ok_of_bind h
  cases h
  unfold requireUser at hfound
  unfold User.requireEditor at hrole
  constructor
  · split at hfound
    · next huser =>
      cases hfound
      exact huser
    · cases hfound
  · split at hrole
    · assumption
    · cases hrole

namespace Http

/-! ## Requests -/

/-- **May a request make a site ask for an access**, on account of this user? It is said of the job
and not of a run of it, so whatever the services answer is covered. -/
inductive Site.MayAsk (site : Site) (request : Request) (user : User) (access : Access) : Prop where
  | comment {action : Action} {job : Job Fault Response}
      (hpath : Route.ofPath? request.path = some (.action action))
      (hjob : action.job? user request = some job) (hasked : job.MayAsk access)
  | message {message : Rpc.Request} {context : Context} {entry : String × Server.Method}
      (hpath : Route.ofPath? request.path = some (.action .rpc))
      (hstands : message.StandsIn request.body) (huser : context.user = some user)
      (hentry : entry ∈ Server.methods site.limits) (hmethod : entry.1 = message.method)
      (hasked : (entry.2 context message.params).MayAsk access)

/-- **Is this what a request may make a site ask for**, on account of the user whose token it
brings? Without a token that is known it is nothing. -/
def Site.Allows (site : Site) (request : Request) (access : Access) : Prop :=
  ∃ user, authenticate site.credentials request = .ok user ∧ site.MayAsk request user access

/-- **Nothing is made in the name of anybody else**, and nothing but remarks by one who may not
change artifacts. -/
theorem Site.MayAsk.makes {site : Site} {request : Request} {user : User} {access : Access}
    (h : site.MayAsk request user access) {made : Product × Uuid}
    (hmakes : access.makes? = some made) :
    made.2 = user.id ∧ (made.1 ≠ .remark → user.role.canEdit = true) := by
  cases h with
  | comment hpath hjob hasked =>
    rcases (Action.job?_runsErrandFor hjob).of_mayAsk hasked with hlookup | hserves
    · have hread := Access.isWrite_of_isLookup hlookup
      rw [Access.isWrite_of_makes? hmakes] at hread
      cases hread
    · obtain rfl := hserves.makes made hmakes
      exact ⟨rfl, fun hnot => absurd rfl hnot⟩
  | message hpath hstands huser hentry hmethod hasked =>
    obtain ⟨maker, hmaker, hmade⟩ := Server.makes_of_method hentry hasked hmakes
    obtain ⟨hcontext, hrole⟩ := Context.of_requireEditor hmaker
    obtain rfl := Option.some.inj (hcontext.symm.trans huser)
    exact ⟨hmade, fun _ => hrole⟩

/-! ## Serving -/

theorem Exchange.ofEnded_world (ended : Ended World (Fate Fault Response)) :
    (ofEnded ended).world = ended.state := by
  unfold ofEnded
  split <;> rfl

namespace Site

variable {site : Site} {request : Request} {user : User}

/-- What the handler of a message asks for. -/
theorem registry_leads {context : Context} {message : Rpc.Request}
    (hpath : Route.ofPath? request.path = some (.action .rpc))
    (hstands : message.StandsIn request.body) (huser : context.user = some user) :
    (Server.registry site.services site.limits).Leads context
      (World.Reaches fun access => site.MayAsk request user access) message := by
  intro handler hfind world
  obtain ⟨found, hfound, rfl⟩ := Option.map_eq_some_iff.1 hfind
  obtain ⟨hmem, hmethod⟩ := of_find?_key hfound
  obtain ⟨entry, hentry, rfl⟩ := List.mem_map.1 hmem
  have hjob := (entry.2 context message.params).start_leads site.services world
  refine Turn.Leads.conclude (hjob.imp fun hreaches => hreaches.imp fun hasked => ?_) _
  exact .message hpath hstands huser hentry hmethod hasked

/-- Speaking the protocol asks for nothing else than what the messages of the body may ask for. -/
theorem rpc_reaches (hpath : Route.ofPath? request.path = some (.action .rpc)) (correlationId : String)
    (world : World) :
    world.Reaches (fun access => site.MayAsk request user access)
      (site.rpc correlationId user request world).world := by
  unfold rpc
  split
  · exact .refl world
  · split
    · exact .refl world
    · dsimp only
      split
      · exact .refl world
      · next context hcontext =>
        obtain ⟨limits, -, rfl⟩ := Option.map_eq_some_iff.1 hcontext
        exact Rpc.process_leads .refl .trans (fun message hstands => registry_leads hpath hstands rfl)
          world

/-- Doing what a user wants to do. -/
theorem act_reaches {action : Action} (hpath : Route.ofPath? request.path = some (.action action))
    (correlationId : String) (world : World) :
    world.Reaches (fun access => site.MayAsk request user access)
      (site.act correlationId user action request world).world := by
  cases hjob : action.job? user request with
  | none =>
    cases action with
    | rpc => exact rpc_reaches hpath correlationId world
    | comments collection artifact =>
      rw [Action.job?] at hjob
      split at hjob <;> cases hjob
    | _ => cases hjob
  | some job =>
    rw [act_of_job hjob, Exchange.ofEnded_world]
    exact ((job.start_leads site.services world).imp fun hreaches =>
      hreaches.imp fun hasked => .comment hpath hjob hasked).finish .trans

/-- **Serving a request** asks the store for nothing else than what the request may make the site
ask for, on account of the user whose token it brings. Most requests ask for nothing at all. -/
theorem serve_reaches (site : Site) (fresh : Uuid) (request : Request) (world : World) :
    world.Reaches (fun access => site.Allows request access) (site.serve fresh request world).world := by
  rw [serve_world, follow]
  split
  · exact .refl world
  · split <;> exact .refl world
  · next action hpath =>
    split
    · exact .refl world
    · next user huser =>
      split
      · exact (act_reaches hpath _ world).imp fun hmay => ⟨user, huser, hmay⟩
      · exact .refl world

end Site

/-! ## Whoever comes -/

/-- **A request that comes to a site** a while after the one before it. Both the time and the
identifier under which it is logged may be any. -/
structure Visit where
  fresh : Uuid
  request : Request
  waited : Span

/-- **Something that the store is asked for** on account of a request. Deeds of several requests may
come in any order, as when these are served at once. -/
structure Deed where
  request : Request
  step : Step

namespace Site

/-- The world when the request of a visit has been served. -/
def receive (site : Site) (world : World) (visit : Visit) : World :=
  (site.serve visit.fresh visit.request { world with now := world.now + visit.waited }).world

/-- **Serve one request after another**, each in the world that the one before it has left. -/
def receiveAll (site : Site) (world : World) (visits : List Visit) : World :=
  visits.foldl site.receive world

variable (site : Site) (world : World)

theorem receive_reaches (visit : Visit) :
    world.Reaches (fun access => site.Allows visit.request access) (site.receive world visit) :=
  serve_reaches site visit.fresh visit.request _

/-- Serving requests asks the store for nothing else than what they may make the site ask for. -/
theorem receiveAll_reaches (visits : List Visit) :
    world.Reaches (fun access => ∃ visit ∈ visits, site.Allows visit.request access)
      (site.receiveAll world visits) := by
  induction visits generalizing world with
  | nil => exact .refl world
  | cons visit rest ih =>
    have hfirst := (receive_reaches site world visit).imp
      fun hallows => (⟨visit, List.mem_cons_self, hallows⟩ :
        ∃ other ∈ visit :: rest, site.Allows other.request _)
    refine hfirst.trans ((ih _).imp ?_)
    rintro access ⟨other, hmem, hallows⟩
    exact ⟨other, List.mem_cons_of_mem _ hmem, hallows⟩

end Site

end Http

open Http

namespace Settings

variable {settings : Settings}

/-- **Is this the work of the user whose token came with the request**, a configured one who may
make it? That the maker is also known to the store is said apart, since the store only keeps an
identifier. -/
structure Attributes (settings : Settings) (store : Store) (request : Request)
    (contribution : Contribution) (user : User) : Prop where
  token : authenticate settings.credentials request = .ok user
  configured : user ∈ settings.users
  maker : contribution.maker = user.id
  permitted : contribution.product ≠ .remark → user.role = .administrator ∨ user.role = .user
  known : store.users.contains contribution.maker = true

/-- **Has everything come in with a request of its maker?** There are turns, each taken on account
of a request, and the store after any number of them. One of them is the turn by which the
contribution came in. -/
def Attributed {τ : Type} (settings : Settings) (request : τ → Request) (storeAfter : List τ → Store)
    (turns : List τ) : Prop :=
  ∀ contribution ∈ (storeAfter turns).contributions,
    ∃ before turn rest user, turns = before ++ turn :: rest ∧
      contribution ∉ (storeAfter before).contributions ∧
      contribution ∈ (storeAfter (before ++ [turn])).contributions ∧
      settings.Attributes (storeAfter turns) (request turn) contribution user

theorem mem_users_of_authenticate {request : Request} {user : User}
    (h : authenticate settings.credentials request = .ok user) : user ∈ settings.users := by
  obtain ⟨token, -, howner⟩ := authenticate_eq_ok_iff.1 h
  obtain ⟨credential, hmem, -, rfl⟩ := Credential.of_owner? howner
  exact List.mem_map_of_mem hmem

/-- **What a request makes a site make** is the work of the user whose token it brings. Users stay
as they were configured, so the maker is still known. -/
theorem exists_attributes {stamp : Nat → Stamp} {request : Request} {access : Access}
    (hallows : (Site.ofSettings settings stamp).Allows request access) {contribution : Contribution}
    (hmakes : access.Makes contribution) {store : Store} {prompts : List Prompt}
    (husers : store.users = (Store.initial settings.users prompts).users) :
    ∃ user, settings.Attributes store request contribution user := by
  obtain ⟨user, htoken, hmay⟩ := hallows
  obtain ⟨hmaker, hpermitted⟩ := hmay.makes hmakes
  have hconfigured := mem_users_of_authenticate htoken
  refine ⟨user, htoken, hconfigured, hmaker, fun hproduct => ?_, ?_⟩
  · have hrole := hpermitted hproduct
    cases hname : user.role with
    | administrator => exact .inl rfl
    | user => exact .inr rfl
    | commenter =>
      rw [hname] at hrole
      cases hrole
  · rw [husers, show contribution.maker = user.id from hmaker]
    exact Store.contains_users_initial hconfigured

variable (settings : Settings) (stamp : Nat → Stamp) (promptId : Uuid) (now : Instant)

/-- One request after another. -/
theorem attributed_visits (visits : List Visit) :
    settings.Attributed Visit.request
      (fun visits => ((Site.ofSettings settings stamp).receiveAll
        (Site.firstWorld settings promptId now) visits).store) visits := by
  intro contribution hcontribution
  have hfirst := Store.not_mem_contributions_initial settings.users (settings.prompts promptId)
    contribution
  -- there is a first visit after which the contribution is there
  obtain ⟨before, visit, rest, hvisits, hbefore, hafter⟩ := exists_turn_of_foldl
    (P := fun world : World => contribution ∉ world.store.contributions)
    (show contribution ∉ (Site.firstWorld settings promptId now).store.contributions from hfirst)
    (not_not_intro hcontribution)
  have hmade := not_not.1 hafter
  obtain ⟨steps, hsteps, hallows⟩ := Site.receive_reaches (Site.ofSettings settings stamp)
    (before.foldl (Site.receive _) (Site.firstWorld settings promptId now)) visit
  have hnew := hmade
  rw [hsteps] at hnew
  -- and a first step of it, which makes the contribution
  obtain ⟨earlier, step, later, rfl, -, -, hmakes⟩ := Store.exists_maker hbefore hnew
  obtain ⟨all, hall, -⟩ := Site.receiveAll_reaches (Site.ofSettings settings stamp)
    (Site.firstWorld settings promptId now) visits
  obtain ⟨user, hattributes⟩ := exists_attributes
    (hallows step (List.mem_append_right _ List.mem_cons_self)) hmakes
    ((congrArg Store.users hall).trans (Store.users_run all))
  refine ⟨before, visit, rest, user, hvisits, hbefore, ?_, hattributes⟩
  simp only [Site.receiveAll, List.foldl_append, List.foldl_cons, List.foldl_nil]
  exact hmade

/-- Requests all at once. -/
theorem attributed_deeds {deeds : List Deed}
    (hallows : ∀ deed ∈ deeds,
      (Site.ofSettings settings stamp).Allows deed.request deed.step.access) :
    settings.Attributed Deed.request
      (fun deeds => (Site.firstWorld settings promptId now).store.run (deeds.map Deed.step))
      deeds := by
  intro contribution hcontribution
  have hfirst := Store.not_mem_contributions_initial settings.users (settings.prompts promptId)
    contribution
  obtain ⟨earlier, step, later, hsteps, hbefore, hafter, hmakes⟩ :=
    Store.exists_maker hfirst hcontribution
  obtain ⟨before, others, rfl, rfl, hothers⟩ := List.map_eq_append_iff.1 hsteps
  obtain ⟨deed, rest, rfl, rfl, -⟩ := List.map_eq_cons_iff.1 hothers
  obtain ⟨user, hattributes⟩ := exists_attributes
    (hallows deed (List.mem_append_right _ List.mem_cons_self)) hmakes (Store.users_run _)
  refine ⟨before, deed, rest, user, rfl, hbefore, ?_, hattributes⟩
  dsimp only
  rw [List.map_append, Store.run_append]
  exact hafter

/-- **Everything is the work of whoever sent it.** Let a site be set up, and let requests come to it,
with any bodies, paths and tokens: one after another, or all at once, so that the store is asked for
something on account of this request and then of that one. Whatever artifact, relationship or comment
there is in the end has come in with one of these requests. Its maker is the configured user whose token
came with that request, has a role that permits to make it, and is one of the users of the store. -/
theorem contributions_are_attributed :
    (∀ visits : List Visit,
      settings.Attributed Visit.request
        (fun visits => ((Site.ofSettings settings stamp).receiveAll
          (Site.firstWorld settings promptId now) visits).store) visits) ∧
      ∀ deeds : List Deed,
        (∀ deed ∈ deeds, (Site.ofSettings settings stamp).Allows deed.request deed.step.access) →
          settings.Attributed Deed.request
            (fun deeds => (Site.firstWorld settings promptId now).store.run (deeds.map Deed.step))
            deeds :=
  ⟨attributed_visits settings stamp promptId now,
    fun _ => attributed_deeds settings stamp promptId now⟩

/-- Both of them ask for an epic, and then the one who did not get his says so. -/
def sharedVisits : List Visit :=
  [⟨(Stamp.nth 9).id, sharedRequest "a" "/mcp" Server.creatingEpic, 0⟩,
    ⟨(Stamp.nth 9).id, sharedRequest "b" "/mcp" Server.creatingEpic, 5⟩,
    ⟨(Stamp.nth 9).id,
      sharedRequest "b" "/api/v1/epics/EP-001/comments" "\x7b\"content\":\"Why not?\"\x7d", 5⟩]

/-- The settings are accepted, an epic and a comment come of the requests, and each is the work of the
one who sent it. So it is when the store is asked on account of the first request alone. -/
theorem contributions_are_attributed_shared :
    let site := Site.ofSettings shared fun n => .nth (n + 2)
    let first := Site.firstWorld shared (Stamp.nth 8).id 0
    ofTable sharedIds sharedTable = .ok shared ∧
      (site.receiveAll first sharedVisits).store.contributions.map
          (fun contribution => (contribution.product, contribution.maker)) =
        [(.artifact, sharedIds 0), (.remark, sharedIds 1)] ∧
      shared.Attributed Visit.request (fun visits => (site.receiveAll first visits).store)
        sharedVisits ∧
      ∃ deeds : List Deed,
        (∀ deed ∈ deeds, site.Allows deed.request deed.step.access) ∧
          (first.store.run (deeds.map Deed.step)).contributions.map
              (fun contribution => (contribution.product, contribution.maker)) =
            [(.artifact, sharedIds 0)] ∧
          shared.Attributed Deed.request (fun deeds => first.store.run (deeds.map Deed.step))
            deeds := by
  intro site first
  obtain ⟨hvisits, hdeeds⟩ := contributions_are_attributed shared (fun n => .nth (n + 2))
    (Stamp.nth 8).id 0
  let request := sharedRequest "a" "/mcp" Server.creatingEpic
  obtain ⟨steps, hsteps, hallows⟩ := Site.serve_reaches site (Stamp.nth 9).id request first
  have hallowed : ∀ deed ∈ steps.map (Deed.mk request),
      site.Allows deed.request deed.step.access := by
    intro deed hdeed
    obtain ⟨step, hstep, rfl⟩ := List.mem_map.1 hdeed
    exact hallows step hstep
  have hmap : (steps.map (Deed.mk request)).map Deed.step = steps := by
    rw [List.map_map]
    exact List.map_id steps
  refine ⟨ofTable_shared, by decide +kernel, hvisits sharedVisits,
    steps.map (Deed.mk request), hallowed, ?_, hdeeds _ hallowed⟩
  rw [hmap, ← hsteps]
  decide +kernel

end Settings

end Planroom
