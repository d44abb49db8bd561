import Planroom.Proofs.Http.Bearer
import Planroom.Proofs.Http.Status
import Planroom.Proofs.Settings.Credentials
import Planroom.Proofs.Store.Users

/-!
# Known by their tokens

From the text in which credentials are written to the requests that bring their tokens: what is written
is read, and who was read is known.

* **Turned away** — `Site.TurnsAway`: a request that is answered before anything is done for it.
* **Screened** — `Site.Screens`: how a site tells the requests of its users from all others. Every site
  does it whose tokens are different (`screens_of_nodup`).
* **From text to user** — `credentials_are_read_and_known`, with an example of a header that is refused
  although it only lacks a token.
-/

namespace Planroom

open Text

namespace Http

variable {site : Site} {request : Request}

/-! ## Turned away -/

/-- **Is the request turned away** with this status, before anything is done for it? Whenever it
comes, the answer is the same, the world stays as it is, and nothing is logged but that it was
answered. -/
def Site.TurnsAway (site : Site) (request : Request) (status : Nat) : Prop :=
  ∃ fault : Fault, fault.response.status = status ∧ ∀ fresh world,
    site.serve fresh request world =
      ⟨.answered fault.response, world,
        Site.closingEvents (correlationId fresh request) request status 0⟩

theorem Site.turnsAway_of_fault {action : Action}
    (hpath : Route.ofPath? request.path = some (.action action)) {fault : Fault}
    (hfault : authenticate site.credentials request = .error fault) (hquiet : fault.events = []) :
    site.TurnsAway request fault.response.status := by
  refine ⟨fault, rfl, fun fresh world => ?_⟩
  -- no time has passed, and the fault is not one that is logged for itself
  rw [serve, follow, hpath]
  simp only [hfault, Exchange.decline, hquiet, List.nil_append, Nat.sub_self]

/-! ## Screened -/

/-- **How a site tells its users from others**: who brings a token is the user of the one credential
that has it, and all others are turned away. There are three ways to be another. -/
structure Site.Screens (site : Site) (request : Request) : Prop where
  known : ∀ token, request.Brings token → ∀ user,
    authenticate site.credentials request = .ok user ↔
      ∃ credential ∈ site.credentials, credential.token = token ∧ credential.user = user
  unknown : ∀ token, request.Brings token → token ∉ site.credentials.map Credential.token →
    site.TurnsAway request 401
  missing : request.header? "authorization" = none → site.TurnsAway request 401
  unreadable : request.BringsOther → site.TurnsAway request 400

/-- **A site with different tokens** tells its users from others on the path of every action.
Settings that are accepted make for such a site. -/
theorem Site.screens_of_nodup (htokens : (site.credentials.map Credential.token).Nodup)
    {action : Action} (hpath : Route.ofPath? request.path = some (.action action)) :
    site.Screens request where
  known := by
    intro token hbrings user
    rw [authenticate_eq_ok_iff, ← Credential.owner?_eq_some_iff htokens]
    constructor
    · rintro ⟨other, hother, howner⟩
      rwa [hbrings.unique hother]
    · exact fun howner => ⟨token, hbrings, howner⟩
  unknown := by
    rintro token ⟨authorization, hheader, htoken⟩ hunknown
    -- a token with an owner would be that of a credential
    have hnobody : Credential.owner? site.credentials token = none := by
      refine Option.eq_none_iff_forall_ne_some.2 fun user howner => ?_
      obtain ⟨credential, hmem, rfl, -⟩ := Credential.of_owner? howner
      exact hunknown (List.mem_map_of_mem hmem)
    have hfault : authenticate site.credentials request =
        .error (.problem (.unauthorized "invalid_token" "invalid bearer token")) := by
      simp only [authenticate, hheader, htoken, hnobody]
    exact turnsAway_of_fault hpath hfault rfl
  missing := by
    intro hheader
    have hfault : authenticate site.credentials request =
        .error (.problem (.unauthorized "missing_token" "missing authorization header")) := by
      simp only [authenticate, hheader]
    exact turnsAway_of_fault hpath hfault rfl
  unreadable := by
    rintro ⟨authorization, hheader, htoken⟩
    have hfault : authenticate site.credentials request =
        .error (.refused .unreadableCredentials) := by
      simp only [authenticate, hheader, htoken]
    exact turnsAway_of_fault hpath hfault rfl

end Http

open Http

namespace Settings

/-! ## From text to user -/

/-- **Written, read and known.** Entries with different tokens and names that are written as they may be
are accepted, each in its place, if the other settings are valid. Whatever settings are accepted, no
token and no name comes twice. The store knows every user under the identifier of its own, and a
token that can be sent arrives as it is. On the path of every action a request that brings a token is
that of the user of the credential with this token; where there is none, or no header, it is turned away
as unauthorized, and where the header holds no token, as one that cannot be read. -/
theorem credentials_are_read_and_known (ids : Nat → Uuid) (table : String → Option String) :
    (∀ (entries : List Entry) (list : String), entries ≠ [] → (entries.map Entry.token).Nodup →
        (entries.map Entry.name).Nodup → Entry.Listed entries list →
        value table "SPEXUS_API_TOKEN" = none → table "SPEXUS_API_TOKENS" = some list →
        OthersValid table →
        ∃ settings, ofTable ids table = .ok settings ∧
          settings.credentials.map Credential.entry = entries) ∧
      ∀ settings, ofTable ids table = .ok settings →
        (settings.credentials.map Credential.token).Nodup ∧
        (settings.credentials.map fun credential => credential.user.name).Nodup ∧
        (((List.range settings.credentials.length).map ids).Nodup → ∀ promptId now,
          ∀ credential ∈ settings.credentials,
            (Site.firstWorld settings promptId now).store.users.get? credential.user.id =
              some credential.user) ∧
        (∀ credential ∈ settings.credentials, credential.token.toList.all isPrintable = true →
          bearerToken? ("Bearer " ++ credential.token) = some credential.token) ∧
        ∀ stamp request action, Route.ofPath? request.path = some (.action action) →
          (Site.ofSettings settings stamp).Screens request := by
  refine ⟨fun entries list hne htokens hnames => exists_settings_of_listed hne htokens hnames,
    fun settings hsettings => ?_⟩
  have haccepted := accepted_of_ofTable hsettings
  refine ⟨haccepted.tokens, haccepted.names, fun hids promptId now credential hmem => ?_,
    fun credential hmem => bearerToken?_of_trimmed (haccepted.trimmed credential hmem),
    fun stamp request action => Site.screens_of_nodup haccepted.tokens⟩
  exact Store.get?_users_initial (haccepted.users ▸ hids) (List.mem_map_of_mem hmem)

/-- A request with an authorization that holds no token. -/
def basicRequest : Request :=
  ⟨.get, "/api/v1/epics/EP-001/comments", [("authorization", "Basic dG9rLWJvYg==")], .empty⟩

theorem basicRequest_bringsOther : basicRequest.BringsOther :=
  ⟨"Basic dG9rLWJvYg==", by decide +kernel, by decide +kernel⟩

/-- Two entries are read, their users are known under different identifiers, one of them by his token,
and requests of others are turned away. -/
theorem credentials_are_read_and_known_shared :
    let site := Site.ofSettings shared fun n => .nth (n + 2)
    (∃ settings, ofTable sharedIds sharedTable = .ok settings ∧
        settings.credentials.map Credential.entry = sharedEntries) ∧
      (Site.firstWorld shared (Stamp.nth 8).id 0).store.users.get? (sharedIds 1) =
        some ⟨sharedIds 1, "bob", .commenter⟩ ∧
      (sharedRequest "b" "/mcp" "").Brings "b" ∧
      authenticate site.credentials (sharedRequest "b" "/mcp" "") =
        .ok ⟨sharedIds 1, "bob", .commenter⟩ ∧
      site.TurnsAway (sharedRequest "c" "/mcp" "") 401 ∧ site.TurnsAway basicRequest 400 := by
  intro site
  obtain ⟨hread, hknown⟩ := credentials_are_read_and_known sharedIds sharedTable
  obtain ⟨-, -, hstore, hsent, hscreens⟩ := hknown shared ofTable_shared
  have hbob := hstore (by decide) (Stamp.nth 8).id 0 ⟨"b", sharedIds 1, "bob", .commenter⟩
    (by decide +kernel)
  have hb : (sharedRequest "b" "/mcp" "").Brings "b" :=
    sharedRequest_brings (hsent ⟨"b", sharedIds 1, "bob", .commenter⟩ (by decide +kernel) (by decide))
  refine ⟨hread sharedEntries sharedList (by decide) (by decide) (by decide) listed_shared
      (by decide +kernel) rfl othersValid_shared, hbob, hb, ?_, ?_, ?_⟩
  · exact ((hscreens (fun n => .nth (n + 2)) _ .rpc (by decide +kernel)).known "b" hb _).2
      ⟨⟨"b", sharedIds 1, "bob", .commenter⟩, by decide +kernel, rfl, rfl⟩
  · exact (hscreens (fun n => .nth (n + 2)) _ .rpc (by decide +kernel)).unknown "c"
      (sharedRequest_brings (by decide +kernel)) (by decide +kernel)
  · exact (hscreens (fun n => .nth (n + 2)) basicRequest (.comments "epics" "EP-001")
      (by decide +kernel)).unreadable basicRequest_bringsOther

/-- **Not all who bring no token are unauthorized**: an authorization of another kind is refused as
one that cannot be read. Nothing is looked up for it, so nobody could be unknown. -/
theorem other_authorization_is_not_unauthorized :
    ¬ ∀ (settings : Settings) (request : Request) (action : Action),
      ofTable sharedIds sharedTable = .ok settings →
      Route.ofPath? request.path = some (.action action) →
      (∀ token ∈ settings.credentials.map Credential.token, ¬ request.Brings token) →
      ((Site.ofSettings settings fun n => .nth (n + 2)).serve (Stamp.nth 9).id request
        (Site.firstWorld settings (Stamp.nth 8).id 0)).outcome.status? = some 401 := by
  intro h
  obtain ⟨authorization, hheader, hother⟩ := basicRequest_bringsOther
  have hrefused := h shared basicRequest (.comments "epics" "EP-001") ofTable_shared (by decide +kernel)
    (by
      rintro token - ⟨again, hagain, htoken⟩
      obtain rfl := Option.some.inj (hheader.symm.trans hagain)
      rw [hother] at htoken
      cases htoken)
  have hstatus : ((Site.ofSettings shared fun n => .nth (n + 2)).serve (Stamp.nth 9).id basicRequest
      (Site.firstWorld shared (Stamp.nth 8).id 0)).outcome.status? = some 400 := by decide +kernel
  rw [hstatus] at hrefused
  cases hrefused

end Settings

end Planroom
