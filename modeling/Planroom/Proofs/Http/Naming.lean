import Planroom.Proofs.Http.Comments
import Planroom.Proofs.Resource.Addressing
import Planroom.Proofs.Store.Named
import Planroom.Proofs.Tool.Meaning

/-!
# However an artifact is named

An artifact may be named by its reference or by its identifier, in whatever case, and with blanks around
either. It is named so in the arguments of tools and in the paths of the routes for comments, and it is
resolved in each of these places anew. Whatever text is used, it is read as a look-up that finds the
artifact (`Store.Reachable.exists_lookup`), and the two texts make no difference from there on.

* **Arguments** — arguments that name the same artifacts mean the same.
* **Paths** — routes for comments that name the same artifact come to the same (`job?_sameIn`).
-/

namespace Planroom

/-! ## Arguments -/

namespace Tool

/-- **Do two sets of arguments name the same artifacts?** Every argument is the same in both, or
names one artifact of the kind that is expected of it. An argument that is given in one of them is
given in the other. -/
def NameSame (store : Store) (arguments others : Arguments) : Prop :=
  ∀ key, Argument.given arguments key = Argument.given others key ∨
    ∃ kind artifact s t, namedKind? key = some kind ∧ artifact ∈ (store.shelf kind).values ∧
      Argument.given arguments key = some (.string s) ∧ artifact.NamedBy s ∧
      Argument.given others key = some (.string t) ∧ artifact.NamedBy t

/-- **Another text that names the same artifact**, in the place of one argument. All other arguments
are the same. -/
theorem NameSame.of_replaced {store : Store} {key s t : String} {kind : Kind} {artifact : Artifact}
    (hkey : namedKind? key = some kind) (hmem : artifact ∈ (store.shelf kind).values)
    (hs : artifact.NamedBy s) (ht : artifact.NamedBy t) (before after : Arguments) :
    NameSame store (before ++ (key, .string s) :: after) (before ++ (key, .string t) :: after) := by
  intro other
  obtain hsame | ⟨rfl, hfirst, hsecond⟩ := given_replaced key s t before after other
  · exact .inl hsame
  · exact .inr ⟨kind, artifact, s, t, hkey, hmem, hfirst, hs, hsecond, ht⟩

/-- **Arguments that name the same artifacts** mean the same. In a reachable store a name finds one
artifact, and finds it by its reference as well as by its identifier. -/
theorem NameSame.meanSame {store : Store} (hstore : store.Reachable) {arguments others : Arguments}
    (h : NameSame store arguments others) : MeanSame store arguments others := by
  intro key
  obtain hsame | ⟨kind, artifact, s, t, hkey, hmem, hs, hnamed, ht, hagain⟩ := h key
  · rw [hsame]
    exact .same _
  · obtain ⟨first, hfirst, hfound⟩ := hstore.exists_lookup hmem hnamed
    obtain ⟨second, hsecond, hfoundAgain⟩ := hstore.exists_lookup hmem hagain
    rw [hs, ht]
    exact .artifact hkey hfirst hsecond hfound hfoundAgain

end Tool

/-! ## Paths -/

namespace Http

open Job

/-- **Do two parts of a path name the same artifact** of a collection? The parts are still escaped,
and may be so in different ways. -/
def NameSame (store : Store) (collection part other : String) : Prop :=
  ∃ name kind artifact s t, percentDecode? collection = some name ∧
    Kind.ofCollection? name = some kind ∧ artifact ∈ (store.shelf kind).values ∧
    percentDecode? part = some s ∧ artifact.NamedBy s ∧
    percentDecode? other = some t ∧ artifact.NamedBy t

/-- **Are two actions the same**, but for how their artifact is named? Only these two kinds of
actions name one. -/
inductive Action.NameSame (store : Store) : Action → Action → Prop where
  | comments {collection part other : String} (h : Http.NameSame store collection part other) :
      Action.NameSame store (.comments collection part) (.comments collection other)
  | visibleComments {collection part other : String}
      (h : Http.NameSame store collection part other) :
      Action.NameSame store (.visibleComments collection part) (.visibleComments collection other)

namespace Comments

variable {store : Store} {collection part other : String} {β : Type}

/-- Going on with the artifact that is named. -/
theorem findArtifact_sameIn {kind : Kind} (hkind : Kind.ofCollection? collection = some kind)
    {first second : Lookup} (hfirst : Lookup.parse? part = some first)
    (hsecond : Lookup.parse? other = some second)
    (hsame : store.findEntity kind first = store.findEntity kind second) :
    (findArtifact collection part).SameIn store (findArtifact collection other) := by
  unfold findArtifact
  simp only [hkind, hfirst, hsecond]
  refine sameIn_access rfl rfl fun _ => .of_eq ?_
  exact congrArg (fun answer => ((ofExcept answer).mapError Fault.ofFailure).bind fun entity =>
    done (kind, entity.id)) hsame

/-- **Going on with the artifact that a path names**, after something that does not depend on it. In
between a form may be read, for instance. -/
theorem path_sameIn {γ : Type} (hstore : store.Reachable) (h : NameSame store collection part other)
    {between : Job Fault γ} (hbetween : between.Inquires) (next : γ → Kind × Uuid → Job Fault β) :
    ((readPart collection).bind fun collection => (readPart part).bind fun part =>
      between.bind fun value => (findArtifact collection part).bind (next value)).SameIn store
    ((readPart collection).bind fun collection => (readPart other).bind fun part =>
      between.bind fun value => (findArtifact collection part).bind (next value)) := by
  obtain ⟨name, kind, artifact, s, t, hcollection, hkind, hmem, hs, hnamed, ht, hagain⟩ := h
  obtain ⟨first, hfirst, hfound⟩ := hstore.exists_lookup hmem hnamed
  obtain ⟨second, hsecond, hfoundAgain⟩ := hstore.exists_lookup hmem hagain
  have hsame := Store.findEntity_congr_lookup hfound hfoundAgain
  simp only [readPart, hcollection, hs, ht, done_bind]
  refine (SameIn.refl store between).andThen hbetween fun value => ?_
  exact (findArtifact_sameIn hkind hfirst hsecond hsame).followedBy (next value)

variable (hstore : store.Reachable) (h : NameSame store collection part other)

include hstore h

theorem list_sameIn : (list collection part).SameIn store (list collection other) :=
  path_sameIn hstore h (inquires_done ()) fun _ found =>
    (ask (.listComments found.1 found.2)).bind fun comments => done (Response.ok (listJson comments))

theorem listVisible_sameIn :
    (listVisible collection part).SameIn store (listVisible collection other) :=
  path_sameIn hstore h (inquires_done ()) fun _ found =>
    (ask (.listVisibleComments found.1 found.2)).bind fun comments => done (Response.ok (listJson comments))

theorem create_sameIn (user : User) (request : Request) :
    (create user request collection part).SameIn store (create user request collection other) :=
  path_sameIn hstore h (readForm_inquires request) fun form found =>
    (ask (.createComment ⟨found.1, found.2, user.id, form.content, form.parent, form.selection⟩)).bind
      fun comment => done (Response.created comment.toJson)

end Comments

variable {store : Store}

/-- **The jobs of actions** that differ in how their artifact is named come to the same. There is a
job for each of them, since neither is to speak the protocol. -/
theorem Action.NameSame.job?_sameIn {action other : Action} (hstore : store.Reachable)
    (h : Action.NameSame store action other) (user : User) (request : Request) :
    ∃ job again, action.job? user request = some job ∧ other.job? user request = some again ∧
      job.SameIn store again := by
  cases h with
  | comments h =>
    rw [Action.job?, Action.job?]
    cases request.verb with
    | post => exact ⟨_, _, rfl, rfl, Comments.create_sameIn hstore h user request⟩
    | _ => exact ⟨_, _, rfl, rfl, Comments.list_sameIn hstore h⟩
  | visibleComments h => exact ⟨_, _, rfl, rfl, Comments.listVisible_sameIn hstore h⟩

/-- Such actions know the same verbs. -/
theorem Action.NameSame.verbs_eq {action other : Action} (h : Action.NameSame store action other) :
    (Route.action action).verbs = (Route.action other).verbs := by
  cases h <;> rfl

/-- The job of an action does not depend on the target of the request. -/
theorem Action.job?_with_target (action : Action) (user : User) (request : Request)
    (target : String) :
    action.job? user { request with target := target } = action.job? user request := by
  cases action <;> rfl

/-- **Requests whose paths name the same artifact** are answered alike, and do the same. The user is
found from the headers, which are the same in both. -/
theorem follow_of_nameSame {site : Site} {stamp : Nat → Stamp} (hservices : site.services = .ofStore stamp)
    {world : World} (hstore : world.store.Reachable) {request : Request} {target : String}
    {action other : Action} (hroute : Route.ofPath? request.path = some (.action action))
    (hother : Route.ofPath? (Target.path target) = some (.action other))
    (h : Action.NameSame world.store action other) (correlationId : String) :
    site.follow correlationId request world =
      site.follow correlationId { request with target := target } world := by
  have hauthenticate : authenticate site.credentials { request with target := target } =
      authenticate site.credentials request := rfl
  have hpath : Request.path { request with target := target } = Target.path target := rfl
  rw [Site.follow, Site.follow, hroute, hpath, hother]
  dsimp only
  rw [hauthenticate]
  cases authenticate site.credentials request with
  | error fault => rfl
  | ok user =>
    obtain ⟨job, again, hjob, hagain, hsame⟩ := h.job?_sameIn hstore user request
    rw [← Action.job?_with_target other user request target] at hagain
    dsimp only
    rw [Site.act_of_job hjob, Site.act_of_job hagain, hservices, hsame stamp world rfl, Route.knows,
      Route.knows, h.verbs_eq]

end Http

/-! ## However it is named -/

/-- **It does not matter how an artifact is named.** In every reachable store, and for every caller, a
call of a tool comes to the same result, leaves the same world and logs the same when its arguments
name the same artifacts in another way: by the reference or by the identifier, in whatever case and with
whatever blanks around it. The same holds of the part of the path by which a route for comments is told
the artifact. The stamps of the store are the same both times. -/
theorem naming_does_not_matter {world : World} (hstore : world.store.Reachable)
    (stamp : Nat → Stamp) :
    (∀ context name arguments others params again,
      Tool.Params.toolCall? params = some ⟨name, arguments⟩ →
      Tool.Params.toolCall? again = some ⟨name, others⟩ →
      Tool.NameSame world.store arguments others →
      (Server.callTool context params).exec (.ofStore stamp) world =
        (Server.callTool context again).exec (.ofStore stamp) world) ∧
      ∀ (site : Http.Site) (request : Http.Request) (target : String) (action other : Http.Action),
        site.services = .ofStore stamp →
        Http.Route.ofPath? request.path = some (.action action) →
        Http.Route.ofPath? (Http.Target.path target) = some (.action other) →
        Http.Action.NameSame world.store action other →
        ∀ correlationId, site.follow correlationId request world =
          site.follow correlationId { request with target := target } world :=
  ⟨fun context _ _ _ _ _ hparams hagain h =>
      Server.callTool_of_meanSame hparams hagain (h.meanSame hstore) context stamp,
    fun _ _ _ _ _ hservices hroute hother h =>
      Http.follow_of_nameSame hservices hstore hroute hother h⟩

/-- The creation of an epic with letters in its identifier. -/
def Store.founding : Step :=
  ⟨.createEpic ⟨"Search", none, .high, (Stamp.nth 0).id, none⟩, .nth 171⟩

/-- The parameters of a call that gives the epic with this name another title. -/
def Server.retitlingNamed (name : String) : Option Json :=
  some (.object [("arguments", .object [("epic_id", .string name), ("title", .string "Find")]),
    ("name", .string "update_epic")])

/-- The epic gets another title, and its comments are listed: once it is named by its reference, and
once by its identifier, with letters of both cases and with blanks. -/
theorem naming_does_not_matter_found :
    let alice : User := ⟨(Stamp.nth 0).id, "alice", .user⟩
    let world : World := ⟨(Store.initial [alice] []).run [Store.founding], 0, 0⟩
    let context : Context := ⟨"c", some alice, .none⟩
    let call (name : String) := (Server.callTool context (Server.retitlingNamed name)).exec
      (.ofStore .nth) world
    let site : Http.Site := ⟨[⟨"t", alice⟩], .ofStore .nth, ⟨1000, 1000⟩, 1000⟩
    let list (name : String) := site.follow "c" ⟨.get, "/api/v1/epics/" ++ name ++ "/comments",
      [("authorization", "Bearer t")], .empty⟩ world
    (call "EP-001").value.isOk = true ∧
      call "EP-001" = call " 00000000-0000-0000-0000-0000000000aB\t" ∧
      list "EP-001" = list "%2000000000-0000-0000-0000-0000000000aB" := by
  intro alice world context call site list
  have hstore : world.store.Reachable := (Store.Reachable.initial _ _).run (by decide +kernel)
  obtain ⟨artifact, hmem, hid, hreference⟩ : ∃ artifact ∈ (world.store.shelf .epic).values,
      artifact.id = (Stamp.nth 171).id ∧ artifact.reference = "EP-001" := by decide +kernel
  have hshort : artifact.NamedBy "EP-001" :=
    .reference ⟨"", "", rfl, rfl, by rw [hreference]; rfl⟩
  have hlong : ∀ back, Text.isBlankText back = true →
      artifact.NamedBy (" " ++ "00000000-0000-0000-0000-0000000000aB" ++ back) := fun back hback =>
    .id (by rw [hid]; decide +kernel) ⟨" ", back, by decide +kernel, hback, rfl⟩
  have hpart : Http.NameSame world.store "epics" "EP-001"
      "%2000000000-0000-0000-0000-0000000000aB" :=
    ⟨"epics", .epic, artifact, "EP-001", " " ++ "00000000-0000-0000-0000-0000000000aB" ++ "",
      by decide +kernel, by decide +kernel, hmem, by decide +kernel, hshort, by decide +kernel,
      hlong "" rfl⟩
  obtain ⟨hcalls, hpaths⟩ := naming_does_not_matter hstore .nth
  exact ⟨by decide +kernel,
    hcalls context _ _ _ _ _ rfl rfl
      (.of_replaced rfl hmem hshort (hlong "\t" (by decide +kernel)) [] _),
    hpaths site _ _ _ _ rfl (by decide +kernel) (by decide +kernel) (.comments hpart) "c"⟩

end Planroom
