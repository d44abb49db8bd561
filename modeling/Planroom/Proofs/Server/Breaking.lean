import Planroom.Proofs.Resource.Listing
import Planroom.Proofs.Resource.Reads
import Planroom.Proofs.Rpc.Deaths
import Planroom.Proofs.Server.Stopped
import Planroom.Proofs.Tool.Errands
import Planroom.Proofs.Work.Breaking

/-!
# Methods that break off

A method of the server may break off, and then there is no result. The one that lists the resources sets
a time limit of its own, and it counts offsets; no other method has a reason to break off.

* **Listing** — the listing breaks off for want of offsets only (`list_breaksOnly`), and not at all where
  there are enough of them (`list_completes`).
* **Methods** — no method breaks off but that one (`methods_listing_or_breaksOnly`): at once if the clock
  does not reach to its deadline, and otherwise as the listing does (`exec_clockOverflow_iff`).
* **Handlers** — what comes of a handler is what comes of its method, and every one comes to an end
  (`registry_concludes`).
-/

namespace Planroom

/-- **Can the resources of a store be listed?** There are no more artifacts of any kind than offsets
can reach. It would take over four thousand million of them to fail this. -/
def Store.Listable (store : Store) : Prop :=
  ∀ kind ∈ Kind.resources, ∀ entities, store.entities kind = .ok entities →
    entities.length ≤ Resource.maxListed

/-! ## Listing -/

namespace Resource

open Job

variable {allowed : Abort → Prop}

theorem listFrom_breaksOnly (hallowed : allowed .listingOverflow) (kind : Kind) (moves offset : Nat) :
    (listFrom kind moves offset).BreaksOnly allowed := by
  induction moves generalizing offset with
  | zero => exact (breaksOnly_ask _).bind fun _ => hallowed
  | succ moves ih =>
    refine (breaksOnly_ask _).bind fun page => ?_
    dsimp only
    split
    · exact trivial
    · exact (ih (offset + pageSize)).bind fun _ => trivial

theorem listKinds_breaksOnly (hallowed : allowed .listingOverflow) (kinds : List Kind) :
    (listKinds kinds).BreaksOnly allowed := by
  induction kinds with
  | nil => exact trivial
  | cons kind kinds ih =>
    exact (listFrom_breaksOnly hallowed kind maxMoves 0).bind fun _ => ih.bind fun _ => trivial

/-- **Listing breaks off** for want of offsets only. Every page is fetched under an offset that is
counted up, and nothing else in it can fail. -/
theorem list_breaksOnly (hallowed : allowed .listingOverflow) : list.BreaksOnly allowed :=
  (listKinds_breaksOnly hallowed Kind.resources).bind fun _ => trivial

/-- It does not where there are enough of them. Whether there are is seen from the store that is
listed, so this is said of a store that nobody changes meanwhile. -/
theorem list_completes {store : Store} (h : store.Listable) : list.Completes store := by
  have hlisted : ∀ kind ∈ Kind.resources,
      store.entities kind = .ok ((store.entities kind).toOption.getD []) ∧
        ((store.entities kind).toOption.getD []).length ≤ maxListed := by
    intro kind hkind
    obtain ⟨entities, hentities, -⟩ := Store.exists_entities hkind store
    rw [hentities]
    exact ⟨rfl, h kind hkind entities hentities⟩
  exact (list_gives hlisted).completes list_onlyReads

end Resource

/-! ## Methods -/

namespace Server

open Job

variable {allowed : Abort → Prop} {limits : Limits} {context : Context} {params : Option Json}
  {stamp : Nat → Stamp} {world : World}

theorem ask_breaksOnly (access : Access) (context : Context) :
    ((Tool.ask access).run context).BreaksOnly allowed :=
  ((breaksOnly_ask access).mapError CallError.failed).within _ _

theorem connect_breaksOnly (context : Context) (params : Option Json) :
    (connect context params).BreaksOnly allowed := by
  refine (breaksOnly_ofExcept _).bind fun version => (breaksOnly_ofExcept _).bind fun _ => ?_
  have hprompts : (hasPrompts context).BreaksOnly allowed := by
    refine (ask_breaksOnly _ context).attempt.bind fun result => ?_
    cases result <;> exact trivial
  have hinstructions : (instructions context).BreaksOnly allowed := by
    refine (ask_breaksOnly _ context).attempt.bind fun result => ?_
    cases result with
    | ok prompt => cases prompt <;> exact trivial
    | error => exact trivial
  exact hprompts.bind fun prompts => hinstructions.bind fun text => trivial

theorem callTool_breaksOnly (context : Context) (params : Option Json) :
    (callTool context params).BreaksOnly allowed := by
  unfold callTool
  cases Tool.Params.toolCall? params with
  | none => exact trivial
  | some call =>
    have hcall := Tool.callNamed_runsErrand context call.arguments call.name
    exact BreaksOnly.bind (hcall.breaksOnly.within _ _) fun result => trivial

theorem readResource_breaksOnly (context : Context) (params : Option Json) :
    (readResource context params).BreaksOnly allowed := by
  unfold readResource
  cases Tool.Params.uri? params with
  | none => exact trivial
  | some uri =>
    refine BreaksOnly.bind ?_ fun contents => trivial
    exact ((Resource.read_runsErrand uri).breaksOnly.mapError CallError.failed).within _ _

theorem getPrompt_breaksOnly (context : Context) (params : Option Json) :
    (getPrompt context params).BreaksOnly allowed := by
  unfold getPrompt
  cases promptName? params with
  | none => exact trivial
  | some name => exact (ask_breaksOnly _ context).bind fun prompt => trivial

/-- **No method breaks off** but the one that lists the resources. Of all others it is known from
their jobs, for whatever is called a reason to break off. -/
theorem methods_listing_or_breaksOnly {entry : String × Method} (hentry : entry ∈ methods limits) :
    entry = ("resources/list", fun context _ => listResources limits context) ∨
      (entry.1 ≠ "resources/list" ∧
        ∀ allowed context params, (entry.2 context params).BreaksOnly allowed) := by
  simp only [methods, List.mem_cons, List.not_mem_nil, or_false] at hentry
  obtain rfl | rfl | rfl | rfl | rfl | rfl | rfl | rfl | rfl := hentry
  · exact .inr ⟨by decide, fun _ => connect_breaksOnly⟩
  · exact .inr ⟨by decide, fun _ _ _ => trivial⟩
  · exact .inr ⟨by decide, fun _ _ _ => trivial⟩
  · exact .inr ⟨by decide, fun _ _ _ => trivial⟩
  · exact .inr ⟨by decide, fun _ => callTool_breaksOnly⟩
  · exact .inl rfl
  · exact .inr ⟨by decide, fun _ => readResource_breaksOnly⟩
  · exact .inr ⟨by decide, fun _ context _ => (ask_breaksOnly _ context).bind fun _ => trivial⟩
  · exact .inr ⟨by decide, fun _ => getPrompt_breaksOnly⟩

/-- **The listing of resources breaks off** where the clock does not reach to its deadline. It
breaks off before the first page, as the deadline is set first. -/
theorem exec_listResources_of_unreached (stamp : Nat → Stamp) (context : Context)
    (h : ¬ Clock.Reaches world.now limits.resourcesList) :
    ((listResources limits context).exec (.ofStore stamp) world).value = .aborted .clockOverflow := by
  have hnone : Clock.after? world.now limits.resourcesList = none := if_neg h
  rw [exec, ← start_atTime, listResources_atTime_of_none hnone]
  rfl

/-- Otherwise it goes on under that deadline, or under an earlier one that the context had. -/
theorem exec_listResources (stamp : Nat → Stamp) (context : Context)
    (h : Clock.Reaches world.now limits.resourcesList) :
    ∃ (narrowed : Context) (tell : List Descriptor → Json),
      (listResources limits context).exec (.ofStore stamp) world =
        ((Resource.list.asCall.run narrowed).bind fun resources => .done (tell resources)).exec
          (.ofStore stamp) world := by
  obtain ⟨narrowed, hnarrowed⟩ := Context.exists_withTimeout? h context
  refine ⟨narrowed, fun resources => .object [("resources", .array (resources.map Descriptor.toJson))],
    ?_⟩
  have hlimited : (limited context limits.resourcesList : Job CallError Context).exec (.ofStore stamp)
      world = ⟨.returned (.ok narrowed), world, []⟩ := by
    simp only [exec, limited, start, hnarrowed, Turn.finish_done]
  rw [listResources, bind_eq, exec_bind, goOn, hlimited]
  rfl

/-- Then it breaks off for want of offsets only. -/
theorem exec_listResources_concluded (stamp : Nat → Stamp) (context : Context)
    (h : Clock.Reaches world.now limits.resourcesList) :
    ((listResources limits context).exec (.ofStore stamp) world).value.Concluded
      (· = .listingOverflow) := by
  obtain ⟨narrowed, tell, hexec⟩ := exec_listResources stamp context h
  have hlist : Resource.list.BreaksOnly (· = .listingOverflow) := Resource.list_breaksOnly rfl
  have hjob : ((Resource.list.asCall.run narrowed).bind fun resources =>
      .done (tell resources)).BreaksOnly (· = .listingOverflow) :=
    BreaksOnly.bind ((hlist.mapError CallError.failed).within _ _) fun resources => trivial
  rw [hexec]
  exact hjob.concluded stamp world

/-- It comes to a result where there are enough of them. -/
theorem exec_listResources_returned (stamp : Nat → Stamp) (context : Context)
    (h : Clock.Reaches world.now limits.resourcesList) (hstore : world.store.Listable) :
    ∃ result, ((listResources limits context).exec (.ofStore stamp) world).value = .returned result := by
  obtain ⟨narrowed, tell, hexec⟩ := exec_listResources stamp context h
  rw [hexec]
  have hlist := (Resource.list_completes hstore).mapError CallError.failed
  exact (hlist.within _ _).map tell stamp world rfl

/-- **A method that breaks off** is the one that lists the resources. So whoever sees a call break
off knows which one it was. -/
theorem listing_of_aborted {entry : String × Method} (hentry : entry ∈ methods limits) {reason : Abort}
    (hvalue : ((entry.2 context params).exec (.ofStore stamp) world).value = .aborted reason) :
    entry = ("resources/list", fun context _ => listResources limits context) := by
  refine (methods_listing_or_breaksOnly hentry).resolve_right ?_
  rintro ⟨-, hbreaks⟩
  have hconcluded := (hbreaks (fun _ => False) context params).concluded stamp world
  rw [hvalue] at hconcluded
  cases hconcluded with
  | aborted h => exact h

/-- **The listing of resources breaks off for its deadline** exactly if the clock does not reach it.
Whether the store could be listed plays no part in this. -/
theorem exec_listResources_clockOverflow_iff (stamp : Nat → Stamp) (context : Context) :
    ((listResources limits context).exec (.ofStore stamp) world).value = .aborted .clockOverflow ↔
      ¬ Clock.Reaches world.now limits.resourcesList := by
  refine ⟨fun hvalue hreaches => ?_, exec_listResources_of_unreached stamp context⟩
  have hconcluded := exec_listResources_concluded stamp context hreaches
  rw [hvalue] at hconcluded
  cases hconcluded with
  | aborted h => cases h

/-- **A method breaks off for a deadline** exactly if it lists the resources and the clock does not
reach it. The parameters do not matter, for the listing reads none. -/
theorem exec_clockOverflow_iff {entry : String × Method} (hentry : entry ∈ methods limits)
    (stamp : Nat → Stamp) (context : Context) (params : Option Json) :
    ((entry.2 context params).exec (.ofStore stamp) world).value = .aborted .clockOverflow ↔
      entry.1 = "resources/list" ∧ ¬ Clock.Reaches world.now limits.resourcesList := by
  constructor
  · intro hvalue
    obtain rfl := listing_of_aborted hentry hvalue
    exact ⟨rfl, (exec_listResources_clockOverflow_iff stamp context).1 hvalue⟩
  · rintro ⟨hname, hclock⟩
    rcases methods_listing_or_breaksOnly hentry with rfl | ⟨hother, -⟩
    · exact exec_listResources_of_unreached stamp context hclock
    · exact absurd hname hother

/-! ## Handlers -/

/-- What is found in the registry is the handler of a method. -/
theorem of_find?_registry {services : Services} {method : String} {found : Rpc.Handler World}
    (h : (registry services limits).find? method = some found) :
    ∃ entry ∈ methods limits, entry.1 = method ∧ found = handler services entry.2 := by
  obtain ⟨entry, hentry, rfl⟩ := Option.map_eq_some_iff.1 h
  have hname := List.find?_some hentry
  obtain ⟨known, hknown, rfl⟩ := List.mem_map.1 (List.mem_of_find?_eq_some hentry)
  exact ⟨known, hknown, beq_iff_eq.1 hname, rfl⟩

/-- What comes of a handler is what comes of its job. -/
theorem fate_of_handler (method : Method) (context : Context) (params : Option Json) (world : World) :
    (handler (.ofStore stamp) method context params world).finish.value.fate =
      ((method context params).exec (.ofStore stamp) world).value := by
  rw [handler, Turn.finish_conclude]
  rfl

/-- **Every handler comes to an end**, where the store serves every access. It may still break off,
which is an end, too. -/
theorem registry_concludes (stamp : Nat → Stamp) (limits : Limits) :
    (registry (.ofStore stamp) limits).Concludes := by
  intro method found hfind context params world
  obtain ⟨entry, -, -, rfl⟩ := of_find?_registry hfind
  have hends := (breaksOnly_any (entry.2 context params)).ends stamp world
  refine hends.conclude fun later fate hfate => ?_
  cases hfate <;> exact nofun

end Server

end Planroom
