import Planroom.Proofs.Rpc.Chronicle
import Planroom.Proofs.Work.Serving
import Planroom.Server.Methods

/-!
# What the server logs under a name

The methods of the server log what becomes of inline anchors, and nothing that names a user. So all that
is logged under a name while a message is worked off is what is told of the message itself.

* **Jobs** — `Job.start_logs`: no job logs anything under a name, whoever serves it.
* **Methods** — `registry_discreet`: nor does a method, and `chronicle_of_answered` tells what is logged
  of a message that the server has answered, or has passed over because it is a notification.
-/

namespace Planroom

/-! ## Jobs -/

/-- What the store logs when it serves an access is about anchors, and no event of these has a name
in it. -/
theorem World.caller?_of_serve {services : Services} {world : World} {access : Access}
    {served : Served access} (h : world.serve services access = some served) :
    ∀ event ∈ served.events, event.caller? = none := by
  cases servedBy_of_serve h with
  | answered => exact List.forall_mem_nil _
  | stored =>
    intro event hevent
    obtain ⟨note, -, hnote⟩ := List.mem_filterMap.1 hevent
    rw [AnchorNote.event?] at hnote
    split at hnote <;> cases hnote <;> rfl

/-- **A job logs nothing under a name**, whether it is served at once, has to wait or is told to
stop. -/
theorem Job.start_logs {ε α : Type} (job : Job ε α) (services : Services) (world : World) :
    (job.start services world).Logs fun event => event.caller? = none := by
  induction job generalizing world with
  | done | fail | abort => exact List.forall_mem_nil _
  | clock resume ih => exact ih world.now world
  | access a resume ih =>
    rw [start]
    cases hserved : world.serve services a with
    | none => exact List.forall_mem_nil _
    | some served =>
      exact (ih served.answer served.world).log (World.caller?_of_serve hserved)
  | guarded limits a resume stopped ih ihs =>
    rw [start]
    cases hserved : world.serve services a with
    | some served =>
      exact (ih served.answer served.world).log (World.caller?_of_serve hserved)
    | none =>
      cases limits.stop? world.now with
      | some stop => exact ihs stop world
      | none =>
        cases limits.deadline with
        | none => exact List.forall_mem_nil _
        | some deadline =>
          exact ⟨List.forall_mem_nil _, fun later => ihs .expired (later.reach deadline)⟩

namespace Server

/-! ## Methods -/

/-- **No method logs anything under a name.** All that is logged under one comes from the messages
that the methods are called for. -/
theorem registry_discreet (services : Services) (limits : Limits) :
    (registry services limits).Discreet := by
  intro method handler hfind context params world
  obtain ⟨entry, hentry, rfl⟩ := Option.map_eq_some_iff.1 hfind
  obtain ⟨named, -, rfl⟩ := List.mem_map.1 (List.mem_of_find?_eq_some hentry)
  exact ((named.2 context params).start_logs services world).conclude fun _ _ =>
    List.forall_mem_nil _

/-- **A message that has been answered**, or is a notification that has been worked off, is told of
in the log under the name of its user, and nothing else is told of under any. The services may be
any, as they do not log under a name either. -/
theorem chronicle_of_answered (services : Services) (limits : Limits) {context : Context}
    {tree : Json.Tree} {states : List World} {answer : Rpc.Answer} (hsuits : answer.Suits tree)
    (h : (Strand.ready (Rpc.dispatchTree (registry services limits) context tree)).through states =
      some (.ended answer)) :
    ∃ before after, Rpc.Life (registry services limits) context tree states before after ∧
      ((Strand.ready (Rpc.dispatchTree (registry services limits) context tree)).logged
        states).filter (·.caller?.isSome) = before ++ after :=
  (Rpc.dispatchTree_chronicle hsuits h).named (registry_discreet services limits)

end Server

end Planroom
