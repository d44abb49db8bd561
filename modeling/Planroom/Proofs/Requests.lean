import Planroom.Proofs.Http.Comments
import Planroom.Proofs.Resource.Reads
import Planroom.Proofs.Tool.Errands
import Planroom.Proofs.Work.AtOnce

/-!
# Requests act at once

A request resolves what it names at one moment and acts on it at another, while other clients do
what they like in between. Its reply, and what it does to the store, are all the same those of the
whole request done at the moment of its last access.

* **Over the protocol** — calling a tool and reading a resource, under the limits of their context.
* **Over the routes** — the requests for comments, which have no limits.
-/

namespace Planroom

open Job

/-- The context with other limits. A request done at once is asked for under limits of its own, so
that it cannot run out of time where the other one did not. -/
def Context.within (context : Context) (limits : Limits) : Context :=
  { context with limits := limits }

variable {limits : Limits} {world : World} {moments : List Moment}

/-- **Calling a tool.** The parameters are read before anything is asked of the store, so only the
tool itself can be interrupted. -/
theorem actsAtOnce_callTool {context : Context} {params : Option Json} {fate : Fate CallError Json}
    (hcourse : Course (Server.callTool (context.within limits) params) world moments fate) :
    ActsAtOnce (fun limits => Server.callTool (context.within limits) params) limits world moments
      fate := by
  cases hparams : Tool.Params.toolCall? params with
  | none =>
    simp only [Server.callTool, hparams] at hcourse ⊢
    exact actsAtOnce_fail limits hcourse
  | some call =>
    simp only [Server.callTool, hparams] at hcourse ⊢
    exact actsAtOnce_within
      (fun limits => Tool.callNamed_runsErrand (context.within limits) _ _) hcourse

/-- **Reading a resource.** What can happen in between is that the artifact is changed after its
reference was found; both look-ups then find the same one. -/
theorem actsAtOnce_readResource {context : Context} {params : Option Json}
    {fate : Fate CallError Json}
    (hcourse : Course (Server.readResource (context.within limits) params) world moments fate) :
    ActsAtOnce (fun limits => Server.readResource (context.within limits) params) limits world
      moments fate := by
  cases hparams : Tool.Params.uri? params with
  | none =>
    simp only [Server.readResource, hparams] at hcourse ⊢
    exact actsAtOnce_fail limits hcourse
  | some uri =>
    simp only [Server.readResource, hparams] at hcourse ⊢
    exact actsAtOnce_within
      (fun _ => (Resource.read_runsErrand uri).mapError CallError.failed) hcourse

/-- **Every request acts at once.** Whatever other clients do between its accesses: a call of a tool
with whatever parameters, a reading of a resource with whatever parameters, and a request for
comments of any kind, come to what they would have come to, and do to the store what they would have
done to it, if all of the request had been done at its last turn. -/
theorem request_acts_at_once (context : Context) (limits : Limits) (world : World)
    (moments : List Moment) :
    (∀ params fate,
      Course (Server.callTool (context.within limits) params) world moments fate →
      ActsAtOnce (fun limits => Server.callTool (context.within limits) params) limits world moments
        fate) ∧
    (∀ params fate,
      Course (Server.readResource (context.within limits) params) world moments fate →
      ActsAtOnce (fun limits => Server.readResource (context.within limits) params) limits world
        moments fate) ∧
    ∀ (user : User) (request : Http.Request) (action : Http.Action)
      (job : Job Http.Fault Http.Response) (fate : Fate Http.Fault Http.Response),
      action.job? user request = some job → Course job world moments fate →
      ActsAtOnce (fun _ => job) limits world moments fate := by
  refine ⟨fun params fate => actsAtOnce_callTool, fun params fate => actsAtOnce_readResource, ?_⟩
  intro user request action job fate hjob hcourse
  exact (Http.Action.job?_runsErrand hjob).actsAtOnce limits hcourse

/-- Somebody comments on the first epic. -/
def commenting : Step :=
  ⟨.createComment ⟨.epic, (Stamp.nth 1).id, (Stamp.nth 0).id, "Why?", none, ⟨none, none, none⟩⟩,
    .nth 2⟩

/-- The comments on an epic are asked for, and somebody comments on it after it has been looked
up. -/
theorem request_acts_at_once_commenting :
    let first : World := ⟨Store.withEpic, 0, 0⟩
    let later : World := ⟨Store.withEpic.after commenting, 5, 1⟩
    let job := Http.Comments.list "epics" "EP-001"
    let moments : List Moment :=
      [.served (.getEntity .epic (.byReference "EP-001")) (.nth 9) first,
        .served (.listComments .epic (Stamp.nth 1).id) (.nth 9) later]
    ∃ comment response, (later.answered (.nth 9) (.listComments .epic (Stamp.nth 1).id)).answer =
        .ok [comment] ∧
      Course job first moments (.returned (.ok response)) ∧
      ActsAtOnce (fun _ => job) .none first moments (.returned (.ok response)) := by
  intro first later job moments
  have hjob : job =
      (Http.Comments.ask (.getEntity .epic (.byReference "EP-001"))).bind fun entity =>
        (Http.Comments.ask (.listComments .epic entity.id)).bind fun comments =>
          done (.ok (Http.Comments.listJson comments)) := by
    have hcollection : Http.percentDecode? "epics" = some "epics" := by decide +kernel
    have hartifact : Http.percentDecode? "EP-001" = some "EP-001" := by decide +kernel
    have hkind : Kind.ofCollection? "epics" = some .epic := by decide +kernel
    have hlookup : Lookup.parse? "EP-001" = some (.byReference "EP-001") := by decide +kernel
    simp only [job, Http.Comments.list, Http.Comments.readPart, hcollection, hartifact, bind_eq,
      done_bind, Http.Comments.findArtifact, hkind, hlookup, bind_assoc, pure_eq]
  obtain ⟨entity, hentity, hid⟩ : ∃ entity, (first.answered (.nth 9)
      (.getEntity .epic (.byReference "EP-001"))).answer = .ok entity ∧
      entity.id = (Stamp.nth 1).id :=
    exists_answer_of_map (by decide +kernel)
  obtain ⟨comments, hcomments, hlength⟩ : ∃ comments, (later.answered (.nth 9)
      (.listComments .epic (Stamp.nth 1).id)).answer = .ok comments ∧ comments.length = 1 :=
    exists_answer_of_map (by decide +kernel)
  obtain ⟨comment, rfl⟩ := List.length_eq_one_iff.1 hlength
  have htime : (first.answered (.nth 9) (.getEntity .epic (.byReference "EP-001"))).world.Meanwhile
      later := ⟨by decide, [commenting], by decide +kernel, rfl⟩
  have hcourse : Course job first moments
      (.returned (.ok (.ok (Http.Comments.listJson [comment])))) := by
    rw [hjob]
    refine .access (.refl first) ?_
    rw [hentity]
    change Course ((Http.Comments.ask (.listComments .epic entity.id)).bind _) _ _ _
    rw [hid]
    refine .access htime ?_
    rw [hcomments]
    exact .done _ _
  obtain ⟨-, -, hroutes⟩ := request_acts_at_once ⟨"c", none, .none⟩ .none first moments
  exact ⟨comment, _, hcomments, hcourse,
    hroutes ⟨(Stamp.nth 0).id, "alice", .user⟩ ⟨.get, "", [], .empty⟩ (.comments "epics" "EP-001")
      job _ rfl hcourse⟩

end Planroom
