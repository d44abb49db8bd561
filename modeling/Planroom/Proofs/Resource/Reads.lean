import Planroom.Proofs.Work.ReadOnly
import Planroom.Resource.Reading

/-!
# Resources are only read

* **Reading** — reading a resource is an errand: an external address is resolved by looking its
  artifact up, of which only the reference is kept, and the last access is a read.
* **Listing** — listing all resources takes as many accesses as there are pages, and each of them is
  a read.
-/

namespace Planroom.Resource

open Job

/-- **Is this an access that only reads?** Such an access leaves the store as it is, whatever it
comes to. -/
def Reads (access : Access) : Prop :=
  access.isWrite = false

/-- **The reference of an artifact** is settled once it has been looked up. Nothing that others do
later gives the artifact another reference, so what was resolved stays true. -/
theorem resolve_inquires (uri : String) : (resolve uri).Inquires := by
  refine (inquires_ofExcept _).andThen fun parsed => ?_
  cases parsed with
  | collection kind => exact inquires_done (ResolvedUri.collection kind)
  | artifact kind lookup =>
    refine .looksUp rfl (fun entity => inquires_done _) (fun first second hsame => ?_)
      fun failure => ⟨failure, rfl⟩
    exact congrArg (fun reference => done (ResolvedUri.canonical ⟨kind, reference⟩))
      (Entity.reference_of_identity hsame)

theorem locate_inquires (uri : String) : (locate uri).Inquires := by
  unfold locate
  split
  · exact resolve_inquires uri
  · exact inquires_ofExcept _

/-- The last access, and what is told of its result. -/
theorem ask_runsErrand (access : Access) (hreads : Reads access) (tell : access.Result → Contents) :
    ((ask access).bind fun result => done (tell result)).RunsErrand Reads :=
  (runsErrand_ask hreads).map tell

/-- **Reading a resource** is an errand: it looks up what it needs to know and then makes one access
that counts. So it can be taken to happen at the turn of that access. -/
theorem read_runsErrand (uri : String) : (read uri).RunsErrand Reads := by
  refine (locate_inquires uri).andThen fun resolved => ?_
  cases resolved with
  | collection kind => exact ask_runsErrand (.listEntities kind defaultWindow) rfl _
  | canonical uri => exact ask_runsErrand (.getEntity uri.kind uri.lookup) rfl _

/-- **Listing resources** only reads, page after page. It is no errand, for every page counts. -/
theorem listFrom_onlyReads (kind : Kind) (moves offset : Nat) :
    (listFrom kind moves offset).OnlyReads := by
  induction moves generalizing offset with
  | zero => exact OnlyReads.bind (onlyReads_ask rfl) fun _ => trivial
  | succ moves ih =>
    refine OnlyReads.bind (onlyReads_ask rfl) fun page => ?_
    dsimp only
    split
    · exact trivial
    · exact (ih (offset + pageSize)).bind fun rest => trivial

theorem listKinds_onlyReads (kinds : List Kind) : (listKinds kinds).OnlyReads := by
  induction kinds with
  | nil => exact trivial
  | cons kind kinds ih =>
    refine (listFrom_onlyReads kind maxMoves 0).bind fun here => ?_
    exact ih.bind fun rest => trivial

theorem list_onlyReads : list.OnlyReads :=
  (listKinds_onlyReads Kind.resources).bind fun _ => trivial

theorem read_onlyReads (uri : String) : (read uri).OnlyReads :=
  (read_runsErrand uri).onlyReads fun _ hreads => hreads

end Planroom.Resource
