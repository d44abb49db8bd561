import Planroom.Work.Run

/-!
# How an access is served

An access is served by the store or by somebody else, or nobody ever serves it (`servedBy_of_serve`,
`serve_eq_none_iff`). In any case no time passes.
-/

namespace Planroom.World

variable {services : Services} {world : World} {access : Access} {served : Served access}

/-- **Who has served an access.** Somebody else leaves the world as it is; the store counts that it
has served. -/
inductive ServedBy (services : Services) (world : World) (access : Access) :
    Served access → Prop where
  | answered {answer : Except Failure access.Result} (h : services.serve access = .answered answer) :
      ServedBy services world access ⟨answer, world, []⟩
  | stored {performed : Performed access.Result} (h : services.serve access = .stored)
      (hperformed : world.store.perform (services.stamp world.served) access = performed) :
      ServedBy services world access
        ⟨performed.answer,
          { world with store := performed.store, served := world.served + 1 },
          performed.notes.filterMap AnchorNote.event?⟩

/-- What was served was served by one of the two. -/
theorem servedBy_of_serve (h : world.serve services access = some served) :
    ServedBy services world access served := by
  rw [serve] at h
  split at h
  · cases h
  · next answer hanswer =>
    cases h
    exact .answered hanswer
  · next hstored =>
    cases h
    exact .stored hstored rfl

/-- It is not served exactly where nobody ever serves it. -/
theorem serve_eq_none_iff : world.serve services access = none ↔ services.serve access = .never := by
  rw [serve]
  cases services.serve access <;> simp only [reduceCtorEq]

/-- While an access is served no time passes. -/
theorem now_of_serve (h : world.serve services access = some served) :
    served.world.now = world.now := by
  cases servedBy_of_serve h <;> rfl

end Planroom.World
