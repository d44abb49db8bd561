import Planroom.Store.Documents

/-!
# Editing a store in place

A store is shared, and an operation works on it where it lies: what was done before a failure is not
taken back by anybody.

* **Asking** — `Edit.ask` looks at the store and may fail; it changes nothing.
* **Changing** — `Edit.modify`, `Edit.issue`, `Edit.reconcile` change the store at once.
* **Going on** — after a step that succeeded the next one works on the store that it left. After a
  step that failed nothing more is done, and the store stays as it is then.

That a failed operation leaves no trace is therefore no matter of course: an operation has to ask
before it changes anything.
-/

namespace Planroom

/-- **What came of an access**: the answer, the store after it, and what happened to anchors. There
is a store after a failure too, and it need not be the one from before. -/
structure Performed (α : Type) where
  answer : Except Failure α
  store : Store
  notes : List AnchorNote

namespace Performed

variable {α : Type}

/-- An access that only reads. It keeps the store, whatever the answer is. -/
def read (store : Store) (answer : Except Failure α) : Performed α :=
  ⟨answer, store, []⟩

/-- An access that changes the store if it succeeds, and keeps it if it fails. -/
def write (store : Store) : Except Failure (α × Store) → Performed α
  | .ok (value, after) => ⟨.ok value, after, []⟩
  | .error failure => ⟨.error failure, store, []⟩

/-- A write that has nothing to answer but that it succeeded. -/
def change (store : Store) : Except Failure Store → Performed Unit
  | .ok after => ⟨.ok (), after, []⟩
  | .error failure => ⟨.error failure, store, []⟩

/-- A write that may have moved anchors, of which notes are made. -/
def writeNoting (store : Store) : Except Failure (α × Store × List AnchorNote) → Performed α
  | .ok (value, after, notes) => ⟨.ok value, after, notes⟩
  | .error failure => ⟨.error failure, store, []⟩

end Performed

/-- **Work on a store in place.** It always leaves a store behind, whatever the answer is. -/
def Edit (α : Type) : Type := Store → Performed α

namespace Edit

variable {α β : Type}

/-- **Do the work** on a store. The name keeps the work apart from the function that it is. -/
def run (edit : Edit α) (store : Store) : Performed α := edit store

/-- Nothing to be done: the value is the answer and the store stays. -/
protected def pure (value : α) : Edit α := fun store => ⟨.ok value, store, []⟩

/-- **Go on** after work that has succeeded, on the store that it left. After a failure what was
done stays done. -/
protected def bind (edit : Edit α) (next : α → Edit β) : Edit β := fun store =>
  let first := edit.run store
  match first.answer with
  | .ok value =>
    let second := (next value).run first.store
    ⟨second.answer, second.store, first.notes ++ second.notes⟩
  | .error failure => ⟨.error failure, first.store, first.notes⟩

instance : Monad Edit where
  pure := Edit.pure
  bind := Edit.bind

/-- **Look at the store**, which may show that the work cannot be done. Looking changes nothing. -/
def ask (question : Store → Except Failure α) : Edit α := fun store =>
  ⟨question store, store, []⟩

/-- Check something that does not depend on the store, such as a text against the rules for it. -/
def check (result : Except Failure α) : Edit α :=
  ask fun _ => result

/-- Fail, with the store as it is by now. -/
def fail (failure : Failure) : Edit α :=
  check (.error failure)

/-- **Change the store**, at once and for good. -/
def modify (f : Store → Store) : Edit Unit := fun store =>
  ⟨.ok (), f store, []⟩

/-- **Issue the next reference of a kind.** Its number is used up, also if the work fails after
that. -/
def issue (kind : Kind) : Edit String := fun store =>
  ⟨.ok (store.nextReference kind), { store with issued := store.issued.issue kind }, []⟩

/-- **Bring the anchors on an artifact in line with its body.** Notes are made of what happened to
them, in the order of the comments. -/
def reconcile (kind : Kind) (id : Uuid) (body : String) : Edit Unit := fun store =>
  ⟨.ok (), { store with comments := Store.reconcileComments store.comments kind id body },
    Store.anchorNotes store.comments kind id body⟩

/-- **Put a link in**, unless it is there. Is it new? Asking and putting are one step, as with a
set. -/
def insertLink (link : Link) : Edit Bool := fun store =>
  if store.links.contains link then ⟨.ok false, store, []⟩
  else ⟨.ok true, { store with links := link.insertIn store.links }, []⟩

/-- **Take a link out**, if it is there. Was it? A link that was not there leaves the store as it
is. -/
def removeLink (link : Link) : Edit Bool := fun store =>
  if store.links.contains link then ⟨.ok true, { store with links := store.links.erase link }, []⟩
  else ⟨.ok false, store, []⟩

end Edit

end Planroom
