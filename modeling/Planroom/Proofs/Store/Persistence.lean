import Planroom.Proofs.Store.Register

/-!
# What stays

Between two looks at a store others may change an artifact, but they cannot take it away or put
another one in its place. So what a look-up has settled it has settled for good.

* **Extending** — a store extends another one when its registers go on where those of the other one
  end and the users are the same. Every effect extends the store that it meets.
* **Finding again** — `Extends.find?`: what a look-up found it finds again, maybe changed but with the
  same identity.
* **Settling** — `Access.Settles` says what is settled by the answer to a look-up, and
  `Extends.settles` that this stays so.
* **Reading** — an access that is no write leaves the store as it is (`perform_of_read`).
-/

namespace Planroom

/-- Does an entry of a register answer to a look-up? It is what an artifact of this identity would
do. -/
def Lookup.fits : Lookup → Uuid × Identity → Bool
  | .byId id, entry => entry.1 == id
  | .byReference reference, entry => entry.2.reference == reference

namespace Access

/-- **Does the access look something up** that somebody has named? -/
def isLookup : Access → Bool
  | .getEntity .. | .getDocument .. | .findUser .. => true
  | _ => false

/-- **Do two answers settle the same?** Two answers to a look-up do when they are the same artifact,
whatever has changed of it, or the same user. What is no look-up settles nothing. -/
def Settles : (access : Access) → access.Result → access.Result → Prop
  | .getEntity .., first, second => first.identity = second.identity
  | .getDocument .., first, second => first.identity = second.identity
  | .findUser .., first, second => first = second
  | _, _, _ => False

/-- A look-up writes nothing. -/
theorem isWrite_of_isLookup {access : Access} (h : access.isLookup = true) :
    access.isWrite = false := by
  cases access <;> first | (cases h; done) | rfl

end Access

namespace Store

variable {store after later : Store} {stamp : Stamp}

/-- **A read leaves the store as it is**, whether it succeeds or fails. -/
theorem perform_of_read {access : Access} (h : access.isWrite = false) :
    (store.perform stamp access).store = store := by
  cases access <;> first | (cases h; done) | rfl

/-- The access to a user answers what is found, and the stamp plays no part in it. -/
theorem answer_findUser (store : Store) (stamp : Stamp) (text : String) :
    (store.perform stamp (.findUser text)).answer = store.findUser text := by
  rw [perform, Performed.read]

/-! ## Extending -/

/-- **A store that extends another one.** What others have done in the meantime shows in its
registers at the end only. -/
structure Extends (store after : Store) : Prop where
  users : after.users = store.users
  registers : ∀ kind, store.register kind <+: after.register kind

theorem Extends.refl (store : Store) : store.Extends store :=
  ⟨rfl, fun _ => List.prefix_rfl⟩

theorem Extends.trans (h : store.Extends after) (hlater : after.Extends later) :
    store.Extends later :=
  ⟨hlater.users.trans h.users, fun kind => (h.registers kind).trans (hlater.registers kind)⟩

/-- The users never change: they come with the settings, and there is no access that adds one. -/
theorem users_effect {access : Access} {created : Option Artifact}
    (heffect : Effect store stamp access created after) : after.users = store.users := by
  cases heffect with
  | created hdraws hid hreference hadmits => exact file_users store _ _
  | updated hfound hidentity hassignee hbody => exact file_users store _ _
  | documentUpdated hfound hactor hidentity => exact file_users store _ _
  | _ => rfl

/-- **Every effect extends the store.** A creation adds to one register, and everything else leaves
them alone. -/
theorem Extends.of_effect {step : Step} {created : Option Artifact} (hfresh : store.Fresh step)
    (heffect : Effect store step.stamp step.access created after) : store.Extends after :=
  ⟨users_effect heffect, fun kind => ⟨_, (register_effect hfresh heffect kind).symm⟩⟩

/-- **Every run extends the store**, step by step. -/
theorem Extends.of_run {steps : List Step} (hrun : store.FreshRun steps) :
    store.Extends (store.run steps) :=
  hrun.preserves (P := store.Extends)
    (fun step hsoFar hfresh =>
      hsoFar.trans (.of_effect hfresh (perform_effect _ step.stamp step.access)))
    (.refl store)

/-! ## Finding again -/

/-- The identity of what a look-up finds is that of the first entry that answers to it. -/
theorem find?_register (store : Store) (kind : Kind) (lookup : Lookup) :
    ((store.register kind).find? lookup.fits).map (·.2) =
      ((store.shelf kind).find? lookup).map Artifact.identity := by
  cases lookup with
  | byId id =>
    simp only [register, Table.find?, Table.get?, List.find?_map, Option.map_map]
    rfl
  | byReference reference =>
    simp only [register, Table.find?, Table.values, List.find?_map, Option.map_map]
    rfl

namespace Extends

variable (h : store.Extends later)

include h

/-- **What was found is found again.** The first entry that answers to a look-up stays the first
one, since new entries come after all others. -/
theorem find? {kind : Kind} {lookup : Lookup} {artifact : Artifact}
    (hfound : (store.shelf kind).find? lookup = some artifact) :
    ∃ again, (later.shelf kind).find? lookup = some again ∧
      again.identity = artifact.identity := by
  obtain ⟨added, hadded⟩ := h.registers kind
  have hbefore := find?_register store kind lookup
  have hafter := find?_register later kind lookup
  rw [hfound, Option.map_some] at hbefore
  obtain ⟨entry, hentry, hidentity⟩ := Option.map_eq_some_iff.1 hbefore
  -- the entry is still the first one that answers, since new ones come after it
  rw [← hadded, List.find?_append, hentry, Option.some_or, Option.map_some] at hafter
  obtain ⟨again, hagain, hsame⟩ := Option.map_eq_some_iff.1 hafter.symm
  exact ⟨again, hagain, hsame.trans hidentity⟩

/-- An artifact of the hierarchy that was found is found again, under the same identity. -/
theorem findEntity {kind : Kind} {lookup : Lookup} {entity : Entity}
    (hfound : store.findEntity kind lookup = .ok entity) :
    ∃ again, later.findEntity kind lookup = .ok again ∧ again.identity = entity.identity := by
  obtain ⟨again, hagain, hidentity⟩ := h.find? (findEntity_eq_ok_iff.1 hfound)
  cases again with
  | entity again => exact ⟨again, findEntity_eq_ok_iff.2 hagain, hidentity⟩
  | document document =>
    have hkind := congrArg Identity.kind hidentity
    cases entity <;> cases hkind

/-- A steering document that was found is found again, likewise. -/
theorem findDocument {lookup : Lookup} {document : SteeringDocument}
    (hfound : store.findDocument lookup = .ok document) :
    ∃ again, later.findDocument lookup = .ok again ∧ again.identity = document.identity := by
  obtain ⟨again, hagain, hidentity⟩ := h.find? (findDocument_eq_ok_iff.1 hfound)
  cases again with
  | document again => exact ⟨again, findDocument_eq_ok_iff.2 hagain, hidentity⟩
  | entity entity =>
    have hkind := congrArg Identity.kind hidentity
    cases entity <;> cases hkind

/-- Users are found as before. -/
theorem findUser (text : String) : later.findUser text = store.findUser text := by
  unfold Store.findUser
  rw [h.users]

/-- **A look-up that has succeeded** succeeds again, and settles the same. One that has failed may
succeed later, so that nothing is said of it. -/
theorem settles {access : Access} (hlookup : access.isLookup = true) {first : access.Result}
    (hfirst : (store.perform stamp access).answer = .ok first) (again : Stamp) :
    ∃ second, (later.perform again access).answer = .ok second ∧ access.Settles first second := by
  cases access with
  | getEntity kind lookup =>
    obtain ⟨second, hsecond, hidentity⟩ := h.findEntity hfirst
    exact ⟨second, hsecond, hidentity.symm⟩
  | getDocument lookup =>
    obtain ⟨second, hsecond, hidentity⟩ := h.findDocument hfirst
    exact ⟨second, hsecond, hidentity.symm⟩
  | findUser text =>
    rw [answer_findUser] at hfirst
    refine ⟨first, ?_, rfl⟩
    rw [answer_findUser, h.findUser, hfirst]
  | _ => cases hlookup

end Extends

end Store

end Planroom
