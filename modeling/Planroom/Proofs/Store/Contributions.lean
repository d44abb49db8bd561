import Planroom.Proofs.Store.Coherence
import Planroom.Proofs.Store.Listing
import Planroom.Proofs.Store.Remarks

/-!
# Whose work a store holds

Everything in a store is somebody's: an artifact and a relationship bear the identifier of their
creator, a comment that of its author. The store takes these identifiers as they are given and checks
none of them.

* **Contributions** — what users have made, without that of it which can change. Each is of a sort and
  has a maker.
* **One step** — `contributions_effect`: what is there after an effect was there before, or the access
  has made it, and made it this maker's.
* **A run** — `exists_maker`: so it is of whatever is there after a run and was not there before it.
-/

namespace Planroom

/-- **What a user has made**, without that of it which others may change later. So it can be
recognised in any later store. -/
inductive Contribution where
  | artifact (identity : Identity)
  | relationship (relationship : Relationship)
  | remark (remark : Remark)
  deriving DecidableEq, Repr

namespace Contribution

/-- The sort of a contribution. -/
def product : Contribution → Product
  | .artifact _ => .artifact
  | .relationship _ => .relationship
  | .remark _ => .remark

/-- Whose it is. -/
def maker : Contribution → Uuid
  | .artifact identity => identity.creator
  | .relationship r => r.creator
  | .remark r => r.author

end Contribution

/-- **Does the access make this**, if it succeeds? It is asked of the access alone, for the maker is
part of what is asked for. -/
def Access.Makes (access : Access) (contribution : Contribution) : Prop :=
  access.makes? = some (contribution.product, contribution.maker)

namespace Store

/-- **All that users have made**, of every sort, in one list. -/
def contributions (store : Store) : List Contribution :=
  Kind.all.flatMap (fun kind => (store.identities kind).map .artifact) ++
    (store.relationships.map .relationship ++ store.remarks.map .remark)

variable {store after : Store} {stamp : Stamp} {access : Access} {created : Option Artifact}

theorem artifact_mem_contributions {identity : Identity} :
    .artifact identity ∈ store.contributions ↔ ∃ kind, identity ∈ store.identities kind := by
  simp [contributions, Kind.mem_all]

theorem relationship_mem_contributions {relationship : Relationship} :
    .relationship relationship ∈ store.contributions ↔ relationship ∈ store.relationships := by
  simp [contributions]

theorem remark_mem_contributions {remark : Remark} :
    .remark remark ∈ store.contributions ↔ remark ∈ store.remarks := by
  simp [contributions]

/-! ## One step -/

/-- The identities on a shelf are those of its records. -/
theorem mem_identities {kind : Kind} {identity : Identity} :
    identity ∈ store.identities kind ↔
      ∃ id artifact, (id, artifact) ∈ (store.shelf kind).entries ∧ artifact.identity = identity := by
  simp [identities, register]

/-- **What is filed** has been there before, or is the artifact that is being filed. -/
theorem mem_identities_file {id : Uuid} {artifact : Artifact} {kind : Kind} {identity : Identity}
    (h : identity ∈ (store.file id artifact).identities kind) :
    identity ∈ store.identities kind ∨ identity = artifact.identity := by
  obtain ⟨key, found, hmem, rfl⟩ := mem_identities.1 h
  rw [shelf_file] at hmem
  split at hmem
  · rcases Table.mem_insert hmem with hnew | hold
    · cases hnew
      exact .inr rfl
    · exact .inl (mem_identities.2 ⟨key, found, hold, rfl⟩)
  · exact .inl (mem_identities.2 ⟨key, found, hmem, rfl⟩)

/-- A shelf that is the same has the same identities. -/
theorem identities_congr {other : Store} (h : other.shelf = store.shelf) :
    other.identities = store.identities := by
  funext kind
  rw [identities, register_congr h]
  rfl

/-- **After an effect** the identities are those before it, and maybe one that the access has made.
An update files an artifact, too, but one whose identity is not new. -/
theorem identities_effect (heffect : Effect store stamp access created after) {kind : Kind}
    {identity : Identity} (h : identity ∈ after.identities kind) :
    (∃ kind, identity ∈ store.identities kind) ∨ access.Makes (.artifact identity) := by
  cases heffect with
  | nothing => exact .inl ⟨kind, h⟩
  | created hdraws hid hreference hadmits hmakes =>
    rw [identities_congr (shelf_with_issued _ _)] at h
    rcases mem_identities_file h with hold | rfl
    · exact .inl ⟨kind, hold⟩
    · exact .inr hmakes
  | @updated found _ _ old new _ hfound hidentity =>
    rw [identities_congr (shelf_with_comments _ _)] at h
    rcases mem_identities_file h with hold | rfl
    · exact .inl ⟨kind, hold⟩
    · have hmem := Table.mem_of_get? (findEntity_eq_ok_iff.1 hfound)
      exact .inl ⟨found, mem_identities.2 ⟨_, _, hmem, hidentity.symm⟩⟩
  | @documentUpdated _ _ _ _ old new hfound hactor hidentity =>
    rcases mem_identities_file h with hold | rfl
    · exact .inl ⟨kind, hold⟩
    · have hmem := Table.mem_of_get? (findDocument_eq_ok_iff.1 hfound)
      exact .inl ⟨.steeringDocument, mem_identities.2 ⟨_, _, hmem, hidentity.symm⟩⟩
  | related =>
    rw [identities_congr (shelf_with_relationships _ _)] at h
    exact .inl ⟨kind, h⟩
  | linked | unlinked =>
    rw [identities_congr (shelf_with_links _ _)] at h
    exact .inl ⟨kind, h⟩
  | commented | resolved =>
    rw [identities_congr (shelf_with_comments _ _)] at h
    exact .inl ⟨kind, h⟩

/-- The same of the relationships. -/
theorem mem_relationships_effect (heffect : Effect store stamp access created after)
    {relationship : Relationship} (h : relationship ∈ after.relationships) :
    relationship ∈ store.relationships ∨ access.Makes (.relationship relationship) := by
  cases heffect with
  | created =>
    rw [file_relationships] at h
    exact .inl h
  | updated =>
    refine .inl ?_
    rw [← file_relationships store]
    exact h
  | documentUpdated =>
    rw [file_relationships] at h
    exact .inl h
  | related hid hsource htarget htype hother hsourceThere htargetThere hnew hcreator =>
    rcases List.mem_append.1 h with hold | hmade
    · exact .inl hold
    · obtain rfl := List.mem_singleton.1 hmade
      exact .inr (congrArg (fun creator => some (Product.relationship, creator)) hcreator.symm)
  | _ => exact .inl h

/-- **What is there after an effect** was there before, or the access has made it. Nobody else is
ever entered as the maker. -/
theorem contributions_effect (heffect : Effect store stamp access created after)
    {contribution : Contribution} (h : contribution ∈ after.contributions) :
    contribution ∈ store.contributions ∨ access.Makes contribution := by
  cases contribution with
  | artifact identity =>
    obtain ⟨kind, hidentity⟩ := artifact_mem_contributions.1 h
    exact (identities_effect heffect hidentity).imp_left artifact_mem_contributions.2
  | relationship relationship =>
    have hrelationship := relationship_mem_contributions.1 h
    exact (mem_relationships_effect heffect hrelationship).imp_left relationship_mem_contributions.2
  | remark remark =>
    have hremark := remark_mem_contributions.1 h
    rw [remark_mem_contributions]
    rcases remarks_effect heffect with hsame | ⟨new, hadded, -, -, hmakes, -⟩
    · rw [hsame] at hremark
      exact .inl hremark
    · rw [hadded, List.mem_append, List.mem_singleton] at hremark
      rcases hremark with hold | rfl
      · exact .inl hold
      · exact .inr hmakes

/-! ## A run -/

/-- At the beginning nobody has made anything. -/
theorem not_mem_contributions_initial (users : List User) (prompts : List Prompt)
    (contribution : Contribution) : contribution ∉ (initial users prompts).contributions :=
  List.not_mem_nil

/-- **What has come into a store** in a run was made at one of its steps, before which it was not
there. -/
theorem exists_maker {steps : List Step} {contribution : Contribution}
    (hnew : contribution ∉ store.contributions)
    (h : contribution ∈ (store.run steps).contributions) :
    ∃ before step rest, steps = before ++ step :: rest ∧
      contribution ∉ (store.run before).contributions ∧
      contribution ∈ ((store.run before).after step).contributions ∧
      step.access.Makes contribution := by
  obtain ⟨before, step, rest, hsteps, hbefore, hafter⟩ :=
    exists_turn (P := fun store => contribution ∉ store.contributions) hnew (not_not_intro h)
  have hmade := not_not.1 hafter
  have hmakes := (contributions_effect (perform_effect _ step.stamp step.access) hmade).resolve_left
    hbefore
  exact ⟨before, step, rest, hsteps, hbefore, hmade, hmakes⟩

end Store

end Planroom
