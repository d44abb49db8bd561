import Planroom.Proofs.Store.Numbering

/-!
# Identifiers and kinds

Identifiers are drawn and not counted. That none of them is on two shelves is not seen from one kind:
it is so because what is drawn for a new artifact is in use nowhere in the store.

* **Apart** — `Apart`: an identifier is in the register of one kind at most. Every effect keeps it
  so.
* **Of one kind** — in a reachable store, what has an identifier or a reference of an artifact is of
  its kind.
-/

namespace Planroom.Store

variable {store after : Store} {kind other : Kind} {artifact : Artifact}

/-- **Is no identifier in two registers?** Within one register they are different anyway. -/
def Apart (store : Store) : Prop :=
  ∀ kind other id, id ∈ (store.register kind).map (·.1) → id ∈ (store.register other).map (·.1) →
    kind = other

/-- What is in the register of a kind after a fresh effect was there before, or has been drawn for
something of this kind. -/
theorem mem_register_effect {step : Step} {created : Option Artifact} (hfresh : store.Fresh step)
    (heffect : Effect store step.stamp step.access created after) {id : Uuid}
    (h : id ∈ (after.register kind).map (·.1)) :
    id ∈ (store.register kind).map (·.1) ∨
      id = step.stamp.id ∧ store.uses id = false ∧ created.map Artifact.kind = some kind := by
  rw [register_effect hfresh heffect kind, List.map_append, List.mem_append] at h
  refine h.imp_right fun hnew => ?_
  cases created with
  | none => cases hnew
  | some artifact =>
    obtain ⟨hdraws, hid, -⟩ := created_effect heffect
    rw [Option.toList_some, newEntries_singleton] at hnew
    split at hnew
    · next hkind =>
      obtain rfl := List.mem_singleton.1 hnew
      dsimp only
      rw [hid]
      exact ⟨rfl, hfresh hdraws, congrArg some hkind⟩
    · cases hnew

/-- An identifier that is not in use is in no register. -/
theorem not_mem_register_of_not_uses {id : Uuid} (h : store.uses id = false) (kind : Kind) :
    id ∉ (store.register kind).map (·.1) := by
  rw [map_register_ids]
  exact Table.not_mem_of_get?_none (get?_of_not_uses h kind)

/-- **Every effect** keeps the identifiers apart. The register of one kind grows at most, and by an
identifier that is in none. -/
theorem Apart.effect {step : Step} {created : Option Artifact} (h : store.Apart)
    (hfresh : store.Fresh step)
    (heffect : Effect store step.stamp step.access created after) : after.Apart := by
  intro kind other id hkind hother
  -- an identifier that was there before is not the one that is drawn, and only one is drawn
  rcases mem_register_effect hfresh heffect hkind with hold | ⟨rfl, hunused, hcreated⟩
  · rcases mem_register_effect hfresh heffect hother with hold' | ⟨rfl, hunused, -⟩
    · exact h kind other id hold hold'
    · exact absurd hold (not_mem_register_of_not_uses hunused kind)
  · rcases mem_register_effect hfresh heffect hother with hold' | ⟨-, -, hcreated'⟩
    · exact absurd hold' (not_mem_register_of_not_uses hunused other)
    · rw [hcreated] at hcreated'
      exact Option.some.inj hcreated'

/-- **In every reachable store** the identifiers are apart. It is an invariant of all kinds together
and not of one of them. -/
theorem Reachable.apart (hstore : Reachable store) : store.Apart := by
  refine hstore.invariant (P := Apart) (fun users prompts kind other id h => ?_) Apart.effect
  rw [register_initial] at h
  cases h

/-! ## Of one kind -/

/-- What is on a shelf is found there under its identifier. -/
theorem Numbered.find?_id (h : store.Numbered kind) (hmem : artifact ∈ (store.shelf kind).values) :
    (store.shelf kind).find? (.byId artifact.id) = some artifact := by
  obtain ⟨entry, hentry, rfl⟩ := List.mem_map.1 hmem
  exact fetch_eq_ok_iff.1 (h.fetch_id hentry)

/-- What is on a shelf is found there under its reference. -/
theorem Numbered.find?_reference (h : store.Numbered kind)
    (hmem : artifact ∈ (store.shelf kind).values) :
    (store.shelf kind).find? (.byReference artifact.reference) = some artifact := by
  obtain ⟨entry, hentry, rfl⟩ := List.mem_map.1 hmem
  exact fetch_eq_ok_iff.1 (h.fetch_reference hentry)

/-- What is found on a shelf is there, and has the identifier or the reference that was asked for. -/
theorem Numbered.of_find? (h : store.Numbered kind) {lookup : Lookup}
    (hfound : (store.shelf kind).find? lookup = some artifact) :
    artifact ∈ (store.shelf kind).values ∧
      (lookup = .byId artifact.id ∨ lookup = .byReference artifact.reference) := by
  cases lookup with
  | byId id =>
    have hentry := Table.mem_of_get? hfound
    have hid : artifact.id = id := h.id_eq hentry
    exact ⟨List.mem_map_of_mem (f := (·.2)) hentry, .inl (by rw [hid])⟩
  | byReference reference =>
    obtain ⟨hmem, rfl⟩ := of_find?_key hfound
    exact ⟨hmem, .inr rfl⟩

/-- The reference of what is on a shelf is one of the first references of its kind. -/
theorem Numbered.exists_number (h : store.Numbered kind)
    (hmem : artifact ∈ (store.shelf kind).values) :
    ∃ n, artifact.reference = Reference.ofNumber kind n := by
  have hreference : artifact.reference ∈ Reference.firsts kind (store.issued.get kind) := by
    rw [← h.references, map_register_references]
    exact List.mem_map_of_mem hmem
  obtain ⟨k, -, hnumber⟩ := Reference.mem_firsts_iff.1 hreference
  exact ⟨k + 1, hnumber⟩

/-- The identifier of what is on a shelf is in the register. -/
theorem Numbered.mem_register (h : store.Numbered kind)
    (hmem : artifact ∈ (store.shelf kind).values) :
    artifact.id ∈ (store.register kind).map (·.1) := by
  obtain ⟨entry, hentry, rfl⟩ := List.mem_map.1 hmem
  rw [map_register_ids, h.id_eq hentry]
  exact List.mem_map_of_mem hentry

/-- **On the shelf of another kind** an artifact is found neither under its identifier nor under its
reference. The two have different reasons: identifiers are apart, and references have the label of
their kind. -/
theorem Reachable.find?_elsewhere (hstore : Reachable store)
    (hmem : artifact ∈ (store.shelf kind).values) (hother : other ≠ kind) :
    (store.shelf other).find? (.byId artifact.id) = none ∧
      (store.shelf other).find? (.byReference artifact.reference) = none := by
  have hnumbered := hstore.numbered
  constructor
  · cases hfound : (store.shelf other).find? (.byId artifact.id) with
    | none => rfl
    | some found =>
      obtain ⟨hthere, hsame⟩ := (hnumbered other).of_find? hfound
      have hid : artifact.id = found.id := by
        rcases hsame with hsame | hsame
        · exact Lookup.byId.inj hsame
        · cases hsame
      refine absurd (hstore.apart other kind artifact.id ?_ ?_) hother
      · rw [hid]
        exact (hnumbered other).mem_register hthere
      · exact (hnumbered kind).mem_register hmem
  · cases hfound : (store.shelf other).find? (.byReference artifact.reference) with
    | none => rfl
    | some found =>
      obtain ⟨hthere, hsame⟩ := (hnumbered other).of_find? hfound
      have hreference : artifact.reference = found.reference := by
        rcases hsame with hsame | hsame
        · cases hsame
        · exact Lookup.byReference.inj hsame
      obtain ⟨n, hn⟩ := (hnumbered kind).exists_number hmem
      obtain ⟨m, hm⟩ := (hnumbered other).exists_number hthere
      rw [hn, hm] at hreference
      exact absurd (Reference.ofNumber_inj.1 hreference).1.symm hother

end Planroom.Store
