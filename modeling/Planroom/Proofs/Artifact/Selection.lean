import Planroom.Proofs.Artifact.Anchor

/-!
# What a selection asks for

Whoever comments on a piece of a body submits three fields: the piece, and the two positions between
which it stands. An anchor is made of them only if all three are given and the body bears them out.

* **Standing** — `Text.StandsBetween`: the characters of a body between two positions. A caller may
  submit any whole numbers as positions, so that standing includes being positions of the body.
* **Creating** — a text that is not empty becomes an anchor exactly where it stands
  (`Anchor.create_of_stands`, `Anchor.create_of_not_stands`).
* **Refused** — `Selection.Refused`: the three ways in which a selection may not become an anchor, and
  which of them counts where there are several.
-/

namespace Planroom

/-- **Does a text stand in a body** from the one position up to the other, counted in characters?
Positions that are out of bounds are not cut back to the body: nothing stands between them. -/
structure Text.StandsBetween (text body : String) (start stop : Int) : Prop where
  nonneg : 0 ≤ start
  ordered : start ≤ stop
  inside : stop ≤ body.length
  reads : (body.toList.take stop.toNat).drop start.toNat = text.toList

namespace Anchor

variable {body text : String} {start stop : Int}

/-- An anchor for two positions that are in order fits exactly where its text stands. -/
theorem fits_iff_stands (hstart : 0 ≤ start) (hordered : start ≤ stop) (visible : Bool) :
    (Anchor.mk text start.toNat stop.toNat visible).fits body = true ↔
      Text.StandsBetween text body start stop := by
  rw [fits_iff]
  constructor
  · rintro ⟨-, hinside, hreads⟩
    exact ⟨hstart, hordered, Int.toNat_le.1 hinside, hreads⟩
  · intro hstands
    exact ⟨Int.toNat_le_toNat hordered, Int.toNat_le.2 hstands.inside, hstands.reads⟩

/-- An empty text is refused, wherever it is said to stand. -/
theorem create_of_empty (body : String) (start stop : Int) :
    create body "" start stop = .error .emptySelection := rfl

/-- **A text becomes an anchor** where it stands. The anchor is visible from the beginning. -/
theorem create_of_stands (hne : text ≠ "") (hstands : Text.StandsBetween text body start stop) :
    create body text start stop = .ok ⟨text, start.toNat, stop.toNat, true⟩ := by
  have hnonneg := hstands.nonneg
  have hordered := hstands.ordered
  have hinside := hstands.inside
  have hfits := (fits_iff_stands hnonneg hordered true).2 hstands
  dsimp only [create]
  rw [if_neg fun hempty => hne (String.isEmpty_iff.1 hempty), if_neg (by omega),
    if_neg (by omega), if_pos hfits]

/-- **Where it does not stand**, it is refused, whatever is wrong with the positions. A caller is
told the same of a negative position and of a wrong text. -/
theorem create_of_not_stands (hne : text ≠ "")
    (hstands : ¬ Text.StandsBetween text body start stop) :
    create body text start stop = .error .positionMismatch := by
  dsimp only [create]
  rw [if_neg fun hempty => hne (String.isEmpty_iff.1 hempty)]
  split
  · rfl
  next hnonneg =>
  split
  · rfl
  next hordered =>
  exact if_neg fun hfits => hstands ((fits_iff_stands (by omega) (by omega) true).1 hfits)

end Anchor

namespace Selection

/-- **Why a selection does not become an anchor.** That a field is missing counts first, and that the
text is empty next. -/
inductive Refused (selection : Selection) (body : String) : Failure → Prop where
  /-- Some fields are given and others are not. -/
  | incomplete
      (hgiven : ¬ (selection.text = none ∧ selection.start = none ∧ selection.stop = none))
      (hmissing : selection.text = none ∨ selection.start = none ∨ selection.stop = none) :
      Refused selection body .incompleteSelection
  /-- The text is empty. -/
  | empty {start stop : Int} (hfields : selection = ⟨some "", some start, some stop⟩) :
      Refused selection body .emptySelection
  /-- The text does not stand in the body between the positions. -/
  | mismatch {text : String} {start stop : Int}
      (hfields : selection = ⟨some text, some start, some stop⟩) (hne : text ≠ "")
      (hstands : ¬ Text.StandsBetween text body start stop) :
      Refused selection body .positionMismatch

/-- **What a selection comes to.** There is one case for each, so that the converse of every
statement about `anchor` can be had by looking at them. -/
inductive Comes (body : String) : Selection → Except Failure (Option Anchor) → Prop where
  | nothing : Comes body ⟨none, none, none⟩ (.ok none)
  | anchored {text : String} {start stop : Int} (hne : text ≠ "")
      (hstands : Text.StandsBetween text body start stop) :
      Comes body ⟨some text, some start, some stop⟩
        (.ok (some ⟨text, start.toNat, stop.toNat, true⟩))
  | refused {selection : Selection} {failure : Failure} (h : selection.Refused body failure) :
      Comes body selection (.error failure)

variable {selection : Selection} {body : String}

/-- A selection with a field missing is refused as such. -/
theorem anchor_of_incomplete
    (hgiven : ¬ (selection.text = none ∧ selection.start = none ∧ selection.stop = none))
    (hmissing : selection.text = none ∨ selection.start = none ∨ selection.stop = none) :
    selection.anchor body = .error .incompleteSelection := by
  unfold anchor
  split
  · exact absurd ⟨rfl, rfl, rfl⟩ hgiven
  · rcases hmissing with hnone | hnone | hnone <;> cases hnone
  · rfl

theorem anchor_of_stands {text : String} {start stop : Int} (hne : text ≠ "")
    (hstands : Text.StandsBetween text body start stop) :
    (Selection.mk (some text) (some start) (some stop)).anchor body =
      .ok (some ⟨text, start.toNat, stop.toNat, true⟩) :=
  congrArg (Except.map some) (Anchor.create_of_stands hne hstands)

theorem Refused.anchor_eq {failure : Failure} (h : selection.Refused body failure) :
    selection.anchor body = .error failure := by
  cases h with
  | incomplete hgiven hmissing => exact anchor_of_incomplete hgiven hmissing
  | @empty start stop hfields =>
    rw [hfields]
    exact congrArg (Except.map some) (Anchor.create_of_empty body start stop)
  | mismatch hfields hne hstands =>
    rw [hfields]
    exact congrArg (Except.map some) (Anchor.create_of_not_stands hne hstands)

/-- Every selection comes to one of these. -/
theorem comes_anchor (selection : Selection) (body : String) :
    selection.Comes body (selection.anchor body) := by
  have hrefused {failure : Failure} (h : selection.Refused body failure) :
      selection.Comes body (selection.anchor body) := by
    rw [h.anchor_eq]
    exact .refused h
  by_cases hgiven : selection.text = none ∧ selection.start = none ∧ selection.stop = none
  · obtain ⟨text, start, stop⟩ := selection
    obtain ⟨rfl, rfl, rfl⟩ := hgiven
    exact .nothing
  by_cases hmissing : selection.text = none ∨ selection.start = none ∨ selection.stop = none
  · exact hrefused (.incomplete hgiven hmissing)
  -- all three fields are given
  simp only [not_or, Option.ne_none_iff_exists] at hmissing
  obtain ⟨text, start, stop⟩ := selection
  obtain ⟨⟨text, rfl⟩, ⟨start, rfl⟩, stop, rfl⟩ := hmissing
  by_cases hne : text = ""
  · subst hne
    exact hrefused (.empty rfl)
  by_cases hstands : Text.StandsBetween text body start stop
  · rw [anchor_of_stands hne hstands]
    exact .anchored hne hstands
  · exact hrefused (.mismatch rfl hne hstands)

/-- **The anchor of a selection.** There is none exactly when no field is given. It is a visible one,
with the text and the positions as given, exactly when all three fields are given, the text is not
empty, and it stands in the body between the two positions. In all other cases the selection is
refused: because a field is missing, or else because the text is empty, or else because it does not
stand there. -/
theorem anchor_of_selection (selection : Selection) (body : String) :
    (selection.anchor body = .ok none ↔
      selection.text = none ∧ selection.start = none ∧ selection.stop = none) ∧
    (∀ anchor, selection.anchor body = .ok (some anchor) ↔
      ∃ text start stop, selection = ⟨some text, some start, some stop⟩ ∧ text ≠ "" ∧
        Text.StandsBetween text body start stop ∧
        anchor.text = text ∧ anchor.start = start ∧ anchor.stop = stop ∧
        anchor.visible = true) ∧
    ∀ failure, selection.anchor body = .error failure ↔ selection.Refused body failure := by
  have hcomes := comes_anchor selection body
  refine ⟨⟨fun h => ?_, ?_⟩, fun anchor => ⟨fun h => ?_, ?_⟩, fun failure => ⟨fun h => ?_, ?_⟩⟩
  · rw [h] at hcomes
    cases hcomes
    exact ⟨rfl, rfl, rfl⟩
  · obtain ⟨text, start, stop⟩ := selection
    rintro ⟨rfl, rfl, rfl⟩
    rfl
  · rw [h] at hcomes
    cases hcomes with
    -- positions that are not negative are the numbers they were given as
    | @anchored text start stop hne hstands =>
      have hnonneg := hstands.nonneg
      have hordered := hstands.ordered
      exact ⟨text, start, stop, rfl, hne, hstands, rfl, Int.toNat_of_nonneg hnonneg,
        Int.toNat_of_nonneg (Int.le_trans hnonneg hordered), rfl⟩
  · obtain ⟨piece, first, last, visible⟩ := anchor
    rintro ⟨text, start, stop, rfl, hne, hstands, rfl, rfl, rfl, rfl⟩
    exact anchor_of_stands hne hstands
  · rw [h] at hcomes
    cases hcomes with
    | refused hrefused => exact hrefused
  · exact Refused.anchor_eq

/-- A piece may stand at the end of a body, and its characters count, not their bytes. -/
example : (Selection.anchor ⟨some "é", some 2, some 3⟩ "aöé").toOption =
    some (some ⟨"é", 2, 3, true⟩) := by
  decide +kernel

end Selection

end Planroom
