import Planroom.Proofs.Artifact.Reconcile

/-!
# Anchors while they are hidden

The body of an artifact changes many times, and a text in it may be gone for a while and then be back.
An anchor does not remember for how long it was hidden, nor by what: it keeps its positions, and from
there it goes to where its text is back.

* **Following** — `follow`: an anchor is reconciled with one body after the other.
* **Hidden** — `follow_of_absent`: while its text stands nowhere, nothing of an anchor changes but that it
  is hidden. Where it goes later does not depend on that (`reconcile_withVisible`).
* **Settled** — `settled_reconcile`: what a body has made of an anchor is settled in this body, and is left
  alone by it from then on (`reconcile_of_settled`).

Nothing is asked of the anchor here: its text may be empty, and its positions may be any.
-/

namespace Planroom

/-- **What is told of an anchor that was hidden**: it is restored where it would have been left as
it is. That it has moved is told in the same way. -/
def AnchorChange.fromHidden : AnchorChange → AnchorChange
  | .unchanged => .restored
  | change => change

namespace Anchor

variable {anchor : Anchor} {body : String}

/-! ## Following -/

/-- **Follow a body through its changes**: what is told at each of them, and what becomes of the
anchor in the end. Each change starts from what the one before has made of the anchor. -/
def follow (anchor : Anchor) : List String → List AnchorChange × Anchor
  | [] => ([], anchor)
  | body :: bodies =>
    let here := anchor.reconcile body
    let later := here.2.follow bodies
    (here.1 :: later.1, later.2)

theorem follow_cons (anchor : Anchor) (body : String) (bodies : List String) :
    anchor.follow (body :: bodies) =
      ((anchor.reconcile body).1 :: ((anchor.reconcile body).2.follow bodies).1,
        ((anchor.reconcile body).2.follow bodies).2) := rfl

/-! ## Hidden -/

/-- **The anchor, visible or not.** While its text is absent this is all that changes in it. -/
def withVisible (anchor : Anchor) (visible : Bool) : Anchor :=
  { anchor with visible := visible }

theorem withVisible_self (anchor : Anchor) : anchor.withVisible anchor.visible = anchor := rfl

/-- An anchor that fits is visible where it is. -/
theorem reconcile_of_fits (hfits : anchor.fits body = true) :
    anchor.reconcile body =
      (if anchor.visible then .unchanged else .restored, anchor.withVisible true) := by
  rw [reconcile, if_pos hfits]
  cases hvisible : anchor.visible with
  | true =>
    have hsame : anchor.withVisible true = anchor := by rw [← hvisible, withVisible_self]
    rw [if_pos rfl, if_pos rfl, hsame]
  | false => rfl

/-- An anchor that does not fit comes to the same, visible or not. -/
theorem reconcile_withVisible_of_lost (hlost : anchor.fits body = false) (visible : Bool) :
    (anchor.withVisible visible).reconcile body = anchor.reconcile body := by
  have hsame : (anchor.withVisible visible).fits body = false := hlost
  rw [reconcile, hsame, if_neg Bool.false_ne_true, reconcile, hlost, if_neg Bool.false_ne_true]
  rfl

/-- **Where an anchor goes** does not depend on whether it can be seen. This is what makes hidden
periods forgettable: all that they leave behind is the mark. -/
theorem reconcile_withVisible (anchor : Anchor) (visible : Bool) (body : String) :
    ((anchor.withVisible visible).reconcile body).2 = (anchor.reconcile body).2 := by
  cases hfits : anchor.fits body with
  | true =>
    have hsame : (anchor.withVisible visible).fits body = true := hfits
    rw [reconcile_of_fits hfits, reconcile_of_fits hsame]
    rfl
  | false => rw [reconcile_withVisible_of_lost hfits]

/-- What is told of an anchor depends on that only where it would be left as it is. -/
theorem change_withVisible_false (anchor : Anchor) (body : String) :
    ((anchor.withVisible false).reconcile body).1 = (anchor.reconcile body).1.fromHidden := by
  cases hfits : anchor.fits body with
  | true =>
    have hsame : (anchor.withVisible false).fits body = true := hfits
    rw [reconcile_of_fits hfits, reconcile_of_fits hsame]
    cases anchor.visible <;> rfl
  | false =>
    rw [reconcile_withVisible_of_lost hfits, reconcile, hfits, if_neg Bool.false_ne_true]
    cases nearest? anchor.start (Text.occurrences body anchor.text) <;> rfl

/-- **Where the text is absent** the anchor is hidden. The empty text is never absent, and so is not
spoken of here. -/
theorem reconcile_of_absent (habsent : ¬ anchor.text.toList <:+: body.toList) :
    anchor.reconcile body = (.hidden, anchor.withVisible false) := by
  refine reconcile_of_nowhere fun position hstands => habsent ?_
  exact hstands.isInfix.trans (List.drop_suffix position body.toList).isInfix

/-- **While the text is absent** the anchor is told to be hidden again and again, and keeps its
positions. The induction is on the bodies: after the first one it is hidden, and stays so. -/
theorem follow_of_absent {bodies : List String}
    (habsent : ∀ body ∈ bodies, ¬ anchor.text.toList <:+: body.toList) :
    anchor.follow bodies =
      (List.replicate bodies.length .hidden,
        anchor.withVisible (anchor.visible && bodies.isEmpty)) := by
  induction bodies generalizing anchor with
  | nil =>
    rw [List.isEmpty_nil, Bool.and_true, withVisible_self]
    rfl
  | cons body bodies ih =>
    obtain ⟨hhere, hlater⟩ := List.forall_mem_cons.1 habsent
    rw [follow_cons, reconcile_of_absent hhere, @ih (anchor.withVisible false) hlater,
      List.length_cons, List.replicate_succ, List.isEmpty_cons, Bool.and_false]
    rfl

/-! ## Settled -/

/-- **Is an anchor settled in a body?** It is visible and fits, or it is hidden, does not fit, and
there is nowhere to go. Either way the body gives it no reason to change. -/
inductive Settled (anchor : Anchor) (body : String) : Prop where
  | visible (hvisible : anchor.visible = true) (hfits : anchor.fits body = true)
  | hidden (hhidden : anchor.visible = false) (hlost : anchor.fits body = false)
      (hnowhere : Text.occurrences body anchor.text = [])

/-- An anchor that has gone to where its text occurs fits there. -/
theorem fits_of_mem_occurrences {text : String} {place : Nat}
    (h : place ∈ Text.occurrences body text) :
    (⟨text, place, place + text.length, true⟩ : Anchor).fits body = true := by
  obtain ⟨hne, hstands⟩ := Text.mem_occurrences_iff.1 h
  have hwell : (⟨text, place, place + text.length, true⟩ : Anchor).WellFormed := ⟨hne, rfl⟩
  exact (fits_iff_keepsPlace hwell).2 (keepsPlace_of_standsAt hwell hstands)

/-- **What a body has made of an anchor** is settled in it. An anchor that has moved fits where it
has gone, and one that is hidden had nowhere to go. -/
theorem settled_reconcile (anchor : Anchor) (body : String) :
    (anchor.reconcile body).2.Settled body := by
  cases hfits : anchor.fits body with
  | true =>
    rw [reconcile_of_fits hfits]
    exact .visible rfl hfits
  | false =>
    rw [reconcile, hfits, if_neg Bool.false_ne_true]
    cases hnearest : nearest? anchor.start (Text.occurrences body anchor.text) with
    | some place => exact .visible rfl (fits_of_mem_occurrences (nearest?_mem hnearest))
    | none => exact .hidden rfl hfits (nearest?_eq_none hnearest)

/-- **An anchor that is settled** is left as it is, although a hidden one is told to be hidden once
more. -/
theorem reconcile_of_settled (h : anchor.Settled body) :
    anchor.reconcile body = (if anchor.visible then .unchanged else .hidden, anchor) := by
  cases h with
  | visible hvisible hfits =>
    rw [reconcile_of_fits hfits, if_pos hvisible, if_pos hvisible, ← hvisible, withVisible_self]
  | hidden hhidden hlost hnowhere =>
    rw [reconcile, hlost, hnowhere, hhidden, ← withVisible_self anchor, hhidden]
    rfl

/-- **Hidden periods leave no trace.** Let an anchor be reconciled with any number of bodies in which its
text does not stand, one after the other. At each of them it is told to be hidden, and by the next body,
whatever it is, the same becomes of it as if there had been nothing in between: it has the same text and
the same positions, and is visible or not. What is told then is the same, too, except that an anchor is
restored where it would have been unchanged. And what a body has made of an anchor is not changed when it
is reconciled with this body again: it is told to be unchanged if it is visible, and hidden if it is not.
-/
theorem hidden_periods_leave_no_trace (anchor : Anchor) {bodies : List String}
    (habsent : ∀ body ∈ bodies, ¬ anchor.text.toList <:+: body.toList) (body : String) :
    (anchor.follow bodies).1 = List.replicate bodies.length .hidden ∧
      ((anchor.follow bodies).2.reconcile body).2 = (anchor.reconcile body).2 ∧
      (bodies ≠ [] →
        ((anchor.follow bodies).2.reconcile body).1 = (anchor.reconcile body).1.fromHidden) ∧
      (let once := (anchor.reconcile body).2
      once.reconcile body = (if once.visible then .unchanged else .hidden, once)) := by
  have hfollowed := follow_of_absent habsent
  refine ⟨?_, ?_, fun hne => ?_, reconcile_of_settled (settled_reconcile anchor body)⟩
  · rw [hfollowed]
  · rw [hfollowed]
    exact reconcile_withVisible anchor _ body
  · have hhidden : (anchor.visible && bodies.isEmpty) = false := by
      rw [List.isEmpty_eq_false_iff.2 hne, Bool.and_false]
    rw [hfollowed, hhidden]
    exact change_withVisible_false anchor body

/-- The text of `straying` is gone from two bodies, and stands twice in the third one, but not where it
stood. The anchor goes to the first place as it does without the other two bodies, and stays there. -/
theorem hidden_periods_leave_no_trace_straying :
    (∀ body ∈ ["xü", ""], ¬ straying.text.toList <:+: body.toList) ∧
      (straying.follow ["xü", ""]).1 = [.hidden, .hidden] ∧
      (straying.follow ["xü", ""]).2.reconcile "xüüxxüü" = (.moved 3 1, ⟨"üü", 1, 3, true⟩) ∧
      (⟨"üü", 1, 3, true⟩ : Anchor).reconcile "xüüxxüü" = (.unchanged, ⟨"üü", 1, 3, true⟩) := by
  have habsent : ∀ body ∈ ["xü", ""], ¬ straying.text.toList <:+: body.toList := by decide +kernel
  have hdirect : straying.reconcile "xüüxxüü" = (.moved 3 1, ⟨"üü", 1, 3, true⟩) := by
    decide +kernel
  obtain ⟨hduring, hplace, htold, hagain⟩ :=
    hidden_periods_leave_no_trace straying habsent "xüüxxüü"
  rw [hdirect] at hplace htold hagain
  exact ⟨habsent, hduring, Prod.ext (htold (List.cons_ne_nil _ _)) hplace, hagain⟩

end Anchor

end Planroom
