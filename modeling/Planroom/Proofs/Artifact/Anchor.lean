import Planroom.Artifact.Anchor
import Planroom.Proofs.Text.Position

/-!
# Anchors in line with a body

What an anchor says of a body is true when the anchor is **in line** with it: the anchor is visible
exactly when its text stands somewhere in the body, and then the text stands between the anchor's
positions.

* **Created** — a new anchor is in line with the body that it was created for (`create_inLine`).
* **Reconciled** — whatever the body becomes, a reconciled anchor is in line with it
  (`reconcile_inLine`). All that is asked of the old anchor is that it is `WellFormed`, which no
  change of a body can undo.
-/

namespace Planroom.Anchor

/-! ## Well-formed anchors -/

/-- **An anchor on its own**: it has a text, and its positions are as far apart as the text is long.
Nothing is said of a body, so this stays true whatever the body becomes. -/
structure WellFormed (anchor : Anchor) : Prop where
  text_ne : anchor.text ≠ ""
  stop_eq : anchor.stop = anchor.start + anchor.text.length

/-- **An anchor in line with a body.** If it is hidden, its positions say nothing about this body:
they are those of the last one that it stood in. -/
structure InLine (anchor : Anchor) (body : String) : Prop extends WellFormed anchor where
  visible_iff : anchor.visible = true ↔ anchor.text.toList <:+: body.toList
  stands : anchor.visible = true →
    (body.toList.take anchor.stop).drop anchor.start = anchor.text.toList

variable {anchor : Anchor} {body : String}

/-- The text of an anchor that fits is the characters between its positions. -/
theorem fits_iff :
    anchor.fits body = true ↔
      anchor.start ≤ anchor.stop ∧ anchor.stop ≤ body.length ∧
        (body.toList.take anchor.stop).drop anchor.start = anchor.text.toList := by
  rw [fits, beq_iff_eq, Text.slice_eq_some_iff]

/-- What is cut out of a text stands in it. -/
theorem infix_of_cut {cs : List Char} {start stop : Nat} :
    (cs.take stop).drop start <:+: cs :=
  (List.drop_suffix start (cs.take stop)).isInfix.trans (List.take_prefix stop cs).isInfix

/-- An anchor that is visible and fits is in line. -/
theorem inLine_of_fits (hwell : anchor.WellFormed) (hvisible : anchor.visible = true)
    (hcut : (body.toList.take anchor.stop).drop anchor.start = anchor.text.toList) :
    anchor.InLine body :=
  { hwell with
    visible_iff := ⟨fun _ => hcut ▸ infix_of_cut, fun _ => hvisible⟩
    stands := fun _ => hcut }

/-- What the text goes on with is what is cut out from there. -/
theorem cut_of_prefix {cs needle : List Char} {position : Nat} (h : needle <+: cs.drop position) :
    (cs.take (position + needle.length)).drop position = needle := by
  obtain ⟨back, hback⟩ := h
  rw [List.drop_take, ← hback, Nat.add_sub_cancel_left]
  exact List.take_left' rfl

/-- A text that stands in another stands at some position of it. -/
theorem exists_position_of_infix {cs needle : List Char} (h : needle <:+: cs) :
    ∃ position, needle <+: cs.drop position := by
  obtain ⟨front, back, rfl⟩ := h
  refine ⟨front.length, back, ?_⟩
  rw [List.append_assoc, List.drop_left' rfl]

/-! ## Creating -/

/-- **A new anchor is in line** with the body that it was made for. That its positions are as far
apart as its text is long follows from its standing between them. -/
theorem create_inLine {text : String} {start stop : Int}
    (h : create body text start stop = .ok anchor) : anchor.InLine body := by
  dsimp only [create] at h
  split at h
  · cases h
  next hempty =>
  split at h
  · cases h
  split at h
  · cases h
  split at h
  · next hfits =>
    cases h
    obtain ⟨horder, hstop, hcut⟩ := fits_iff.1 hfits
    refine inLine_of_fits ⟨fun htext => hempty (String.isEmpty_iff.2 htext), ?_⟩ rfl hcut
    have hlength := congrArg List.length hcut
    simp only [List.length_drop, List.length_take, String.length_toList] at hlength horder ⊢
    omega
  · cases h

/-- An anchor that a selection asks for is in line. -/
theorem selection_inLine {selection : Selection}
    (h : selection.anchor body = .ok (some anchor)) : anchor.InLine body := by
  unfold Selection.anchor at h
  split at h
  · cases h
  · next text start stop =>
    cases hcreate : create body text start stop with
    | error failure =>
      rw [hcreate] at h
      cases h
    | ok made =>
      rw [hcreate] at h
      cases h
      exact create_inLine hcreate
  · cases h

/-! ## Reconciling -/

/-- The nearest of several positions is one of them. -/
theorem nearest?_mem {origin position : Nat} {positions : List Nat}
    (h : nearest? origin positions = some position) : position ∈ positions := by
  -- of two positions one is kept, and then it is one of those that are left
  have hfold : ∀ (ps : List Nat) (p : Nat), ps.foldl (nearer origin) p ∈ p :: ps := by
    intro ps
    induction ps with
    | nil => exact fun p => List.mem_singleton.2 rfl
    | cons q ps ih =>
      intro p
      rw [List.foldl_cons]
      have hnearer : nearer origin p q = p ∨ nearer origin p q = q := by
        unfold nearer
        split
        · exact .inr rfl
        · exact .inl rfl
      rcases List.mem_cons.1 (ih (nearer origin p q)) with heq | hmem
      · rw [heq]
        rcases hnearer with hp | hq
        · rw [hp]
          exact List.mem_cons_self
        · rw [hq]
          exact List.mem_cons_of_mem p List.mem_cons_self
      · exact List.mem_cons_of_mem p (List.mem_cons_of_mem q hmem)
  cases positions with
  | nil => cases h
  | cons p ps =>
    cases h
    exact hfold ps p

/-- Where no position is nearest, there is none. -/
theorem nearest?_eq_none {origin : Nat} {positions : List Nat}
    (h : nearest? origin positions = none) : positions = [] := by
  cases positions with
  | nil => rfl
  | cons p ps => cases h

@[simp] theorem reconcile_text (anchor : Anchor) (body : String) :
    (anchor.reconcile body).2.text = anchor.text := by
  unfold reconcile
  split
  · split <;> rfl
  · split <;> rfl

/-- **A reconciled anchor is in line** with the new body. It stays where its text still stands, goes
to where the text stands now, or is hidden because the text stands nowhere. What the old body was
does not matter. -/
theorem reconcile_inLine (hwell : anchor.WellFormed) (body : String) :
    (anchor.reconcile body).2.InLine body := by
  unfold reconcile
  split
  · -- the text still stands where it stood
    next hfits =>
    obtain ⟨-, -, hcut⟩ := fits_iff.1 hfits
    split
    · next hvisible => exact inLine_of_fits hwell hvisible hcut
    · exact inLine_of_fits ⟨hwell.text_ne, hwell.stop_eq⟩ rfl hcut
  · split
    · next position hnearest =>
      obtain ⟨-, hstands⟩ := Text.mem_occurrences_iff.1 (nearest?_mem hnearest)
      have hcut := cut_of_prefix hstands
      rw [String.length_toList] at hcut
      exact inLine_of_fits ⟨hwell.text_ne, rfl⟩ rfl hcut
    · next hnearest =>
      have hnone := nearest?_eq_none hnearest
      refine ⟨⟨hwell.text_ne, hwell.stop_eq⟩, ⟨nofun, fun hinfix => ?_⟩, nofun⟩
      -- a place where the text stands would have been found
      obtain ⟨position, hstands⟩ := exists_position_of_infix hinfix
      have hmem := Text.mem_occurrences_iff.2 ⟨hwell.text_ne, hstands⟩
      rw [hnone] at hmem
      cases hmem

end Planroom.Anchor
