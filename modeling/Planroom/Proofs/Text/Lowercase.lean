import Mathlib.Data.List.Infix
import Planroom.Text.Cut
import Planroom.Text.Lowercase

/-!
# Lower case, part by part

Every character has a lower-case form of its own, whatever stands beside it, but for the capital
sigma: it is `ς` at the end of a word and `σ` elsewhere. So part of a text that is put into lower
case by itself stands in the lower-case form of the whole, as long as its sigmas take the same form
here and there.

* **Inside** — `containsText_iff`: one text stands inside another one when its characters do.
* **Sigmas** — `SigmasAgree`: they take the form in the whole that they take in the part. They do so
  where no word goes on beyond the part (`sigmasAgree_of_apart`).
* **Parts** — `lowercase_infix`: then the lower-case form of the part stands in that of the whole.
-/

namespace Planroom.Text

/-! ## Inside -/

theorem containsChars_iff {needle cs : List Char} :
    containsChars needle cs = true ↔ needle <:+: cs := by
  induction cs with
  | nil => rw [containsChars, List.isEmpty_iff, List.infix_nil]
  | cons c cs ih =>
    rw [containsChars, Bool.or_eq_true, List.isPrefixOf_iff_prefix, ih, List.infix_cons_iff]

theorem containsText_iff {needle s : String} :
    containsText needle s = true ↔ needle.toList <:+: s.toList :=
  containsChars_iff

/-! ## Sigmas -/

/-- **Does every capital sigma of a part** take the form between what stands `before` and `after`
the part that it takes in the part alone? It is a condition on the sigmas only; a text without any
meets it everywhere. -/
def SigmasAgree (before part after : List Char) : Prop :=
  ∀ front back, part = front ++ 'Σ' :: back →
    lowerSigma front.reverse back = lowerSigma (front.reverse ++ before.reverse) (back ++ after)

/-- What does not touch a word makes no difference to what does. -/
theorem touchesWord_append {cs more : List Char} (h : touchesWord more = false) :
    touchesWord (cs ++ more) = touchesWord cs := by
  rw [touchesWord, touchesWord, List.dropWhile_append]
  cases hrest : cs.dropWhile isCaseIgnorable with
  | nil => exact h
  | cons c rest => rfl

/-- **Where no word goes on** beyond the part, its sigmas take the same form. This is the case that
can be seen without looking at the part. -/
theorem sigmasAgree_of_apart {before after : List Char}
    (hbefore : touchesWord before.reverse = false) (hafter : touchesWord after = false)
    (part : List Char) : SigmasAgree before part after := by
  intro front back _
  rw [lowerSigma, lowerSigma, touchesWord_append hbefore, touchesWord_append hafter]

/-! ## Parts -/

/-- What stands in front comes first, in whatever form. -/
theorem lowercaseFrom_suffix (context front rest : List Char) :
    lowercaseFrom (front.reverse ++ context) rest <:+ lowercaseFrom context (front ++ rest) := by
  induction front generalizing context with
  | nil => exact List.suffix_refl _
  | cons c front ih =>
    rw [List.reverse_cons, List.append_assoc, List.singleton_append]
    exact (ih (c :: context)).trans (List.suffix_append _ _)

/-- A part whose sigmas agree comes in the form that it has by itself. Of the part the characters
that are `seen`, nearest first, have come already, there as here. They must be told apart from what
stands `before`, since the induction moves characters of the part among them. -/
theorem lowercaseFrom_prefix {before after : List Char} (part seen : List Char)
    (h : ∀ front back, part = front ++ 'Σ' :: back →
      lowerSigma (front.reverse ++ seen) back =
        lowerSigma (front.reverse ++ seen ++ before) (back ++ after)) :
    lowercaseFrom seen part <+: lowercaseFrom (seen ++ before) (part ++ after) := by
  induction part generalizing seen with
  | nil => exact List.nil_prefix
  | cons c rest ih =>
    have hrest : lowercaseFrom (c :: seen) rest <+:
        lowercaseFrom (c :: seen ++ before) (rest ++ after) := by
      refine ih (c :: seen) fun front back hsplit => ?_
      have hsame := h (c :: front) back (by rw [hsplit, List.cons_append])
      rwa [List.reverse_cons, List.append_assoc, List.singleton_append] at hsame
    -- only a sigma looks at what stands around it
    have hfirst : c = 'Σ' → lowerSigma seen rest = lowerSigma (seen ++ before) (rest ++ after) :=
      fun hsigma => h [] rest (by rw [hsigma, List.nil_append])
    rw [List.cons_append, lowercaseFrom, lowercaseFrom]
    split
    · next hsigma =>
      rw [hfirst hsigma]
      exact (List.prefix_append_right_inj _).2 hrest
    · exact (List.prefix_append_right_inj _).2 hrest

/-- **Part of a text** stands in lower case in the lower-case form of the whole, if its sigmas
agree. Without that it need not: `ΑΣ` ends in another sigma than the `ΑΣ` of `ΑΣΑ`. -/
theorem lowercase_infix {before part after : List Char} (h : SigmasAgree before part after) :
    lowercaseFrom [] part <:+: lowercaseFrom [] (before ++ part ++ after) := by
  have hpart : lowercaseFrom [] part <+: lowercaseFrom before.reverse (part ++ after) :=
    lowercaseFrom_prefix part [] fun front back hsplit => by
      rw [List.append_nil]
      exact h front back hsplit
  have hrest : lowercaseFrom before.reverse (part ++ after) <:+
      lowercaseFrom [] (before ++ (part ++ after)) := by
    have hsuffix := lowercaseFrom_suffix [] before (part ++ after)
    rwa [List.append_nil] at hsuffix
  rw [List.append_assoc]
  exact List.infix_iff_prefix_suffix.2 ⟨_, hpart, hrest⟩

end Planroom.Text
