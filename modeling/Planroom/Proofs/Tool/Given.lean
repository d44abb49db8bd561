import Planroom.Proofs.Json.Members
import Planroom.Tool.Argument

/-!
# What arguments give

The tools read their arguments through a few functions, each with a rule of its own for what is missing,
null or blank. It is said here what an argument gives without any of these functions, on the members that
the client has written, and that the functions read just that.

* **Members** — `Has`: an argument has the value of its member. `LeftOut`: there is no such member, or it is
  null.
* **Giving** — `GivesText` and `GivesInteger`: what is given by an argument that may be left out.
* **Reading** — what is read is what is given: a text that must be there (`has_of_text`), a text and an
  integer that need not (`givesText_of_ok`, `givesInteger_of_ok`), and an integer that must
  (`givesInteger_of_integer`).
-/

namespace Planroom

/-- **Is the number this integer?** The magnitude is a multiple of a power of two, and where that power is
negative it is moved to the other side. -/
def Binary64.IsInteger (x : Binary64) (n : Int) : Prop :=
  ∃ m : Nat, x.mantissa * Nat.pow 2 x.exponent.toNat = m * Nat.pow 2 (-x.exponent).toNat ∧
    n = if x.negative then -(m : Int) else m

/-- Is a number this integer, in whatever form it is written? `2` and `2.0` are the same integer. -/
def Json.Number.IsInteger : Json.Number → Int → Prop
  | .int m, n => m = n
  | .real x, n => x.IsInteger n

/-- What is read as an integer is this integer. -/
theorem Binary64.isInteger_of_toInt? {x : Binary64} {n : Int} (h : x.toInt? = some n) :
    x.IsInteger n := by
  rw [toInt?] at h
  split at h
  · next hdivides =>
    refine ⟨x.ratio.1 / x.ratio.2, ?_, (Option.some.inj h).symm⟩
    have hwhole : x.ratio.1 / x.ratio.2 * x.ratio.2 = x.ratio.1 :=
      Nat.div_mul_cancel (Nat.dvd_of_mod_eq_zero hdivides)
    -- one of the two powers is that of an exponent below zero, and so it is one
    rw [ratio] at hwhole ⊢
    split at hwhole
    · next hpositive =>
      rw [if_pos hpositive, show (-x.exponent).toNat = 0 by omega]
      simp
    · next hnegative =>
      rw [if_neg hnegative, show x.exponent.toNat = 0 by omega]
      simpa using hwhole.symm
  · cases h

/-- The parameters of a call, in which the arguments are one member and the name of the tool is the
other. -/
def Server.calling (name : String) (arguments : Tool.Arguments) : Option Json :=
  some (.object [("arguments", .object arguments), ("name", .string name)])

namespace Tool

variable {arguments : Arguments} {key : String}

/-! ## Members -/

/-- **Does an argument have this value?** It is that of the first member of the name. Another one of
the same name, were there any, would not be looked at. -/
def Has (arguments : Arguments) (key : String) (value : Json) : Prop :=
  ∃ before after, arguments = before ++ (key, value) :: after ∧ key ∉ before.map (·.1)

/-- **Is an argument left out?** It may as well be null. -/
def LeftOut (arguments : Arguments) (key : String) : Prop :=
  key ∉ arguments.map (·.1) ∨ Has arguments key .null

/-- This is what looking up a member of an object finds. -/
theorem has_iff {value : Json} : Has arguments key value ↔ Json.lookup key arguments = some value :=
  Json.lookup_eq_some_iff.symm

/-- What counts as given is there. -/
theorem lookup_of_given {value : Json} (h : Argument.given arguments key = some value) :
    Json.lookup key arguments = some value := by
  unfold Argument.given Json.given at h
  split at h
  · cases h
  · exact h

/-- An argument has one value, since there is one first member. -/
theorem Has.unique {value other : Json} (h : Has arguments key value)
    (hother : Has arguments key other) : value = other :=
  Option.some.inj ((has_iff.1 h).symm.trans (has_iff.1 hother))

/-- An argument that has a value is not left out, unless that is null. -/
theorem Has.not_leftOut {value : Json} (h : Has arguments key value) (hnotNull : value ≠ .null) :
    ¬ LeftOut arguments key := by
  rintro (hname | hnull)
  · exact hname (Json.lookup_isSome_iff.1 (Option.isSome_of_mem (has_iff.1 h)))
  · exact hnotNull (h.unique hnull)

/-- Nothing counts as given where an argument is left out. It is here that null is taken for
nothing. -/
theorem leftOut_of_given (h : Argument.given arguments key = none) : LeftOut arguments key := by
  by_cases hname : key ∈ arguments.map (·.1)
  · obtain ⟨value, hvalue⟩ := Option.isSome_iff_exists.1 (Json.lookup_isSome_iff.2 hname)
    rw [Argument.given, hvalue] at h
    unfold Json.given at h
    split at h
    · next hnull => exact .inr (has_iff.2 (hvalue.trans hnull))
    · cases h
  · exact .inl hname

/-! ## Giving -/

/-- **What a text gives** that may be left out. It gives the text as it is written, even a blank
one, and nothing only if it is left out. -/
inductive GivesText (arguments : Arguments) (key : String) : Option String → Prop where
  | leftOut (h : LeftOut arguments key) : GivesText arguments key none
  | text {text : String} (h : Has arguments key (.string text)) :
      GivesText arguments key (some text)

/-- A text that is there is given. -/
theorem GivesText.of_has {text? : Option String} (h : GivesText arguments key text?) {text : String}
    (hhas : Has arguments key (.string text)) : text? = some text := by
  cases h with
  | leftOut hleft => exact absurd hleft (hhas.not_leftOut nofun)
  | text hother =>
    cases hhas.unique hother
    rfl

/-- Nothing is given by what is left out. -/
theorem GivesText.of_leftOut {text? : Option String} (h : GivesText arguments key text?)
    (hleft : LeftOut arguments key) : text? = none := by
  cases h with
  | leftOut => rfl
  | text hhas => exact absurd hleft (hhas.not_leftOut nofun)

/-- **What an integer gives** that may be left out. It may be written as a number with a fraction of
zero. -/
inductive GivesInteger (arguments : Arguments) (key : String) : Option Int → Prop where
  | leftOut (h : LeftOut arguments key) : GivesInteger arguments key none
  | integer {number : Json.Number} {n : Int} (h : Has arguments key (.number number))
      (hn : number.IsInteger n) : GivesInteger arguments key (some n)

/-- An integer that is there is given. -/
theorem GivesInteger.of_has {n? : Option Int} (h : GivesInteger arguments key n?) {n : Int}
    (hhas : Has arguments key (.number (.int n))) : n? = some n := by
  cases h with
  | leftOut hleft => exact absurd hleft (hhas.not_leftOut nofun)
  | integer hother hn =>
    cases hhas.unique hother
    exact congrArg some hn.symm

/-! ## Reading -/

/-- **A text that must be given** is that of the argument, and it is not blank. The blanks around it
have not been taken away. -/
theorem has_of_text {text : String} (h : Argument.text arguments key = .ok text) :
    Has arguments key (.string text) ∧ Text.isBlankText text = false := by
  rw [Argument.text] at h
  split at h
  · cases h
  · next given hgiven =>
    split at h
    · cases h
    · next hfilled =>
      cases h
      exact ⟨has_iff.2 (lookup_of_given hgiven), Bool.eq_false_iff.2 hfilled⟩
  · cases h

/-- **A text that may be left out** is read as what the argument gives; anything but a text or null
is an error. -/
theorem givesText_of_ok {text? : Option String}
    (h : Argument.optionalText arguments key = .ok text?) : GivesText arguments key text? := by
  rw [Argument.optionalText] at h
  split at h
  · next hnone =>
    cases h
    exact .leftOut (leftOut_of_given hnone)
  · next hgiven =>
    cases h
    exact .text (has_iff.2 (lookup_of_given hgiven))
  · cases h

/-- The integer that a value is read as is the one that the number is. -/
theorem exists_number_of_integral? {value : Json} {n : Int}
    (h : Argument.integral? value = some n) :
    ∃ number : Json.Number, value = .number number ∧ number.IsInteger n := by
  unfold Argument.integral? at h
  split at h
  · split at h
    · cases h
      exact ⟨_, rfl, rfl⟩
    · cases h
  · obtain ⟨hread, -⟩ := Option.filter_eq_some_iff.1 h
    exact ⟨_, rfl, Binary64.isInteger_of_toInt? hread⟩
  · cases h

/-- **An integer that may be left out** is read as what the argument gives, likewise. -/
theorem givesInteger_of_ok {n? : Option Int}
    (h : Argument.optionalInteger arguments key = .ok n?) : GivesInteger arguments key n? := by
  rw [Argument.optionalInteger] at h
  split at h
  · next hnone =>
    cases h
    exact .leftOut (leftOut_of_given hnone)
  · next value hgiven =>
    split at h
    · next n hn =>
      cases h
      obtain ⟨number, rfl, hinteger⟩ := exists_number_of_integral? hn
      exact .integer (has_iff.2 (lookup_of_given hgiven)) hinteger
    · cases h

/-- **An integer that must be given** is there. It is not read where the argument is null. -/
theorem givesInteger_of_integer {n : Int} (h : Argument.integer arguments key = .ok n) :
    GivesInteger arguments key (some n) := by
  refine givesInteger_of_ok ?_
  rw [Argument.integer] at h
  cases hread : Argument.optionalInteger arguments key with
  | error fault =>
    rw [hread] at h
    cases h
  | ok n? =>
    rw [hread] at h
    cases n? with
    | none => cases h
    | some n =>
      cases h
      rfl

end Tool

end Planroom
