/-!
# Binary floating point

A finite number of the binary64 format, kept exactly: a sign, a mantissa below `2 ^ 53` and a power
of two. There is no arithmetic on it beyond what reading and printing need.

* **Rounding** — `ofRatio` is the nearest binary64 number to a quotient, a tie going to the even
  mantissa; a quotient beyond the largest finite number has none.
* **Reading** — `ofDecimal` scales an integer by a power of ten in the format's own arithmetic: the
  integer, the power of ten and their product or quotient are each rounded once.
* **Integers** — `toInt?` recognises the numbers without a fractional part.
-/

namespace Planroom

/-- **A finite binary64 number**, `± mantissa * 2 ^ exponent`. The exponent is not normalised by the
type: `ofRatio` chooses it, and two ways of writing one number are two values here. -/
structure Binary64 where
  negative : Bool
  mantissa : Nat
  exponent : Int
  deriving DecidableEq, Repr, Inhabited

namespace Binary64

/-- The least exponent: multiples of `2 ^ (-1074)` are all there is. Numbers so small have fewer
bits than others, and rounding takes that into account. -/
def minExponent : Int := -1074

/-- The greatest exponent of a finite number. -/
def maxExponent : Int := 971

/-- The quotient as a fraction with the power of two `2 ^ q` taken out of it. -/
def scaled (num den : Nat) (q : Int) : Nat × Nat :=
  if 0 ≤ q then (num, den * Nat.pow 2 q.toNat) else (num * Nat.pow 2 (-q).toNat, den)

/-- The nearest integer to a quotient, a tie going to the even one, as the format demands of every
operation. -/
def roundHalfEven (num den : Nat) : Nat :=
  let quotient := num / den
  let rest := num % den
  if 2 * rest < den then quotient
  else if den < 2 * rest then quotient + 1
  else quotient + quotient % 2

/-- The exponent under which the quotient's integer part has 53 bits, or as many as are left above
the least exponent. The estimate by logarithms may be one too small, and the quotient itself tells.
-/
def exponentOf (num den : Nat) : Int :=
  let estimate := max ((num.log2 : Int) - den.log2 - 53) minExponent
  let part := scaled num den estimate
  if Nat.pow 2 53 ≤ part.1 / part.2 then estimate + 1 else estimate

/-- **The nearest binary64 number to `num / den`**, or nothing where that is beyond the largest
finite one. Rounding may carry into a 54th bit; then the mantissa is halved and the exponent goes
up. -/
def ofRatio (negative : Bool) (num den : Nat) : Option Binary64 :=
  if num = 0 then some ⟨negative, 0, minExponent⟩
  else
    let q := exponentOf num den
    let part := scaled num den q
    let m := roundHalfEven part.1 part.2
    let rounded : Binary64 :=
      if m = Nat.pow 2 53 then ⟨negative, Nat.pow 2 52, q + 1⟩ else ⟨negative, m, q⟩
    if maxExponent < rounded.exponent then none else some rounded

/-- The nearest binary64 number to an integer. -/
def ofNat (negative : Bool) (n : Nat) : Option Binary64 :=
  ofRatio negative n 1

/-- Is it one of the two zeros? -/
def isZero (x : Binary64) : Bool :=
  x.mantissa == 0

/-- The magnitude as a fraction. -/
def ratio (x : Binary64) : Nat × Nat :=
  if 0 ≤ x.exponent then (x.mantissa * Nat.pow 2 x.exponent.toNat, 1)
  else (x.mantissa, Nat.pow 2 (-x.exponent).toNat)

/-- The rounded product of two numbers, with the sign of the first. -/
def mul (x y : Binary64) : Option Binary64 :=
  ofRatio x.negative (x.ratio.1 * y.ratio.1) (x.ratio.2 * y.ratio.2)

/-- The rounded quotient of a number by one that is not zero, with the sign of the first. -/
def div (x y : Binary64) : Option Binary64 :=
  ofRatio x.negative (x.ratio.1 * y.ratio.2) (x.ratio.2 * y.ratio.1)

/-- The greatest power of ten in the format. -/
def maxPower : Nat := 308

/-- The nearest number to `10 ^ k`, for `k` up to `maxPower`. It is rounded once by itself before
anything is multiplied with it, as in a table of such powers. -/
def powerOfTen (k : Nat) : Binary64 :=
  (ofNat false (Nat.pow 10 k)).getD ⟨false, 1, 0⟩

/-- The number divided by `10 ^ k`, in steps of the greatest power of ten. It is zero after a few
steps, so `steps` need not grow with `k`, however far down the exponent goes. -/
def scaleDown (steps : Nat) (x : Binary64) (k : Nat) : Option Binary64 :=
  match steps with
  | 0 => some ⟨x.negative, 0, minExponent⟩
  | steps + 1 =>
    if k ≤ maxPower then x.div (powerOfTen k)
    else if x.isZero then some x
    else match x.div (powerOfTen maxPower) with
      | some y => scaleDown steps y (k - maxPower)
      | none => none

/-- **The number `± significand * 10 ^ exponent`**, or nothing where it is beyond the finite
numbers. Significand, power and result are rounded one after the other, so this may miss the nearest
number by a little; the same little every time. -/
def ofDecimal (negative : Bool) (significand : Nat) (exponent : Int) : Option Binary64 :=
  match ofNat negative significand with
  | none => none
  | some x =>
    if exponent < 0 then scaleDown 8 x exponent.natAbs
    else if exponent ≤ maxPower then x.mul (powerOfTen exponent.toNat)
    else if x.isZero then some x
    else none

/-- **The integer that the number is**, if it has no fractional part. So `2.0` and `2e0` are as good
as `2` where an integer is asked for. -/
def toInt? (x : Binary64) : Option Int :=
  let part := x.ratio
  if part.1 % part.2 = 0 then
    let n : Int := (part.1 / part.2 : Nat)
    some (if x.negative then -n else n)
  else none

end Binary64

end Planroom
