import Planroom.Number.Binary64
import Planroom.Text.Decimal

/-!
# Shortest decimal text

The text of a binary64 number is the shortest decimal that reads back as it.

* **The interval** — the reals that round to the number reach half way to its two neighbours; the
  ends belong to it when the mantissa is even.
* **The grid** — for one digit, two digits and so on, the two multiples of a power of ten around the
  number are tried. The first grid with a hit wins, and of two hits the nearer one.
* **The layout** — positional up to sixteen digits before the point and four zeros after it, in
  scientific form outside, always with a fractional part where it is positional.
-/

namespace Planroom

/-- A decimal significand and its power of ten. -/
structure Decimal where
  significand : Nat
  exponent : Int
  deriving DecidableEq, Repr

namespace Shortest

/-- An integer times a power of ten, as a fraction. -/
def power (n : Nat) (p : Int) : Nat × Nat :=
  if 0 ≤ p then (n * Nat.pow 10 p.toNat, 1) else (n, Nat.pow 10 (-p).toNat)

/-- Is the first fraction below the second? -/
def below (a b : Nat × Nat) : Bool :=
  a.1 * b.2 < b.1 * a.2

/-- The rounding interval of a number: its two ends, and whether they belong to it. -/
structure Interval where
  low : Nat × Nat
  high : Nat × Nat
  closed : Bool

/-- **The reals that round to a number.** Below a power of two the neighbour is only half as far
away, except at the very bottom, where all steps are equal. -/
def interval (x : Binary64) : Interval :=
  let quarter (n : Nat) : Nat × Nat := (Binary64.mk false n (x.exponent - 2)).ratio
  let lowGap := if x.mantissa = Nat.pow 2 52 ∧ x.exponent ≠ Binary64.minExponent then 1 else 2
  ⟨quarter (4 * x.mantissa - lowGap), quarter (4 * x.mantissa + 2), x.mantissa % 2 == 0⟩

/-- Does a fraction lie in the interval? A tie rounds to the even mantissa, and so the ends belong
to the numbers that have one. -/
def Interval.contains (i : Interval) (a : Nat × Nat) : Bool :=
  if i.closed then !below a i.low && !below i.high a else below i.low a && below a i.high

/-- The place of the first digit: the greatest `p` below `fuel` steps from `start` with `10 ^ p` not
above the fraction. The start is an estimate from above that is off by a few places at most. -/
def leadingPlace (a : Nat × Nat) : Nat → Int → Int
  | 0, p => p
  | fuel + 1, p => if below a (power 1 p) then leadingPlace a fuel (p - 1) else p

/-- The better of the two multiples of `10 ^ p` around the number that lie in the interval, an exact
tie going to the even one. Any further multiple is farther away than these two. -/
def onGrid (value : Nat × Nat) (i : Interval) (p : Int) : Option Decimal :=
  let unit := power 1 p
  let n := (value.1 * unit.2) / (value.2 * unit.1)
  let rest := (value.1 * unit.2) % (value.2 * unit.1)
  let lower := i.contains (power n p)
  let upper := i.contains (power (n + 1) p)
  if lower && upper then
    let twice := 2 * rest
    let whole := value.2 * unit.1
    if twice < whole || (twice == whole && n % 2 == 0) then some ⟨n, p⟩ else some ⟨n + 1, p⟩
  else if lower then some ⟨n, p⟩
  else if upper then some ⟨n + 1, p⟩
  else none

/-- The first grid with a hit, from `places` further digits on. Seventeen digits always tell a
number from its neighbours, so that the last grid has one. -/
def search (value : Nat × Nat) (i : Interval) : Nat → Int → Decimal
  | 0, p => (onGrid value i p).getD ⟨0, p⟩
  | places + 1, p => (onGrid value i p).getD (search value i places (p - 1))

/-- The significand without its trailing zeros. -/
def strip : Nat → Decimal → Decimal
  | 0, d => d
  | fuel + 1, d =>
    if d.significand ≠ 0 ∧ d.significand % 10 = 0 then
      strip fuel ⟨d.significand / 10, d.exponent + 1⟩
    else d

/-- **The shortest decimal that reads back as the number**, for a number that is not zero. Of
several that are as short it is the one nearest to the number. -/
def decimal (x : Binary64) : Decimal :=
  let value := x.ratio
  let estimate : Int := (((value.1.log2 : Int) - value.2.log2 + 1) * 30103) / 100000 + 1
  let first := leadingPlace value 4 estimate
  strip 20 (search value (interval x) 17 first)

/-- The digits of a decimal laid out as text. `point` is where the decimal point stands, counted
from the front of the digits. Very large and very small numbers are written with a power of ten, so
that no text has long runs of zeros. -/
def layout (d : Decimal) : List Char :=
  let ds := Text.digits d.significand
  let point : Int := ds.length + d.exponent
  if 0 ≤ d.exponent ∧ point ≤ 16 then
    ds ++ List.replicate d.exponent.toNat '0' ++ ['.', '0']
  else if 0 < point ∧ point ≤ 16 then
    ds.take point.toNat ++ '.' :: ds.drop point.toNat
  else if -5 < point ∧ point ≤ 0 then
    '0' :: '.' :: List.replicate (-point).toNat '0' ++ ds
  else
    let power := (Text.signedDecimal (point - 1)).toList
    match ds with
    | [] => []
    | [c] => c :: 'e' :: power
    | c :: cs => c :: '.' :: cs ++ 'e' :: power

/-- **The text of a number.** Zero keeps its sign, as it does in the format. -/
def text (x : Binary64) : String :=
  let sign := if x.negative then "-" else ""
  if x.isZero then sign ++ "0.0" else sign ++ String.ofList (layout (decimal x))

end Shortest

end Planroom
