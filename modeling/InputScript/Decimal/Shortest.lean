/-
The shortest decimal that reads back.

Every binary number owns the interval of reals that round to it. Going from
coarse to fine decimal grids, the first grid with a point in that interval
gives the decimals with the fewest digits, and of two such points the nearer
one is taken. The points to look at on a grid are the value's two neighbours:
if any point of the grid lies in the interval, so does one of them.
-/
import InputScript.Binary.Rounding

set_option autoImplicit false

namespace InputScript

/-! ## 1. Decimals -/

/-- The number `digits * 10 ^ exponent`. -/
structure Decimal where
  digits : Nat
  exponent : Int
deriving DecidableEq, Repr

/-- Which of two equally near decimals is taken. -/
inductive TieRule where
  /-- The one with an even last digit. -/
  | even
  /-- The one farther from zero. -/
  | away
deriving DecidableEq, Repr

/-- Whether a tie between `lower` and `lower + 1` goes to the latter. -/
def TieRule.roundsUp (rule : TieRule) (lower : Nat) : Bool :=
  match rule with
  | .even => lower % 2 == 1
  | .away => true

namespace Decimal

/-! ## 2. The interval of a binary number -/

/-- A value and the ends of its interval in a common unit, as numerators over
one denominator. The ends themselves round to the value when `closed`. -/
structure Window where
  lower : Nat
  value : Nat
  upper : Nat
  closed : Bool

/-- The interval of `significand * 2 ^ exponent`, in quarters of the last place.
A neighbour is one place away and the interval ends half way to it; below a
power of two the lower neighbour is only half a place away. An interval of an
even significand holds its ends, because ties go to even. -/
def window (format : BinaryFormat) (significand : Nat) (exponent : Int) : Window :=
  let narrow := significand = pow2 (format.precision - 1) ∧ format.minExponent < exponent
  { lower := 4 * significand - if narrow then 1 else 2
    value := 4 * significand
    upper := 4 * significand + 2
    closed := significand % 2 == 0 }

/-! ## 3. The search -/

/-- The point of a grid that stands for the value: of the value's neighbours on
it the one in the window, and the nearer one if both are. The grid's points are
the multiples of `step`, in the units of the window. -/
def onGrid? (rule : TieRule) (window : Window) (step : Nat) : Option Nat :=
  let floor := window.value / step
  let inside (n : Nat) : Bool :=
    let point := n * step
    if window.closed then window.lower ≤ point && point ≤ window.upper
    else window.lower < point && point < window.upper
  let twice := 2 * (window.value % step)
  let up := step < twice || (twice == step && rule.roundsUp floor)
  match inside floor, inside (floor + 1) with
  | true, true => some (if up then floor + 1 else floor)
  | true, false => some floor
  | false, true => some (floor + 1)
  | false, false => none

/-- Tries the grid of `10 ^ grid` and then finer ones, `fuel` of them. The
window is that of a number with the given unit `2 ^ unit`. -/
def search (rule : TieRule) (window : Window) (unit : Int) : Nat → Int → Decimal
  | 0, grid => ⟨0, grid⟩
  | fuel + 1, grid =>
    let scale := pow2 unit.toNat * pow10 (-grid).toNat
    let scaled : Window :=
      { lower := window.lower * scale, value := window.value * scale
        upper := window.upper * scale, closed := window.closed }
    match onGrid? rule scaled (pow2 (-unit).toNat * pow10 grid.toNat) with
    | some digits => ⟨digits, grid⟩
    | none => search rule window unit fuel (grid - 1)

/-- An exponent of ten above that of a number below `2 ^ bits`, since 30103 is
slightly more than 100000 times the decimal logarithm of two. -/
def topGrid (bits : Int) : Int :=
  bits * 30103 / 100000 + 1

/-- The shortest decimal that rounds to `significand * 2 ^ exponent`, which is
not zero, and the nearest of those. The search starts above the value, and
seventeen digits always suffice. -/
def shortest (format : BinaryFormat) (rule : TieRule) (significand : Nat) (exponent : Int) :
    Decimal :=
  search rule (window format significand exponent) (exponent - 2) 24
    (topGrid (significand.log2 + 1 + exponent))

end Decimal

end InputScript
