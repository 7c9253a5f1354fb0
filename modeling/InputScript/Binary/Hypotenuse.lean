/-
The length of a vector, correctly rounded.

The sum of the two squares is a whole number of some unit, and its square root
lies between a whole number and the next. Sixty-four extra bits of the root
and one more bit that records whether the root was exact decide the rounding:
no number of the format, and no midpoint of two, lies strictly between two
neighbouring roots of that length.
-/
import InputScript.Binary.Arithmetic

set_option autoImplicit false

namespace InputScript

/-- The whole square root of an `n` below `4 ^ steps`, two bits at a time. -/
def rootFrom : Nat → Nat → Nat
  | 0, _ => 0
  | steps + 1, n =>
    let root := 2 * rootFrom steps (n / 4)
    if (root + 1) * (root + 1) ≤ n then root + 1 else root

/-- The greatest whole number whose square is at most `n`. -/
def wholeRoot (n : Nat) : Nat :=
  rootFrom (n.log2 / 2 + 1) n

namespace Binary

/-- The number nearest to the square root of `square * 4 ^ exponent`. -/
def roundRoot (format : BinaryFormat) (square : Nat) (exponent : Int) : Binary :=
  let extended := square <<< 128
  let root := wholeRoot extended
  let inexact := if root * root = extended then 0 else 1
  roundScaled format false (2 * root + inexact) (exponent - 65)

/-- The length of the vector `(x, y)` (`hypot`). An infinite component makes the
length infinite even when the other one is a NaN. -/
def hypotenuse (format : BinaryFormat) : Binary → Binary → Binary
  | .infinity _, _ | _, .infinity _ => .infinity false
  | .nan, _ | _, .nan => .nan
  | .finite _ m e, .finite _ n f =>
    let (a, b) := aligned m e n f
    roundRoot format (a * a + b * b) (min e f)

end Binary

end InputScript
