/-
The direction of a vector, correctly rounded.

The arctangent of a quotient `t` of whole numbers at most 1 is the sum of
Euler's series

    t / (1 + t²) * (1 + 2/3 u + 2·4/(3·5) u² + …)    with u = t² / (1 + t²),

whose terms shrink by more than a half each time. Summing it in whole numbers
of a unit `2 ^ -bits` bounds the arctangent from both sides, and with it π, the
complements for the other octants, and the angle. When both bounds round to
one number that number is the correctly rounded angle; otherwise the unit is
made finer.
-/
import InputScript.Binary.Arithmetic

set_option autoImplicit false

namespace InputScript

/-! ## 1. Enclosures -/

/-- Bounds of a real number, in whole units. -/
structure Enclosure where
  lower : Nat
  upper : Nat
deriving DecidableEq, Repr

namespace Enclosure

/-- Bounds of a multiple. -/
def times (k : Nat) (a : Enclosure) : Enclosure :=
  ⟨k * a.lower, k * a.upper⟩

/-- Bounds of a difference that is not negative. -/
def minus (a b : Enclosure) : Enclosure :=
  ⟨a.lower - b.upper, a.upper - b.lower⟩

/-- The sum of the next `count` terms of Euler's series for `leg / base`, from
term `n` on, each rounded down to whole units. `square` and `total` are
`leg²` and `leg² + base²`. -/
def seriesFrom (square total : Nat) : Nat → Nat → Nat → Nat
  | 0, _, _ => 0
  | count + 1, n, term =>
    term + seriesFrom square total count (n + 1)
      (term * ((2 * n + 2) * square) / ((2 * n + 3) * total))

/-- Bounds of the arctangent of `leg / base` in units of `2 ^ -bits`, for a leg
no longer than the base. After `bits + 2` terms the rest is below one unit, and
rounding a term down loses less than two. -/
def arctangent (bits leg base : Nat) : Enclosure :=
  let square := leg * leg
  let total := square + base * base
  let sum := seriesFrom square total (bits + 2) 0 (((leg * base) <<< bits) / total)
  ⟨sum, sum + 2 * (bits + 4)⟩

/-- Bounds of a quarter of π, the arctangent of one. -/
def quarterPi (bits : Nat) : Enclosure :=
  arctangent bits 1 1

/-- Bounds of the angle between the vector `(± x, y)` and the positive first
axis, for whole `x` and `y` that are not both zero. -/
def angle (bits : Nat) (leftward : Bool) (x y : Nat) : Enclosure :=
  let quarter := quarterPi bits
  let acute :=
    if y ≤ x then arctangent bits y x
    else (quarter.times 2).minus (arctangent bits x y)
  if leftward then (quarter.times 4).minus acute else acute

end Enclosure

namespace Binary

/-! ## 2. Angles of whole vectors -/

/-- The number both bounds of the angle round to, trying finer units while the
bounds disagree. When no unit decides, the lower bound at the last one is
taken. -/
def roundAngle (format : BinaryFormat) (leftward negative : Bool) (x y bits : Nat) :
    List Nat → Binary
  | [] =>
    roundQuotient format negative (Enclosure.angle bits leftward x y).lower (1 <<< bits)
  | next :: finer =>
    let bounds := Enclosure.angle bits leftward x y
    let low := roundQuotient format negative bounds.lower (1 <<< bits)
    let high := roundQuotient format negative bounds.upper (1 <<< bits)
    if low = high then low else roundAngle format leftward negative x y next finer

/-- The angle of the vector `(± x, ± y)` with whole `x` and `y`, not both zero.

For a direction within `2 ^ -54` of the positive first axis the arctangent is
below the quotient `y / x` by less than a third of the quotient's cube. That is
too little to reach the next number or midpoint below the quotient, so any
value slightly below the quotient rounds to the same number. -/
def wholeAngle (format : BinaryFormat) (leftward negative : Bool) (x y : Nat) : Binary :=
  if y = 0 ∧ !leftward then zero format negative
  else if y <<< 54 ≤ x ∧ !leftward then
    roundQuotient format negative (y <<< 200 - 1) (x <<< 200)
  else
    roundAngle format leftward negative x y 256 [512, 1024, 2048]

/-! ## 3. Angles of floating-point vectors -/

/-- The angle of the vector `(x, y)` in radians, between -π and π, with the sign
of `y` (`atan2`). Infinite components outweigh finite ones and each other's
size, and the zero vector points along the first axis in the direction of the
sign of its zero `x`. -/
def direction (format : BinaryFormat) (x y : Binary) : Binary :=
  match x, y with
  | .nan, _ | _, .nan => .nan
  | .infinity s, .infinity t => wholeAngle format s t 1 1
  | .infinity s, .finite t _ _ => wholeAngle format s t 1 0
  | .finite s _ _, .infinity t => wholeAngle format s t 0 1
  | .finite s m e, .finite t n f =>
    let (a, b) := aligned m e n f
    if a = 0 ∧ b = 0 then wholeAngle format s t 1 0 else wholeAngle format s t a b

end Binary

end InputScript
