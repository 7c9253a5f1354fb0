/-
Rounding an exact value to a format.

Every operation on floating-point numbers here computes its exact result as a
quotient of whole numbers and rounds it once: to the nearest number of the
format, to the one with an even significand when two are equally near, and to
infinity when the rounded exponent passes the format's greatest. Rounding once
is what makes each operation correctly rounded.
-/
import InputScript.Binary.Basic

set_option autoImplicit false

namespace InputScript

/-! ## 1. Whole numbers -/

/-- The whole number nearest to `numerator / denominator`, the even one of two
that are equally near. -/
def nearestEven (numerator denominator : Nat) : Nat :=
  let floor := numerator / denominator
  let twice := 2 * (numerator % denominator)
  if twice < denominator then floor
  else if denominator < twice then floor + 1
  else floor + floor % 2

/-- `n * 2 ^ k`, or `n` itself for a negative `k`: a power of two with a
negative exponent is put on the other side of a quotient instead. -/
def timesPowerOfTwo (n : Nat) (k : Int) : Nat :=
  n <<< k.toNat

/-- The exponent `k` with `2 ^ k ≤ numerator / denominator < 2 ^ (k + 1)`, for
positive operands: the bit lengths leave two candidates and one comparison
decides between them. -/
def quotientExponent (numerator denominator : Nat) : Int :=
  let k : Int := (numerator.log2 : Int) - denominator.log2
  if timesPowerOfTwo denominator k ≤ timesPowerOfTwo numerator (-k) then k else k - 1

namespace Binary

/-! ## 2. Rounding -/

/-- The number `significand * 2 ^ exponent` for a significand of at most
`2 ^ precision`, or infinity when it passes the format's range. -/
def pack (format : BinaryFormat) (negative : Bool) (significand : Nat) (exponent : Int) :
    Binary :=
  let carries := significand = pow2 format.precision
  let significand := if carries then pow2 (format.precision - 1) else significand
  let exponent := if carries then exponent + 1 else exponent
  if format.maxExponent < exponent then .infinity negative
  else .finite negative significand exponent

/-- The number of the format nearest to `numerator / denominator`. -/
def roundQuotient (format : BinaryFormat) (negative : Bool) (numerator denominator : Nat) :
    Binary :=
  if numerator = 0 then zero format negative
  else
    let exponent :=
      max (quotientExponent numerator denominator - (format.precision - 1 : Nat))
        format.minExponent
    pack format negative
      (nearestEven (timesPowerOfTwo numerator (-exponent))
        (timesPowerOfTwo denominator exponent))
      exponent

/-- The number of the format nearest to `significand * 2 ^ exponent`. -/
def roundScaled (format : BinaryFormat) (negative : Bool) (significand : Nat)
    (exponent : Int) : Binary :=
  roundQuotient format negative (timesPowerOfTwo significand exponent)
    (timesPowerOfTwo 1 (-exponent))

/-- The number of the format nearest to a whole number. -/
def ofNat (format : BinaryFormat) (negative : Bool) (n : Nat) : Binary :=
  roundQuotient format negative n 1

/-- A number rounded to another format. -/
def convert (format : BinaryFormat) : Binary → Binary
  | .nan => .nan
  | .infinity negative => .infinity negative
  | .finite negative significand exponent => roundScaled format negative significand exponent

/-- Zero rounds to zero and keeps its sign. -/
@[simp]
theorem roundQuotient_zero (format : BinaryFormat) (negative : Bool) (denominator : Nat) :
    roundQuotient format negative 0 denominator = zero format negative := by
  simp [roundQuotient]

theorem ofNat_zero (format : BinaryFormat) (negative : Bool) :
    ofNat format negative 0 = zero format negative :=
  roundQuotient_zero format negative 1

end Binary

end InputScript
