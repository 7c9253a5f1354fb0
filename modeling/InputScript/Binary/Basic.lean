/-
Binary floating-point numbers as exact values.

A number is a sign, a whole significand and a power of two, so its value is a
rational that proofs and the kernel can compute with; infinities and the one
NaN stand beside the finite numbers. A format says which finite numbers exist
and how they are laid out in a word. Finite numbers are kept in one canonical
form per format: the significand fills the precision unless the exponent is
already the least, so equal numbers of one sign are equal values.
-/
import InputScript.Binary.Powers

set_option autoImplicit false

namespace InputScript

/-! ## 1. Formats -/

/-- A binary interchange format: significands have `precision` bits, and a unit
in the last place is worth between `2 ^ minExponent` and `2 ^ maxExponent`. -/
structure BinaryFormat where
  precision : Nat
  exponentBits : Nat
  minExponent : Int
  maxExponent : Int
deriving DecidableEq, Repr

/-- Double precision. -/
def binary64 : BinaryFormat := ⟨53, 11, -1074, 971⟩

/-- Single precision. -/
def binary32 : BinaryFormat := ⟨24, 8, -149, 104⟩

/-! ## 2. Numbers -/

/-- A floating-point number. The finite one has the value
`significand * 2 ^ exponent`, negated when `negative`. -/
inductive Binary where
  | nan
  | infinity (negative : Bool)
  | finite (negative : Bool) (significand : Nat) (exponent : Int)
deriving DecidableEq, Repr

namespace Binary

/-- The zero of the given sign. -/
def zero (format : BinaryFormat) (negative : Bool) : Binary :=
  .finite negative 0 format.minExponent

/-- Whether the number is neither infinite nor a NaN. -/
def isFinite : Binary → Bool
  | .finite .. => true
  | _ => false

/-- The number with the other sign. -/
def negate : Binary → Binary
  | .nan => .nan
  | .infinity negative => .infinity !negative
  | .finite negative significand exponent => .finite (!negative) significand exponent

/-- The magnitude of the number, with its sign taken off (`abs`). -/
def withoutSign : Binary → Binary
  | .nan => .nan
  | .infinity _ => .infinity false
  | .finite _ significand exponent => .finite false significand exponent

/-- The number with positive zero in place of negative zero, which is what
adding positive zero comes to. -/
def withoutNegativeZero : Binary → Binary
  | .finite true 0 exponent => .finite false 0 exponent
  | x => x

/-- The one form in which a format's operations give a finite number: the
significand fits the precision, and it fills it unless the exponent is the
least one. -/
def Canonical (format : BinaryFormat) : Binary → Prop
  | .finite _ significand exponent =>
    significand < pow2 format.precision ∧ exponent ≤ format.maxExponent ∧
      (format.minExponent = exponent ∨
        format.minExponent < exponent ∧ pow2 (format.precision - 1) ≤ significand)
  | _ => True

/-! ## 3. Words -/

/-- The width of the stored significand, whose leading bit is implied. -/
def fractionBits (format : BinaryFormat) : Nat := format.precision - 1

/-- The word that stores a canonical number: sign, exponent field, fraction. -/
def toBits (format : BinaryFormat) (x : Binary) : Nat :=
  let fraction := fractionBits format
  let special := (pow2 format.exponentBits - 1) * pow2 fraction
  let sign (negative : Bool) : Nat :=
    if negative then pow2 (fraction + format.exponentBits) else 0
  match x with
  | .nan => special + pow2 (fraction - 1)
  | .infinity negative => sign negative + special
  | .finite negative significand exponent =>
    -- The implied leading bit of a normal number carries into the exponent
    -- field, which makes the field one more than the distance below.
    sign negative + (exponent - format.minExponent).toNat * pow2 fraction + significand

/-- The number a word stores. -/
def ofBits (format : BinaryFormat) (word : Nat) : Binary :=
  let fraction := fractionBits format
  let negative := word / pow2 (fraction + format.exponentBits) % 2 == 1
  let field := word / pow2 fraction % pow2 format.exponentBits
  let rest := word % pow2 fraction
  if field = pow2 format.exponentBits - 1 then
    if rest = 0 then .infinity negative else .nan
  else if field = 0 then
    .finite negative rest format.minExponent
  else
    .finite negative (pow2 fraction + rest) (format.minExponent + (field - 1 : Nat))

end Binary

end InputScript
