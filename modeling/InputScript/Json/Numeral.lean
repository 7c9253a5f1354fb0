/-
Reading JSON numbers.

A number without a point, an exponent or more digits than a 64-bit word holds
is kept as it is. Any other number becomes a double-precision one from its
leading digits: as many as fit a word are taken as a whole number, the places
of the digits left out go into a power of ten, and the two are multiplied or
divided. That takes up to three roundings, so the result can differ in its last
bit from the nearest number; a result that overflows is not a number at all.
-/
import InputScript.Binary.Arithmetic
import InputScript.Json.Value

set_option autoImplicit false

namespace InputScript.Json

/-! ## 1. The digits that count -/

/-- Appends digits to a significand for as long as the result fits a 64-bit
word, and gives the digits that no longer do. -/
def absorb (significand : Nat) : List Char → Nat × List Char
  | [] => (significand, [])
  | digit :: rest =>
    let next := 10 * significand + (digit.toNat - '0'.toNat)
    if next < UInt64.size then absorb next rest else (significand, digit :: rest)

/-! ## 2. Powers of ten -/

/-- The highest power of ten that double precision holds. -/
def maxPowerOfTen : Nat := 308

/-- A power of ten, rounded. -/
def powerOfTen (k : Nat) : Binary := .ofNat binary64 false (pow10 k)

/-- A number times a power of ten, unless that overflows. A power too small to
be divided by at once is divided by in steps; two steps already bring every
word down to zero, so three rounds decide. -/
def scaleByTens : Nat → Binary → Int → Option Binary
  | 0, x, _ => some x
  | rounds + 1, x, exponent =>
    if exponent.natAbs ≤ maxPowerOfTen then
      if 0 ≤ exponent then
        let product := x.multiply binary64 (powerOfTen exponent.natAbs)
        if product.isFinite then some product else none
      else
        some (x.divide binary64 (powerOfTen exponent.natAbs))
    else if x = .zero binary64 false then some x
    else if 0 ≤ exponent then none
    else
      scaleByTens rounds (x.divide binary64 (powerOfTen maxPowerOfTen))
        (exponent + maxPowerOfTen)

/-- The number `± significand * 10 ^ exponent`, unless it overflows. -/
def decimalOf (negative : Bool) (significand : Nat) (exponent : Int) : Option Number := do
  let magnitude ← scaleByTens 3 (.ofNat binary64 false significand) exponent
  return .decimal (if negative then magnitude.negate else magnitude)

/-- A whole number that a 64-bit word holds. The negative zero and negative
numbers below the signed range have only a double-precision form. -/
def wholeOf (negative : Bool) (significand : Nat) : Number :=
  if !negative then .whole significand
  else if 0 < significand ∧ significand ≤ pow2 63 then .whole (-significand)
  else .decimal (.ofNat binary64 true significand)

/-! ## 3. The grammar -/

/-- Reads a run of digits, which must not be empty. -/
def readDigits (text : List Char) : Option (List Char × List Char) :=
  let digits := text.takeWhile Char.isDigit
  if digits.isEmpty then none else some (digits, text.dropWhile Char.isDigit)

/-- Reads a fraction, a point with digits behind it, if there is a point. -/
def readFraction : List Char → Option (Option (List Char) × List Char)
  | '.' :: rest => (readDigits rest).map fun (digits, rest) => (some digits, rest)
  | rest => some (none, rest)

/-- Reads the digits of an exponent with an optional sign. -/
def readExponentValue (text : List Char) : Option (Int × List Char) :=
  let (negative, text) : Bool × List Char :=
    match text with
    | '+' :: rest => (false, rest)
    | '-' :: rest => (true, rest)
    | rest => (false, rest)
  (readDigits text).map fun (digits, rest) =>
    let value : Int := Nat.ofDigitChars 10 digits 0
    (if negative then -value else value, rest)

/-- Reads an exponent, if there is one. -/
def readExponent : List Char → Option (Option Int × List Char)
  | 'e' :: rest | 'E' :: rest =>
    (readExponentValue rest).map fun (value, rest) => (some value, rest)
  | rest => some (none, rest)

/-- Reads the digits of a number behind its sign. A leading zero stands alone. -/
def readMagnitude (negative : Bool) (text : List Char) : Option (Number × List Char) := do
  let (whole, rest) ← readDigits text
  if whole.head? = some '0' ∧ 1 < whole.length then none
  else
    let (fraction, rest) ← readFraction rest
    let (exponent, rest) ← readExponent rest
    let (significand, cut) := absorb 0 whole
    if fraction.isNone ∧ exponent.isNone ∧ cut.isEmpty then
      return (wholeOf negative significand, rest)
    else
      let digits := fraction.getD []
      let (significand, cutDigits) := absorb significand digits
      let places : Int := (digits.length - cutDigits.length : Nat)
      let number ← decimalOf negative significand (cut.length - places + exponent.getD 0)
      return (number, rest)

/-- Reads a number. -/
def readNumber : List Char → Option (Number × List Char)
  | '-' :: rest => readMagnitude true rest
  | text => readMagnitude false text

end InputScript.Json
