/-
Writing a number with its shortest digits.

A layout decides what the digits leave open: between which exponents the point
is placed by position, how an exponent is marked, and which of two equally
short and equally near decimals is written. There is always a digit on both
sides of a positional point.
-/
import InputScript.Decimal.Shortest

set_option autoImplicit false

namespace InputScript

/-- The decisions of one way of writing numbers. -/
structure DecimalLayout where
  /-- The least exponent of the leading digit that is written by position. -/
  lowest : Int
  /-- The greatest one. -/
  highest : Int
  /-- Whether an exponent that is not negative carries a plus sign. -/
  plus : Bool
  /-- Which of two equally near decimals is written. -/
  tie : TieRule

namespace DecimalLayout

/-- Digits with the point behind the one of exponent zero. -/
def positional (digits : List Char) (leading : Int) : List Char :=
  if leading < 0 then
    ['0', '.'] ++ List.replicate (-leading - 1).toNat '0' ++ digits
  else
    let whole := leading.toNat + 1
    if digits.length ≤ whole then
      digits ++ List.replicate (whole - digits.length) '0' ++ ['.', '0']
    else
      digits.take whole ++ '.' :: digits.drop whole

/-- Digits with the point behind the first one, which is left out when it is
the only digit, and an exponent. -/
def scientific (plus : Bool) (digits : List Char) (leading : Int) : List Char :=
  let point := if digits.length ≤ 1 then [] else ['.']
  let sign := if leading < 0 then ['-'] else if plus then ['+'] else []
  digits.take 1 ++ point ++ digits.drop 1 ++ 'e' :: sign ++ Nat.toDigits 10 leading.natAbs

/-- A decimal that is not zero, written out. -/
def write (layout : DecimalLayout) (decimal : Decimal) : List Char :=
  let digits := Nat.toDigits 10 decimal.digits
  let leading := decimal.exponent + (digits.length - 1 : Nat)
  if layout.lowest ≤ leading ∧ leading ≤ layout.highest then positional digits leading
  else scientific layout.plus digits leading

/-- A finite number, written with the digits of its shortest decimal. -/
def writeFinite (layout : DecimalLayout) (format : BinaryFormat) (negative : Bool)
    (significand : Nat) (exponent : Int) : List Char :=
  let sign := if negative then ['-'] else []
  if significand = 0 then sign ++ ['0', '.', '0']
  else sign ++ layout.write (.shortest format layout.tie significand exponent)

/-- Numbers outside of JSON: the point is placed by position from four places
below it to sixteen above, and exponents have no plus sign. -/
def plain : DecimalLayout where
  lowest := -4
  highest := 15
  plus := false
  tie := .away

end DecimalLayout

end InputScript
