/-
What a written number says.

The parts of a number have a value, whatever the layout, and it is the value of the
decimal that was written: zeros that fill up to the point and the place of the point
itself make no difference. The first digit of a decimal that is not zero is no zero
either, so no number is written with a zero that could be left out in front.
-/
import InputScript.Proofs.Binary.Rounding
import InputScript.Proofs.Decimal.Numeral

set_option autoImplicit false

namespace InputScript

/-! ## 1. Values of numerals -/

/-- The value of an exponent. -/
def ExponentPart.value (part : ExponentPart) : Int :=
  if part.sign = .minus then -(Nat.ofDigitChars 10 part.digits 0 : Nat)
  else (Nat.ofDigitChars 10 part.digits 0 : Nat)

namespace Numeral

/-- The digits of a number, with the point left out. -/
def digits (numeral : Numeral) : List Char :=
  numeral.whole ++ numeral.fraction.getD []

/-- The exponent of the last of these digits. -/
def scale (numeral : Numeral) : Int :=
  numeral.exponent.elim 0 ExponentPart.value - (numeral.fraction.getD []).length

/-- The number that is written, without its sign. -/
def magnitude (numeral : Numeral) : ℚ :=
  (Nat.ofDigitChars 10 numeral.digits 0 : Nat) * 10 ^ numeral.scale

/-- A number without a superfluous zero in front. -/
structure Standard (numeral : Numeral) : Prop extends numeral.Digital where
  leading : numeral.whole.head? = some '0' → numeral.whole.length = 1

/-! ## 2. Leading digits -/

/-- The digits of a number start with a zero for zero only. -/
theorem head?_toDigits_ne_zero {n : Nat} (h : 0 < n) : (Nat.toDigits 10 n).head? ≠ some '0' := by
  induction n using Nat.strongRecOn with
  | ind n ih =>
    rw [Nat.toDigits_eq_if (by decide)]
    split
    next hlt =>
      have hdigits : ∀ digit < 10, 0 < digit → Nat.digitChar digit ≠ '0' := by decide
      simpa using hdigits n hlt h
    -- the first digit is that of the tenth part, which is not zero either
    next hge =>
      rw [List.head?_append_of_ne_nil _ Nat.toDigits_ne_nil]
      exact ih (n / 10) (by omega) (by omega)

/-- The digits of a number have no superfluous zero. -/
theorem standard_toDigits (negative : Bool) (n : Nat) :
    (Numeral.mk negative (Nat.toDigits 10 n) none none).Standard where
  whole := allDigits_toDigits n
  fraction := by rintro _ ⟨⟩
  exponent := by rintro _ ⟨⟩
  leading := by
    intro hzero
    rcases Nat.eq_zero_or_pos n with rfl | hpos
    · rfl
    · exact absurd hzero (head?_toDigits_ne_zero hpos)

end Numeral

namespace DecimalLayout

open Numeral

variable {negative : Bool} {decimal : Decimal} {leading : Int}

/-! ## 3. The written decimal -/

/-- The exponent of the first digit of a decimal. -/
def leadingExponent (decimal : Decimal) : Int :=
  decimal.exponent + ((Nat.toDigits 10 decimal.digits).length - 1 : Nat)

/-- A decimal is written by position up to the highest exponent, or with one. -/
theorem parts_cases (layout : DecimalLayout) (negative : Bool) (decimal : Decimal) :
    (leadingExponent decimal ≤ layout.highest ∧ layout.parts negative decimal =
      positionalParts negative (Nat.toDigits 10 decimal.digits) (leadingExponent decimal)) ∨
    layout.parts negative decimal =
      scientificParts layout.plus negative (Nat.toDigits 10 decimal.digits)
        (leadingExponent decimal) := by
  by_cases h : layout.lowest ≤ leadingExponent decimal ∧ leadingExponent decimal ≤ layout.highest
  · exact .inl ⟨h.2, if_pos h⟩
  · exact .inr (if_neg h)

theorem length_toDigits_pos (n : Nat) : 0 < (Nat.toDigits 10 n).length :=
  List.length_pos_iff.2 Nat.toDigits_ne_nil

/-- Zeros behind the digits of a decimal count as its exponent. -/
theorem magnitude_eq {numeral : Numeral} (zeros : Nat)
    (hdigits : Nat.ofDigitChars 10 numeral.digits 0 = 10 ^ zeros * decimal.digits)
    (hscale : numeral.scale + zeros = decimal.exponent) :
    numeral.magnitude = decimal.digits * 10 ^ decimal.exponent := by
  rw [magnitude, hdigits, ← hscale, zpow_add₀ (by norm_num), zpow_natCast]
  push_cast
  ring

/-- Positional zeros and the point keep the value. -/
theorem magnitude_positionalParts (negative : Bool) (decimal : Decimal) :
    (positionalParts negative (Nat.toDigits 10 decimal.digits) (leadingExponent decimal)).magnitude
      = decimal.digits * 10 ^ decimal.exponent := by
  have hlength := length_toDigits_pos decimal.digits
  have hvalue := Nat.ofDigitChars_ten_toDigits (n := decimal.digits)
  -- from here on only the digits, their value and the place of the point count
  generalize hleading : leadingExponent decimal = leading
  rw [leadingExponent] at hleading
  generalize Nat.toDigits 10 decimal.digits = digits at *
  unfold positionalParts
  dsimp only
  split
  · apply magnitude_eq 0
    · simp [Numeral.digits, Nat.ofDigitChars_cons, Nat.ofDigitChars_append, hvalue]
    · simp only [scale, Option.elim_none, Option.getD_some, List.length_append,
        List.length_replicate]
      omega
  · split
    -- zeros fill up to the point, and each of them is a factor of ten
    next hshort =>
      apply magnitude_eq (leading.toNat + 1 - digits.length + 1)
      · simp [Numeral.digits, Nat.ofDigitChars_cons, Nat.ofDigitChars_append, hvalue, pow_succ]
        ring
      · simp only [scale, Option.elim_none, Option.getD_some, List.length_singleton]
        omega
    next hlong =>
      apply magnitude_eq 0
      · simp [Numeral.digits, hvalue]
      · simp only [scale, Option.elim_none, Option.getD_some, List.length_drop]
        omega

/-- So does an exponent behind the first digit. -/
theorem magnitude_scientificParts (plus negative : Bool) (decimal : Decimal) :
    (scientificParts plus negative (Nat.toDigits 10 decimal.digits)
      (leadingExponent decimal)).magnitude = decimal.digits * 10 ^ decimal.exponent := by
  have hlength := length_toDigits_pos decimal.digits
  have hvalue := Nat.ofDigitChars_ten_toDigits (n := decimal.digits)
  generalize hleading : leadingExponent decimal = leading
  rw [leadingExponent] at hleading
  generalize Nat.toDigits 10 decimal.digits = digits at *
  -- a single digit has no fraction, which comes to an empty one
  have hfraction : (if digits.length ≤ 1 then none else some (digits.drop 1)).getD [] =
      digits.drop 1 := by
    split
    next hshort =>
      rw [List.drop_eq_nil_of_le hshort]
      rfl
    next => rfl
  have hexponent : (ExponentPart.mk false
      (if leading < 0 then .minus else if plus then .plus else .unsigned)
      (Nat.toDigits 10 leading.natAbs)).value = leading := by
    simp only [ExponentPart.value, Nat.ofDigitChars_ten_toDigits]
    by_cases hnegative : leading < 0
    · rw [if_pos hnegative, if_pos rfl]
      omega
    · rw [if_neg hnegative, if_neg (by cases plus <;> simp)]
      omega
  apply magnitude_eq 0
  · simp only [scientificParts, Numeral.digits, hfraction, List.take_append_drop, hvalue, pow_zero,
      one_mul]
  · simp only [scientificParts, scale, hfraction, Option.elim_some, hexponent, List.length_drop]
    omega

/-- The parts of a decimal that is written out have its value. -/
theorem magnitude_parts (layout : DecimalLayout) (negative : Bool) (decimal : Decimal) :
    (layout.parts negative decimal).magnitude = decimal.digits * 10 ^ decimal.exponent := by
  rcases layout.parts_cases negative decimal with ⟨-, hparts⟩ | hparts
  · rw [hparts]
    exact magnitude_positionalParts negative decimal
  · rw [hparts]
    exact magnitude_scientificParts layout.plus negative decimal

/-! ## 4. The digits in front of the point -/

/-- In front of the point there is a zero alone, or the digits of a decimal from the first
one on. -/
theorem whole_parts (layout : DecimalLayout) (negative : Bool) (decimal : Decimal) :
    (layout.parts negative decimal).whole = ['0'] ∨
      (layout.parts negative decimal).whole.head? = (Nat.toDigits 10 decimal.digits).head? ∧
        ((layout.parts negative decimal).whole.length = 1 ∨
          ((layout.parts negative decimal).whole.length : Int) ≤ layout.highest + 1) := by
  have hlength := length_toDigits_pos decimal.digits
  have hne := List.length_pos_iff.1 hlength
  rcases layout.parts_cases negative decimal with ⟨hhighest, hparts⟩ | hparts
  · rw [hparts]
    generalize leadingExponent decimal = leading at *
    generalize Nat.toDigits 10 decimal.digits = digits at *
    unfold positionalParts
    dsimp only
    split
    · exact .inl rfl
    · right
      split
      next hshort =>
        -- zeros fill up to the point, so the length is that of the leading exponent
        refine ⟨List.head?_append_of_ne_nil _ hne, .inr ?_⟩
        simp only [List.length_append, List.length_replicate]
        omega
      next hlong =>
        refine ⟨by rw [List.head?_take, if_neg (Nat.succ_ne_zero _)], .inr ?_⟩
        simp only [List.length_take]
        omega
  · rw [hparts]
    refine .inr ⟨by rw [scientificParts, List.head?_take, if_neg Nat.one_ne_zero], .inl ?_⟩
    simp only [scientificParts, List.length_take]
    omega

/-- A decimal that is not zero is written without a superfluous zero. -/
theorem standard_parts (layout : DecimalLayout) (negative : Bool) (hpos : 0 < decimal.digits) :
    (layout.parts negative decimal).Standard where
  toDigital := digital_parts layout negative decimal
  leading := by
    intro hzero
    rcases layout.whole_parts negative decimal with hwhole | ⟨hhead, -⟩
    · rw [hwhole]
      rfl
    · rw [hhead] at hzero
      exact absurd hzero (head?_toDigits_ne_zero hpos)

end DecimalLayout

end InputScript
