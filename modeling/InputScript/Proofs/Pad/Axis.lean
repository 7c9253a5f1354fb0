/-
Axes by the numbers they are written with.

A written number is rounded, divided and rounded again (`axis`). Nothing is lost at the
lower end: the axis of a number other than zero is not zero. At the upper end there are two
limits, since an axis is kept in double and written in single precision. Both limits are
whole numbers, and what is written is compared with them as it stands: each of the roundings
is passed by the threshold that belongs to it.
-/
import InputScript.Proofs.Binary.Threshold
import InputScript.Proofs.Pad.Stick

set_option autoImplicit false

namespace InputScript.Binary

/-! ## 1. Zeros -/

/-- The number is zero, of either sign. -/
def IsZero (x : Binary) : Prop :=
  ∃ negative exponent, x = .finite negative 0 exponent

/-- What reaches a positive bound is not zero. -/
theorem not_isZero_of_reaches {x : Binary} {bound : ℚ} (h : x.Reaches bound) (hbound : 0 < bound) :
    ¬x.IsZero := by
  rintro ⟨negative, exponent, rfl⟩
  rw [Reaches, Nat.cast_zero, zero_mul] at h
  exact absurd h (not_le.2 hbound)

/-- The only number that changes is the negative zero. -/
theorem withoutNegativeZero_cases (x : Binary) :
    x.withoutNegativeZero = x ∨
      ∃ exponent, x = .finite true 0 exponent ∧ x.withoutNegativeZero = .finite false 0 exponent := by
  unfold withoutNegativeZero
  split
  next exponent => exact .inr ⟨exponent, rfl, rfl⟩
  next => exact .inl rfl

/-- And it is never left. -/
theorem withoutNegativeZero_ne (x : Binary) (exponent : Int) :
    x.withoutNegativeZero ≠ .finite true 0 exponent := by
  unfold withoutNegativeZero
  split
  next => simp
  next hne => exact hne exponent

/-- Bounds do not see the sign of a zero. -/
theorem reaches_withoutNegativeZero {x : Binary} {bound : ℚ} :
    x.withoutNegativeZero.Reaches bound ↔ x.Reaches bound := by
  rcases x.withoutNegativeZero_cases with heq | ⟨exponent, rfl, heq⟩
  · rw [heq]
  · rw [heq]
    rfl

end InputScript.Binary

namespace InputScript.Pad

open InputScript.Binary InputScript.Script

/-! ## 2. From the number to the axis -/

/-- An axis is never a negative zero. -/
theorem axis_ne_negative_zero (raw : Binary) (exponent : Int) :
    axis raw ≠ .finite true 0 exponent :=
  withoutNegativeZero_ne _ exponent

/-- The axis of a written number other than zero is not much smaller than the unit of the
scale. -/
theorem reaches_axis (negative : Bool) {n : Nat} (hn : n ≠ 0) :
    (axis (.ofNat binary64 negative n)).Reaches (2 ^ (-9 : Int)) := by
  have hone : (2 : ℚ) ^ (0 : Int) ≤ n / (1 : Nat) := by
    rw [zpow_zero, Nat.cast_one, div_one]
    exact_mod_cast Nat.pos_of_ne_zero hn
  have hraw : (ofNat binary64 negative n).Reaches (2 ^ (0 : Int)) :=
    reaches_roundQuotient_of_le proper_binary64 negative n Nat.one_pos hone (by decide)
      (by decide)
  rcases axis_cases negative n with ⟨-, heq⟩ |
    ⟨significand, exponent, numerator, denominator, hfinite, hpos, hquotient, heq⟩
  · rw [heq]
    trivial
  · rw [hfinite] at hraw
    -- the scale is below the ninth power of two
    have hdivided : (2 : ℚ) ^ (-9 : Int) ≤ numerator / denominator := by
      rw [hquotient, le_div_iff₀ (by norm_num)]
      exact le_trans (by norm_num) hraw
    rw [heq]
    exact reaches_withoutNegativeZero.2 (reaches_roundQuotient_of_le proper_binary64 negative
      numerator hpos hdivided (by decide) (by decide))

/-- An axis is zero exactly if zero is written for it. -/
theorem isZero_axis_iff (negative : Bool) (n : Nat) :
    (axis (.ofNat binary64 negative n)).IsZero ↔ n = 0 := by
  constructor
  · contrapose!
    intro hn
    exact not_isZero_of_reaches (reaches_axis negative hn) (by norm_num)
  · rintro rfl
    refine ⟨false, binary64.minExponent, ?_⟩
    cases negative <;> decide +kernel

/-- The forms of axes: one that is finite and not zero fills the precision. -/
inductive AxisForm : Binary → Prop
  | infinite (negative : Bool) : AxisForm (.infinity negative)
  | zero (exponent : Int) : AxisForm (.finite false 0 exponent)
  | full (negative : Bool) {significand : Nat} (exponent : Int) (hlow : 2 ^ 52 ≤ significand)
    (hhigh : significand < 2 ^ 53) : AxisForm (.finite negative significand exponent)

theorem AxisForm.ne_nan {x : Binary} (h : AxisForm x) : x ≠ .nan := by
  rintro rfl
  cases h

/-- A finite axis with a sign is not zero. -/
theorem AxisForm.ne_zero {negative : Bool} {significand : Nat} {exponent : Int}
    (h : AxisForm (.finite negative significand exponent)) (hnegative : negative = true) :
    significand ≠ 0 := by
  cases h with
  | zero => cases hnegative
  | full _ _ hlow => omega

/-- The axis of a written number has one of these forms. -/
theorem axisForm_axis (negative : Bool) (n : Nat) :
    AxisForm (axis (.ofNat binary64 negative n)) := by
  rcases axisInRange_axis negative n with ⟨sign, hinfinite⟩ | hbounded
  · exact hinfinite ▸ .infinite sign
  rcases Nat.eq_zero_or_pos n with hzero | hpos
  · obtain ⟨sign, exponent, heq⟩ := (isZero_axis_iff negative n).2 hzero
    have hsign : sign = false := by
      refine Bool.eq_false_iff.2 fun hnegative => ?_
      exact axis_ne_negative_zero (.ofNat binary64 negative n) exponent (hnegative ▸ heq)
    rw [heq, hsign]
    exact .zero exponent
  · -- the axis is canonical and not small, so it fills the precision
    have hreaches := reaches_axis negative hpos.ne'
    have hcanonical := hbounded.canonical
    generalize axis (.ofNat binary64 negative n) = x at hbounded hreaches hcanonical
    cases x with
    | nan => exact absurd hreaches id
    | infinity sign => exact absurd hbounded.atMost id
    | finite sign significand exponent =>
      obtain ⟨hsignificand, -, hfills⟩ := hcanonical
      refine .full sign exponent ?_ hsignificand
      rcases hfills with hleast | ⟨-, hfills⟩
      · -- a number in the least unit is far below the unit of the scale
        subst hleast
        have hcast : (significand : ℚ) ≤ 2 ^ (53 : Int) := by exact_mod_cast hsignificand.le
        have hvalue : (significand : ℚ) * 2 ^ (binary64.minExponent) ≤ 2 ^ (-1021 : Int) := by
          calc (significand : ℚ) * 2 ^ (binary64.minExponent)
              ≤ 2 ^ (53 : Int) * 2 ^ (binary64.minExponent) :=
                mul_le_mul_of_nonneg_right hcast (by positivity)
            _ = 2 ^ (-1021 : Int) := (zpow_add₀ two_ne_zero _ _).symm
        have hpower := hreaches.trans hvalue
        rw [zpow_le_zpow_iff_right₀ one_lt_two] at hpower
        exact absurd hpower (by decide)
      · exact hfills

/-! ## 3. The two limits -/

/-- The least written number that is infinite in double precision. -/
def doubleLimit : Nat := 2 ^ 1024 - 2 ^ 970

/-- The least written number whose axis is infinite in single precision. -/
def singleLimit : Nat := 300 * (2 ^ 128 - 2 ^ 103) - 2 ^ 83

/-- The limit of double precision is half a step above the greatest number. -/
theorem doubleLimit_eq :
    ((2 * pow2 binary64.precision - 1 : Nat) : ℚ) * 2 ^ (binary64.maxExponent - 1) =
      doubleLimit := by
  have hlimit : (2 * pow2 binary64.precision - 1) * pow2 970 = doubleLimit := by decide +kernel
  -- the exponent is not negative, so the limit is a whole number
  have hplace : binary64.maxExponent - 1 = (970 : Nat) := rfl
  rw [hplace, zpow_natCast, ← cast_pow2, ← Nat.cast_mul, hlimit]

/-- An axis is finite exactly for numbers below the limit of double precision. -/
theorem isFinite_axis_eq_false_iff (negative : Bool) (n : Nat) :
    (axis (.ofNat binary64 negative n)).isFinite = false ↔ doubleLimit ≤ n := by
  have hraw : (ofNat binary64 negative n).isFinite = false ↔ doubleLimit ≤ n := by
    rw [ofNat, isFinite_roundQuotient_eq_false_iff proper_binary64 negative n Nat.one_pos,
      doubleLimit_eq, Nat.cast_one, div_one, Nat.cast_le]
  rw [← hraw]
  rcases axis_cases negative n with ⟨hinfinite, heq⟩ | ⟨significand, exponent, _, _, hfinite, -⟩
  · rw [heq, hinfinite]
  · rw [(bounded_axis hfinite).atMost.isFinite, hfinite]
    rfl

/-- The place of the limit of single precision among the axes. -/
theorem evenPlace_axis : EvenPlace binary64 ((2 ^ 25 - 1) * 2 ^ 28) 75 := by
  constructor <;> decide +kernel

/-- The place of the written number that has this axis. -/
theorem evenPlace_written : EvenPlace binary64 (300 * (2 ^ 44 - 2 ^ 19)) 84 := by
  constructor <;> decide +kernel

/-- A written number reaches the place exactly from the limit on. -/
theorem reaches_written_iff (negative : Bool) (n : Nat) :
    (ofNat binary64 negative n).Reaches ((300 * (2 ^ 44 - 2 ^ 19) : Nat) * 2 ^ (84 : Int)) ↔
      singleLimit ≤ n := by
  have hlimit : (((2 * (300 * (2 ^ 44 - 2 ^ 19)) - 1 : Nat) : ℚ) * 2 ^ ((84 : Int) - 1)) =
      singleLimit := by
    have hnat : (2 * (300 * (2 ^ 44 - 2 ^ 19)) - 1) * pow2 83 = singleLimit := by decide +kernel
    have hplace : (84 : Int) - 1 = (83 : Nat) := rfl
    rw [hplace, zpow_natCast, ← cast_pow2, ← Nat.cast_mul, hnat]
  rw [ofNat, evenPlace_written.reaches_roundQuotient_iff proper_binary64 negative n Nat.one_pos,
    hlimit, Nat.cast_one, div_one, Nat.cast_le]

/-- An axis reaches the limit of single precision exactly if the written number reaches its
place: in between, the threshold of the second rounding lies so close below the place that no
written number is there after the first. -/
theorem reaches_divided_iff {negative : Bool} {significand numerator denominator : Nat}
    {exponent : Int} (hraw : (finite negative significand exponent).Canonical binary64)
    (hpos : 0 < denominator)
    (hquotient : (numerator : ℚ) / denominator = significand * 2 ^ exponent / 300) :
    (roundQuotient binary64 negative numerator denominator).Reaches
        (((2 ^ 25 - 1) * 2 ^ 28 : Nat) * 2 ^ (75 : Int)) ↔
      (finite negative significand exponent).Reaches
        ((300 * (2 ^ 44 - 2 ^ 19) : Nat) * 2 ^ (84 : Int)) := by
  have hthreshold : (finite negative significand exponent).Reaches
      ((2 * ((2 ^ 25 - 1) * 2 ^ 28) - 1 : Nat) * 2 ^ ((75 : Int) - 1) * 300) ↔
        (finite negative significand exponent).Reaches
          ((300 * (2 ^ 44 - 2 ^ 19) : Nat) * 2 ^ (84 : Int)) :=
    evenPlace_written.reaches_iff_of_canonical hraw (by norm_num) (by norm_num)
  rw [evenPlace_axis.reaches_roundQuotient_iff proper_binary64 negative numerator hpos, hquotient,
    le_div_iff₀ (by norm_num), ← hthreshold]
  rfl

/-- An axis is finite in single precision exactly for numbers below the limit of that. -/
theorem isFinite_convert_axis_eq_false_iff (negative : Bool) (n : Nat) :
    ((axis (.ofNat binary64 negative n)).convert binary32).isFinite = false ↔ singleLimit ≤ n := by
  have hlimit : ((2 ^ 25 - 1 : Nat) : ℚ) * 2 ^ (103 : Int) =
      ((2 ^ 25 - 1) * 2 ^ 28 : Nat) * 2 ^ (75 : Int) := by norm_num
  rw [← reaches_written_iff negative n,
    isFinite_convert_binary32_iff (axisInRange_axis negative n).ne_nan, hlimit]
  rcases axis_cases negative n with ⟨hinfinite, heq⟩ |
    ⟨significand, exponent, numerator, denominator, hfinite, hpos, hquotient, heq⟩
  · rw [heq, hinfinite]
    rfl
  · have hraw := canonical_ofNat proper_binary64 negative n
    rw [hfinite] at hraw
    rw [heq, reaches_withoutNegativeZero, hfinite]
    exact reaches_divided_iff hraw hpos hquotient

end InputScript.Pad
