/-
From where on a rounded quotient reaches a number.

A number of the format with an even significand is reached from half a place below it on,
since ties go to even. The powers of two behind the greatest numbers are no exception,
although nothing but infinity is there: so the same statement says which quotients
overflow, and where the result of one rounding overflows in the next.
-/
import InputScript.Proofs.Binary.Rounding

set_option autoImplicit false

namespace InputScript.Binary

variable {format : BinaryFormat}

/-! ## 1. Reaching a bound -/

/-- The magnitude of the number is at least the bound. Infinity reaches every bound. -/
def Reaches (bound : ℚ) : Binary → Prop
  | .nan => False
  | .infinity _ => True
  | .finite _ significand exponent => bound ≤ significand * 2 ^ exponent

theorem Reaches.mono {bound lower : ℚ} {x : Binary} (h : x.Reaches bound) (hle : lower ≤ bound) :
    x.Reaches lower := by
  cases x with
  | nan => exact h
  | infinity => trivial
  | finite => exact hle.trans h

/-- The power of two next to the greatest numbers of a format. -/
def overflowPower (format : BinaryFormat) : ℚ :=
  2 ^ (format.maxExponent + format.precision)

theorem pow2_mul_zpow (k : Nat) (exponent : Int) :
    ((pow2 k : Nat) : ℚ) * 2 ^ exponent = 2 ^ (exponent + k) := by
  rw [cast_pow2, ← zpow_natCast, ← zpow_add₀ two_ne_zero, add_comm]

/-- No finite number of a format reaches the power of two behind it. -/
theorem not_reaches_overflowPower {negative : Bool} {significand : Nat} {exponent : Int}
    (h : (finite negative significand exponent).Canonical format) :
    ¬(finite negative significand exponent).Reaches (overflowPower format) := by
  obtain ⟨hsignificand, hexponent, -⟩ := h
  refine not_le.2 ?_
  calc (significand : ℚ) * 2 ^ exponent < (pow2 format.precision : Nat) * 2 ^ exponent := by
        have hcast : (significand : ℚ) < (pow2 format.precision : Nat) := by
          exact_mod_cast hsignificand
        exact mul_lt_mul_of_pos_right hcast (by positivity)
    _ = 2 ^ (exponent + format.precision) := pow2_mul_zpow _ _
    _ ≤ overflowPower format := zpow_le_zpow_right₀ one_le_two (by omega)

/-- Packing keeps the value, or makes it infinite when it is behind the format. -/
theorem reaches_pack_iff (hformat : format.Proper) (negative : Bool) {quotient bound : ℚ}
    {significand : Nat} {exponent : Int} (h : Rounds format quotient significand exponent)
    (hbound : bound ≤ overflowPower format) :
    (pack format negative significand exponent).Reaches bound ↔
      bound ≤ significand * 2 ^ exponent := by
  have hprecision := hformat.precision_pos
  have hmin := hformat.minExponent_le
  rw [pack]
  by_cases hcarry : significand = pow2 format.precision
  · -- a significand that is carried is a power of two, and stays one in the next unit
    have hvalue : (significand : ℚ) * 2 ^ exponent = 2 ^ (exponent + format.precision) := by
      rw [hcarry]
      exact pow2_mul_zpow _ _
    have hcarried : ((pow2 (format.precision - 1) : Nat) : ℚ) * 2 ^ (exponent + 1) =
        significand * 2 ^ exponent := by
      rw [hvalue, pow2_mul_zpow]
      congr 1
      omega
    rw [if_pos hcarry, if_pos hcarry]
    split
    next hover =>
      have hbehind : overflowPower format ≤ significand * 2 ^ exponent :=
        hvalue ▸ zpow_le_zpow_right₀ one_le_two (by omega)
      exact iff_of_true trivial (hbound.trans hbehind)
    next => rw [Reaches, hcarried]
  · rw [if_neg hcarry, if_neg hcarry]
    split
    next hover =>
      -- a full significand behind the greatest exponent is behind the whole format
      have hfills : ((pow2 (format.precision - 1) : Nat) : ℚ) ≤ significand := by
        exact_mod_cast h.fills (hmin.trans_lt hover)
      have hbehind : overflowPower format ≤ significand * 2 ^ exponent := by
        calc overflowPower format
            ≤ 2 ^ (exponent + (format.precision - 1 : Nat)) :=
              zpow_le_zpow_right₀ one_le_two (by omega)
          _ = (pow2 (format.precision - 1) : Nat) * 2 ^ exponent := (pow2_mul_zpow _ _).symm
          _ ≤ significand * 2 ^ exponent := mul_le_mul_of_nonneg_right hfills (by positivity)
      exact iff_of_true trivial (hbound.trans hbehind)
    next => rfl

/-! ## 2. Thresholds -/

/-- The place of a number with an even significand whose neighbour below is one place away:
one that fills the precision without being the least to do so, or the power of two behind
those. -/
structure EvenPlace (format : BinaryFormat) (units : Nat) (exponent : Int) : Prop where
  even : units % 2 = 0
  fills : pow2 (format.precision - 1) < units
  le_full : units ≤ pow2 format.precision
  min_le : format.minExponent ≤ exponent
  le_max : exponent ≤ format.maxExponent

/-- Half a place below a number is no more than the number. -/
theorem halves_le (units : Nat) (place : Int) :
    ((2 * units - 1 : Nat) : ℚ) * 2 ^ (place - 1) ≤ units * 2 ^ place := by
  have hcast : ((2 * units - 1 : Nat) : ℚ) ≤ (2 * units : Nat) := by
    exact_mod_cast Nat.sub_le _ _
  calc ((2 * units - 1 : Nat) : ℚ) * 2 ^ (place - 1) ≤ (2 * units : Nat) * 2 ^ (place - 1) :=
        mul_le_mul_of_nonneg_right hcast (by positivity)
    _ = units * 2 ^ place := by
        rw [zpow_sub_one₀ two_ne_zero]
        push_cast
        ring

/-- Half a place above a number that does not fill its power of two is no more than that
power. -/
theorem halves_succ_le {units : Nat} (hunits : units < pow2 format.precision) (place : Int) :
    ((2 * units + 1 : Nat) : ℚ) * 2 ^ (place - 1) ≤ 2 ^ (place + format.precision) := by
  have hcast : ((2 * units + 1 : Nat) : ℚ) ≤ (pow2 (format.precision + 1) : Nat) := by
    rw [pow2_succ]
    exact_mod_cast (by omega : 2 * units + 1 ≤ 2 * pow2 format.precision)
  calc ((2 * units + 1 : Nat) : ℚ) * 2 ^ (place - 1)
      ≤ (pow2 (format.precision + 1) : Nat) * 2 ^ (place - 1) :=
        mul_le_mul_of_nonneg_right hcast (by positivity)
    _ = 2 ^ (place + format.precision) := by
        rw [pow2_mul_zpow]
        congr 1
        omega

namespace EvenPlace

variable {units : Nat} {place : Int}

/-- The number is at most the power of two that a full significand has. -/
theorem value_le (h : EvenPlace format units place) :
    (units : ℚ) * 2 ^ place ≤ 2 ^ (place + format.precision) := by
  rw [← pow2_mul_zpow]
  have hcast : (units : ℚ) ≤ (pow2 format.precision : Nat) := by exact_mod_cast h.le_full
  exact mul_le_mul_of_nonneg_right hcast (by positivity)

/-- Its place is one of the format, so it is at most the power of two behind the format. -/
theorem value_le_overflowPower (h : EvenPlace format units place) :
    (units : ℚ) * 2 ^ place ≤ overflowPower format :=
  h.value_le.trans (zpow_le_zpow_right₀ one_le_two (by have := h.le_max; omega))

/-- Half a place below the number is still above the power of two that it fills. -/
theorem lt_halves (hformat : format.Proper) (h : EvenPlace format units place) :
    (2 : ℚ) ^ (place + format.precision - 1) < ((2 * units - 1 : Nat) : ℚ) * 2 ^ (place - 1) := by
  have hprecision := hformat.precision_pos
  have hfull : pow2 format.precision = 2 * pow2 (format.precision - 1) := by
    rw [← pow2_succ]
    congr 1
    omega
  have hfills := h.fills
  have hcast : ((pow2 format.precision : Nat) : ℚ) < (2 * units - 1 : Nat) := by
    exact_mod_cast (by omega : pow2 format.precision < 2 * units - 1)
  calc (2 : ℚ) ^ (place + format.precision - 1)
      = (pow2 format.precision : Nat) * 2 ^ (place - 1) := by
        rw [pow2_mul_zpow]
        congr 1
        omega
    _ < (2 * units - 1 : Nat) * 2 ^ (place - 1) := mul_lt_mul_of_pos_right hcast (by positivity)

/-- What a quotient rounds to is at least the number exactly if the quotient is at least
half a place below it. The units of the two need not be the same: in a greater unit both
are true, and in a smaller one neither is. -/
theorem le_value_iff (hformat : format.Proper) (h : EvenPlace format units place) {quotient : ℚ}
    {significand : Nat} {exponent : Int} (hrounds : Rounds format quotient significand exponent) :
    (units : ℚ) * 2 ^ place ≤ significand * 2 ^ exponent ↔
      ((2 * units - 1 : Nat) : ℚ) * 2 ^ (place - 1) ≤ quotient := by
  have hprecision := hformat.precision_pos
  have hmin := h.min_le
  rcases lt_trichotomy exponent place with hsmaller | rfl | hgreater
  · -- in a smaller unit all that fits the precision is below half a place below the number
    have hfull : (significand : ℚ) ≤ (pow2 format.precision : Nat) := by
      exact_mod_cast hrounds.le_full
    have hvalue : (significand : ℚ) * 2 ^ exponent ≤ 2 ^ (place + format.precision - 1) := by
      calc (significand : ℚ) * 2 ^ exponent ≤ (pow2 format.precision : Nat) * 2 ^ exponent :=
            mul_le_mul_of_nonneg_right hfull (by positivity)
        _ = 2 ^ (exponent + format.precision) := pow2_mul_zpow _ _
        _ ≤ 2 ^ (place + format.precision - 1) := zpow_le_zpow_right₀ one_le_two (by omega)
    have hquotient : quotient ≤ 2 ^ (place + format.precision - 1) :=
      hrounds.below.le.trans (zpow_le_zpow_right₀ one_le_two (by omega))
    have hhalves := h.lt_halves hformat
    exact iff_of_false (not_le.2 (hvalue.trans_lt (hhalves.trans_le (halves_le units place))))
      (not_le.2 (hquotient.trans_lt hhalves))
  · -- in the unit of the number itself ties decide
    have hunits : 0 < units := (pow2_pos _).trans h.fills
    rw [← hrounds.even_le_iff units hunits h.even,
      mul_le_mul_iff_left₀ (by positivity : (0 : ℚ) < 2 ^ exponent), Nat.cast_le]
  · -- in a greater unit the least significand is above the number already
    have hfills : ((pow2 (format.precision - 1) : Nat) : ℚ) ≤ significand := by
      exact_mod_cast hrounds.fills (by omega)
    have hpower : (2 : ℚ) ^ (place + format.precision) ≤
        2 ^ (exponent + (format.precision - 1 : Nat)) :=
      zpow_le_zpow_right₀ one_le_two (by omega)
    refine iff_of_true ?_ ?_
    · calc (units : ℚ) * 2 ^ place ≤ 2 ^ (exponent + (format.precision - 1 : Nat)) :=
            h.value_le.trans hpower
        _ = (pow2 (format.precision - 1) : Nat) * 2 ^ exponent := (pow2_mul_zpow _ _).symm
        _ ≤ significand * 2 ^ exponent := mul_le_mul_of_nonneg_right hfills (by positivity)
    · exact (halves_le units place).trans (h.value_le.trans (hpower.trans (hrounds.reaches (by omega))))

/-- A rounded quotient reaches the number exactly from half a place below it on. -/
theorem reaches_roundQuotient_iff (hformat : format.Proper) (h : EvenPlace format units place)
    (negative : Bool) (n : Nat) {d : Nat} (hd : 0 < d) :
    (roundQuotient format negative n d).Reaches (units * 2 ^ place) ↔
      ((2 * units - 1 : Nat) : ℚ) * 2 ^ (place - 1) ≤ n / d := by
  rcases Nat.eq_zero_or_pos n with rfl | hn
  · have hunits : 0 < units := (pow2_pos _).trans h.fills
    have hpos : (0 : ℚ) < (units : ℚ) * 2 ^ place := by positivity
    have hhalves : (0 : ℚ) < ((2 * units - 1 : Nat) : ℚ) * 2 ^ (place - 1) :=
      lt_trans (by positivity) (h.lt_halves hformat)
    rw [roundQuotient_zero, zero, Reaches, Nat.cast_zero, zero_mul, zero_div]
    exact iff_of_false (not_le.2 hpos) (not_le.2 hhalves)
  · obtain ⟨significand, exponent, heq, hrounds⟩ := exists_rounds hformat negative hn hd
    rw [heq, reaches_pack_iff hformat negative hrounds h.value_le_overflowPower]
    exact h.le_value_iff hformat hrounds

/-- Counted in places, what is less than half a place from the number is rounded to its units. -/
theorem nearestEven_eq (h : EvenPlace format units place) {n d : Nat} (hd : 0 < d)
    (hlow : ((2 * units - 1 : Nat) : ℚ) * 2 ^ (place - 1) ≤ n / d)
    (hhigh : (n : ℚ) / d < ((2 * units + 1 : Nat) : ℚ) * 2 ^ (place - 1)) :
    nearestEven (timesPowerOfTwo n (-place)) (timesPowerOfTwo d place) = units := by
  have hpos : 0 < units := (pow2_pos _).trans h.fills
  have hdpos := timesPowerOfTwo_pos hd place
  apply Nat.le_antisymm
  · apply nearestEven_le_of_lt hdpos
    rw [← not_le, ← halves_le_iff hd, not_le]
    exact hhigh
  · rw [even_le_nearestEven_iff hdpos hpos h.even, ← halves_le_iff hd]
    exact hlow

/-- What is less than half a place from the number is rounded to it. -/
theorem roundQuotient_eq (hformat : format.Proper) (h : EvenPlace format units place)
    (hunits : units < pow2 format.precision) (negative : Bool) {n d : Nat} (hd : 0 < d)
    (hlow : ((2 * units - 1 : Nat) : ℚ) * 2 ^ (place - 1) ≤ n / d)
    (hhigh : (n : ℚ) / d < ((2 * units + 1 : Nat) : ℚ) * 2 ^ (place - 1)) :
    roundQuotient format negative n d = finite negative units place := by
  have hprecision := hformat.precision_pos
  have hmin := h.min_le
  have hreaches := (h.lt_halves hformat).trans_le hlow
  have hbelow := hhigh.trans_le (halves_succ_le hunits place)
  -- a quotient that is above a positive threshold is not zero
  have hn : 0 < n := by
    rcases Nat.eq_zero_or_pos n with rfl | hn
    · rw [Nat.cast_zero, zero_div] at hreaches
      exact absurd hreaches (not_lt.2 (by positivity))
    · exact hn
  have hplace : max (quotientExponent n d - (format.precision - 1 : Nat)) format.minExponent =
      place := by
    rw [quotientExponent_eq hn hd hreaches.le (by rwa [sub_add_cancel])]
    omega
  rw [roundQuotient, if_neg hn.ne']
  dsimp only
  rw [hplace, h.nearestEven_eq hd hlow hhigh, pack]
  simp only [hunits.ne, if_false]
  exact if_neg (not_lt.2 h.le_max)

/-- The numbers of a format leave out what is between two neighbours, so a bound there is as
good as the upper one. -/
theorem reaches_iff_of_canonical (h : EvenPlace format units place) {x : Binary}
    (hx : x.Canonical format) {bound : ℚ} (hlower : ((units - 1 : Nat) : ℚ) * 2 ^ place < bound)
    (hupper : bound ≤ units * 2 ^ place) :
    x.Reaches bound ↔ x.Reaches (units * 2 ^ place) := by
  refine ⟨fun hreaches => ?_, fun hreaches => hreaches.mono hupper⟩
  cases x with
  | nan => exact hreaches
  | infinity => trivial
  | finite negative significand exponent =>
    have hfills := h.fills
    have hbound : ((units - 1 : Nat) : ℚ) * 2 ^ place < significand * 2 ^ exponent :=
      hlower.trans_le hreaches
    rcases lt_or_ge exponent place with hsmaller | hgreater
    · -- in a smaller unit even a full significand stays below
      obtain ⟨hsignificand, -, -⟩ := hx
      have hcast : (significand : ℚ) ≤ (2 * (units - 1) : Nat) := by
        have hdouble : pow2 format.precision ≤ 2 * pow2 (format.precision - 1) := by
          rw [← pow2_succ]
          exact Nat.pow_le_pow_right (by decide) (by omega)
        exact_mod_cast (by omega : significand ≤ 2 * (units - 1))
      have hvalue : (significand : ℚ) * 2 ^ exponent ≤ (units - 1 : Nat) * 2 ^ place := by
        calc (significand : ℚ) * 2 ^ exponent
            ≤ (2 * (units - 1) : Nat) * 2 ^ (place - 1) := by
              have hpower : (2 : ℚ) ^ exponent ≤ 2 ^ (place - 1) :=
                zpow_le_zpow_right₀ one_le_two (by omega)
              exact mul_le_mul hcast hpower (by positivity) (by positivity)
          _ = (units - 1 : Nat) * 2 ^ place := by
              rw [zpow_sub_one₀ two_ne_zero, Nat.cast_mul, Nat.cast_ofNat]
              ring
      exact absurd hbound (not_lt.2 hvalue)
    · -- in the same unit or a greater one the number is a whole number of places
      have hwhole : (significand : ℚ) * 2 ^ exponent =
          (significand * 2 ^ (exponent - place).toNat : Nat) * 2 ^ place := by
        rw [Nat.cast_mul, Nat.cast_pow, Nat.cast_ofNat, mul_assoc, ← zpow_natCast,
          ← zpow_add₀ two_ne_zero]
        congr 2
        omega
      rw [Reaches]
      rw [hwhole] at hbound ⊢
      have hunit : (0 : ℚ) < 2 ^ place := by positivity
      rw [mul_lt_mul_iff_left₀ hunit, Nat.cast_lt] at hbound
      rw [mul_le_mul_iff_left₀ hunit, Nat.cast_le]
      omega

end EvenPlace

/-! ## 3. Overflow -/

/-- The greatest significand of a format is odd, so half a place behind it is overflow. -/
theorem isFinite_roundQuotient_eq_false_iff (hformat : format.Proper) (negative : Bool) (n : Nat)
    {d : Nat} (hd : 0 < d) :
    (roundQuotient format negative n d).isFinite = false ↔
      ((2 * pow2 format.precision - 1 : Nat) : ℚ) * 2 ^ (format.maxExponent - 1) ≤ n / d := by
  have hprecision := hformat.precision_pos
  have hfull : pow2 format.precision = 2 * pow2 (format.precision - 1) := by
    rw [← pow2_succ]
    congr 1
    omega
  have hhalf := pow2_pos (format.precision - 1)
  -- overflow begins where the next number would be, if the format had another exponent
  have hplace : EvenPlace format (pow2 format.precision) format.maxExponent :=
    ⟨by omega, by omega, le_rfl, hformat.minExponent_le, le_rfl⟩
  have hcanonical := canonical_roundQuotient hformat negative n hd
  have hpower : ((pow2 format.precision : Nat) : ℚ) * 2 ^ format.maxExponent =
      overflowPower format := pow2_mul_zpow _ _
  rw [← hplace.reaches_roundQuotient_iff hformat negative n hd, hpower]
  rcases roundQuotient_cases format negative n d with heq | ⟨significand, exponent, heq⟩
  · rw [heq]
    exact iff_of_true rfl trivial
  · rw [heq] at hcanonical ⊢
    exact iff_of_false (by simp [isFinite]) (not_reaches_overflowPower hcanonical)

/-- A number that is not a NaN overflows in another format from half a place behind that
format's greatest number on. -/
theorem isFinite_convert_eq_false_iff (hformat : format.Proper) {x : Binary} (hx : x ≠ .nan) :
    (x.convert format).isFinite = false ↔
      x.Reaches ((2 * pow2 format.precision - 1 : Nat) * 2 ^ (format.maxExponent - 1)) := by
  cases x with
  | nan => exact absurd rfl hx
  | infinity => exact iff_of_true rfl trivial
  | finite negative significand exponent =>
    rw [convert, roundScaled, isFinite_roundQuotient_eq_false_iff hformat negative _
      (timesPowerOfTwo_pos Nat.one_pos _), quotient_scaled]
    rfl

/-- What overflows in single precision. -/
theorem isFinite_convert_binary32_iff {x : Binary} (hx : x ≠ .nan) :
    (x.convert binary32).isFinite = false ↔
      x.Reaches ((2 ^ 25 - 1 : Nat) * 2 ^ (103 : Int)) := by
  have hplace : binary32.maxExponent - 1 = 103 := rfl
  have hunits : 2 * pow2 binary32.precision - 1 = 2 ^ 25 - 1 := by decide +kernel
  rw [isFinite_convert_eq_false_iff ⟨by decide, by decide⟩ hx, hplace, hunits]

/-! ## 4. Powers of two -/

/-- A rounded quotient reaches every power of two of the format that the quotient reaches. -/
theorem reaches_roundQuotient_of_le (hformat : format.Proper) (negative : Bool) (n : Nat) {d : Nat}
    (hd : 0 < d) {k : Int} (h : (2 : ℚ) ^ k ≤ n / d) (hmin : format.minExponent ≤ k)
    (hmax : k ≤ format.maxExponent + format.precision) :
    (roundQuotient format negative n d).Reaches (2 ^ k) := by
  have hn : 0 < n := by
    rcases Nat.eq_zero_or_pos n with rfl | hn
    · rw [Nat.cast_zero, zero_div] at h
      exact absurd h (not_le.2 (by positivity))
    · exact hn
  obtain ⟨significand, exponent, heq, hrounds⟩ := exists_rounds hformat negative hn hd
  rw [heq, reaches_pack_iff hformat negative hrounds (zpow_le_zpow_right₀ one_le_two hmax)]
  rcases le_or_gt exponent k with hle | hgt
  · -- the power is a whole number of units, so rounding does not fall below it
    have hunits : (2 : ℚ) ^ k = (2 ^ (k - exponent).toNat : Nat) * 2 ^ exponent := by
      rw [Nat.cast_pow, Nat.cast_ofNat, ← zpow_natCast, ← zpow_add₀ two_ne_zero]
      congr 1
      omega
    have hsignificand := hrounds.le_of_ge _ (hunits ▸ h)
    rw [hunits]
    exact mul_le_mul_of_nonneg_right (by exact_mod_cast hsignificand) (by positivity)
  · have hfills : ((pow2 (format.precision - 1) : Nat) : ℚ) ≤ significand := by
      exact_mod_cast hrounds.fills (by omega)
    calc (2 : ℚ) ^ k ≤ 2 ^ (exponent + (format.precision - 1 : Nat)) :=
          zpow_le_zpow_right₀ one_le_two (by omega)
      _ = (pow2 (format.precision - 1) : Nat) * 2 ^ exponent := (pow2_mul_zpow _ _).symm
      _ ≤ significand * 2 ^ exponent := mul_le_mul_of_nonneg_right hfills (by positivity)

end InputScript.Binary
