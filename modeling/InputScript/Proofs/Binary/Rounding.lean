/-
How far rounding can go.

A rounded quotient is in canonical form, and it does not pass a power of two that the
quotient does not pass. The second is all that bounds a result here: it keeps finite what
is well below the greatest number of the format, without asking how near the rounded
number is. Both follow from one description of the rounding step, in which the exact
quotient is a rational number.
-/
import InputScript.Binary.Arithmetic
import Mathlib.Algebra.Order.Field.Power
import Mathlib.Tactic.FieldSimp
import Mathlib.Tactic.Linarith
import Mathlib.Tactic.Positivity
import Mathlib.Tactic.Ring

set_option autoImplicit false

namespace InputScript

/-! ## 1. Powers as rational numbers -/

theorem cast_pow2 (k : Nat) : ((pow2 k : Nat) : ℚ) = 2 ^ k := by
  rw [pow2, Nat.pow_eq, Nat.cast_pow, Nat.cast_ofNat]

theorem cast_pow10 (k : Nat) : ((pow10 k : Nat) : ℚ) = 10 ^ k := by
  rw [pow10, Nat.pow_eq, Nat.cast_pow, Nat.cast_ofNat]

/-- A power with a negative exponent is put on the other side. -/
theorem zpow_mul_pow_toNat_neg {base : ℚ} (h : base ≠ 0) (k : Int) :
    base ^ k * base ^ (-k).toNat = base ^ k.toNat := by
  rw [← zpow_natCast, ← zpow_natCast, ← zpow_add₀ h]
  congr 1
  omega

/-- Shifting multiplies by the power, and does nothing where the exponent is negative. -/
theorem cast_timesPowerOfTwo (n : Nat) (k : Int) :
    ((timesPowerOfTwo n k : Nat) : ℚ) = n * 2 ^ k.toNat := by
  rw [timesPowerOfTwo, Nat.shiftLeft_eq, Nat.cast_mul, Nat.cast_pow, Nat.cast_ofNat]

/-- Scaling both sides of a quotient scales the quotient. -/
theorem timesPowerOfTwo_div (n d : Nat) (k : Int) :
    ((timesPowerOfTwo n k : Nat) : ℚ) / (timesPowerOfTwo d (-k) : Nat) = n / d * 2 ^ k := by
  rw [cast_timesPowerOfTwo, cast_timesPowerOfTwo, ← zpow_mul_pow_toNat_neg two_ne_zero k]
  field_simp

theorem timesPowerOfTwo_pos {d : Nat} (hd : 0 < d) (k : Int) : 0 < timesPowerOfTwo d k := by
  rw [timesPowerOfTwo, Nat.shiftLeft_eq]
  positivity

/-! ## 2. Nearest whole numbers -/

/-- A whole number that a quotient does not pass is not passed by rounding. -/
theorem nearestEven_le {n d bound : Nat} (hd : 0 < d) (h : n ≤ bound * d) :
    nearestEven n d ≤ bound := by
  have hfloor : n / d ≤ bound := Nat.div_le_of_le_mul (Nat.mul_comm bound d ▸ h)
  -- the floor is only left upwards if there is a rest, and then the bound is not the floor
  have hrest : 0 < n % d → n / d < bound := by
    intro hpos
    have hn := Nat.div_add_mod n d
    by_contra hge
    obtain rfl : n / d = bound := by omega
    rw [Nat.mul_comm] at h
    omega
  rw [nearestEven]
  split
  · exact hfloor
  · split <;> omega

/-- A whole number that a quotient reaches is reached by rounding, too. -/
theorem le_nearestEven {n d bound : Nat} (hd : 0 < d) (h : bound * d ≤ n) :
    bound ≤ nearestEven n d := by
  have hfloor : bound ≤ n / d := (Nat.le_div_iff_mul_le hd).2 h
  rw [nearestEven]
  split
  · exact hfloor
  · split <;> omega

/-- An even bound is reached from half a place below it on, since ties go to even. -/
theorem even_le_nearestEven_iff {n d bound : Nat} (hd : 0 < d) (hbound : 0 < bound)
    (heven : bound % 2 = 0) : bound ≤ nearestEven n d ↔ (2 * bound - 1) * d ≤ 2 * n := by
  have hn := Nat.div_add_mod n d
  have hrest := Nat.mod_lt n hd
  rw [nearestEven]
  generalize n / d = floor at hn ⊢
  generalize n % d = rest at hn hrest ⊢
  -- one place above the floor is the first that is in question
  have hbelow : bound ≤ floor → (2 * bound - 1) * d ≤ 2 * (d * floor) := by
    intro hle
    calc (2 * bound - 1) * d ≤ 2 * floor * d := Nat.mul_le_mul_right d (by omega)
      _ = 2 * (d * floor) := by ring
  have hnext : bound = floor + 1 → (2 * bound - 1) * d = 2 * (d * floor) + d := by
    rintro rfl
    rw [show 2 * (floor + 1) - 1 = 2 * floor + 1 by omega]
    ring
  have habove : floor + 1 < bound → 2 * (d * floor) + 2 * d < (2 * bound - 1) * d := by
    intro hlt
    calc 2 * (d * floor) + 2 * d = (2 * floor + 2) * d := by ring
      _ < (2 * bound - 1) * d := Nat.mul_lt_mul_of_pos_right (by omega) hd
  rcases Nat.lt_trichotomy bound (floor + 1) with hlt | heq | hgt
  · have := hbelow (by omega)
    split
    · omega
    · split <;> omega
  · have := hnext heq
    split
    · omega
    · split <;> omega
  · have := habove hgt
    split
    · omega
    · split <;> omega

/-- What is less than half a place above a bound is not rounded behind it. -/
theorem nearestEven_le_of_lt {n d bound : Nat} (hd : 0 < d) (h : 2 * n < (2 * bound + 1) * d) :
    nearestEven n d ≤ bound := by
  have hn := Nat.div_add_mod n d
  have hfloor : n / d ≤ bound := by
    rw [← Nat.lt_succ_iff, Nat.div_lt_iff_lt_mul hd]
    linarith
  -- at the bound itself the rest is too small to leave the floor upwards
  have hrest : n / d = bound → 2 * (n % d) < d := by
    rintro rfl
    linarith
  rw [nearestEven]
  split
  · exact hfloor
  · split <;> omega

/-! ## 3. The exponent of a quotient -/

/-- The exponent is the one of the greatest power of two that the quotient reaches. -/
theorem quotientExponent_spec {n d : Nat} (hn : 0 < n) (hd : 0 < d) :
    (2 : ℚ) ^ quotientExponent n d ≤ n / d ∧ (n : ℚ) / d < 2 ^ (quotientExponent n d + 1) := by
  have hnQ : (0 : ℚ) < n := by exact_mod_cast hn
  have hdQ : (0 : ℚ) < d := by exact_mod_cast hd
  have hnlow : (2 : ℚ) ^ (n.log2 : Int) ≤ n := by
    exact_mod_cast Nat.log2_self_le hn.ne'
  have hnhigh : (n : ℚ) < 2 ^ ((n.log2 : Int) + 1) := by
    exact_mod_cast Nat.lt_log2_self (n := n)
  have hdlow : (2 : ℚ) ^ (d.log2 : Int) ≤ d := by
    exact_mod_cast Nat.log2_self_le hd.ne'
  have hdhigh : (d : ℚ) < 2 ^ ((d.log2 : Int) + 1) := by
    exact_mod_cast Nat.lt_log2_self (n := d)
  rw [quotientExponent]
  -- the lengths of both numbers leave two exponents, and one comparison tells them apart
  generalize hk : (n.log2 : Int) - d.log2 = k
  have hlow : (2 : ℚ) ^ (k - 1) ≤ n / d := by
    rw [le_div_iff₀ hdQ]
    calc (2 : ℚ) ^ (k - 1) * d ≤ 2 ^ (k - 1) * 2 ^ ((d.log2 : Int) + 1) := by gcongr
      _ = 2 ^ (n.log2 : Int) := by
        rw [← zpow_add₀ two_ne_zero]
        congr 1
        omega
      _ ≤ n := hnlow
  have hhigh : (n : ℚ) / d < 2 ^ (k + 1) := by
    rw [div_lt_iff₀ hdQ]
    calc (n : ℚ) < 2 ^ ((n.log2 : Int) + 1) := hnhigh
      _ = 2 ^ (k + 1) * 2 ^ (d.log2 : Int) := by
        rw [← zpow_add₀ two_ne_zero]
        congr 1
        omega
      _ ≤ 2 ^ (k + 1) * d := by gcongr
  have hcompare : timesPowerOfTwo d k ≤ timesPowerOfTwo n (-k) ↔ (2 : ℚ) ^ k ≤ n / d := by
    have hpos : (0 : ℚ) < 2 ^ (-k).toNat := by positivity
    rw [← Nat.cast_le (α := ℚ), cast_timesPowerOfTwo, cast_timesPowerOfTwo,
      ← zpow_mul_pow_toNat_neg two_ne_zero k, le_div_iff₀ hdQ, ← mul_assoc,
      mul_le_mul_iff_left₀ hpos, mul_comm]
  split
  next hle => exact ⟨hcompare.1 hle, hhigh⟩
  next hgt =>
    rw [sub_add_cancel]
    exact ⟨hlow, not_le.1 fun hle => hgt (hcompare.2 hle)⟩

/-- There is one power of two that a quotient reaches while it stays below the next. -/
theorem quotientExponent_eq {n d : Nat} (hn : 0 < n) (hd : 0 < d) {k : Int}
    (hlow : (2 : ℚ) ^ k ≤ n / d) (hhigh : (n : ℚ) / d < 2 ^ (k + 1)) :
    quotientExponent n d = k := by
  obtain ⟨hreaches, hbelow⟩ := quotientExponent_spec hn hd
  have hle := (zpow_lt_zpow_iff_right₀ one_lt_two).1 (hreaches.trans_lt hhigh)
  have hge := (zpow_lt_zpow_iff_right₀ one_lt_two).1 (hlow.trans_lt hbelow)
  omega

/-! ## 4. Rounded quotients -/

/-- A format that holds a number. -/
structure BinaryFormat.Proper (format : BinaryFormat) : Prop where
  precision_pos : 0 < format.precision
  minExponent_le : format.minExponent ≤ format.maxExponent

theorem proper_binary64 : binary64.Proper where
  precision_pos := by decide
  minExponent_le := by decide

namespace Binary

/-- The number is finite, and its magnitude at most a power of two. -/
def AtMost (k : Int) : Binary → Prop
  | .finite _ significand exponent => (significand : ℚ) * 2 ^ exponent ≤ 2 ^ k
  | _ => False

theorem pack_cases (format : BinaryFormat) (negative : Bool) (significand : Nat) (exponent : Int) :
    pack format negative significand exponent = .infinity negative ∨
      ∃ packed exponent', pack format negative significand exponent =
        .finite negative packed exponent' :=
  (ite_eq_or_eq _ _ _).imp_right fun h => ⟨_, _, h⟩

/-- A rounded quotient has the sign it is given, and is a number. -/
theorem roundQuotient_cases (format : BinaryFormat) (negative : Bool) (n d : Nat) :
    roundQuotient format negative n d = .infinity negative ∨
      ∃ significand exponent, roundQuotient format negative n d =
        .finite negative significand exponent := by
  rw [roundQuotient]
  split
  · exact .inr ⟨_, _, rfl⟩
  · exact pack_cases _ _ _ _

/-- A significand of some unit that a quotient rounds to: it fits the precision and, unless
the unit is the least one, fills it, and no whole number of units lies between it and the
quotient. An even number of units is reached by what is half a unit below it. -/
structure Rounds (format : BinaryFormat) (quotient : ℚ) (significand : Nat) (exponent : Int) :
    Prop where
  min_le : format.minExponent ≤ exponent
  le_full : significand ≤ pow2 format.precision
  fills : format.minExponent < exponent → pow2 (format.precision - 1) ≤ significand
  reaches : format.minExponent < exponent →
    (2 : ℚ) ^ (exponent + (format.precision - 1 : Nat)) ≤ quotient
  below : quotient < 2 ^ (exponent + format.precision)
  le_of_le : ∀ units : Nat, quotient ≤ units * 2 ^ exponent → significand ≤ units
  le_of_ge : ∀ units : Nat, units * 2 ^ exponent ≤ quotient → units ≤ significand
  even_le_iff : ∀ units : Nat, 0 < units → units % 2 = 0 →
    (units ≤ significand ↔ ((2 * units - 1 : Nat) : ℚ) * 2 ^ (exponent - 1) ≤ quotient)

variable {format : BinaryFormat}

/-- What is at most a number of units is so as operands that are scaled to the unit. -/
theorem timesPowerOfTwo_le_mul {n d units : Nat} {exponent : Int} (hd : 0 < d)
    (h : (n : ℚ) / d ≤ units * 2 ^ exponent) :
    timesPowerOfTwo n (-exponent) ≤ units * timesPowerOfTwo d exponent := by
  have hscaled := timesPowerOfTwo_div n d (-exponent)
  rw [neg_neg] at hscaled
  have hdenominator : (0 : ℚ) < (timesPowerOfTwo d exponent : Nat) := by
    exact_mod_cast timesPowerOfTwo_pos hd exponent
  have hunits : (n : ℚ) / d * 2 ^ (-exponent) ≤ units := by
    rwa [zpow_neg, ← div_eq_mul_inv, div_le_iff₀ (by positivity)]
  rw [← hscaled, div_le_iff₀ hdenominator] at hunits
  exact_mod_cast hunits

/-- What is at least a number of units is so as operands that are scaled to the unit. -/
theorem mul_le_timesPowerOfTwo {n d units : Nat} {exponent : Int} (hd : 0 < d)
    (h : (units : ℚ) * 2 ^ exponent ≤ n / d) :
    units * timesPowerOfTwo d exponent ≤ timesPowerOfTwo n (-exponent) := by
  have hscaled := timesPowerOfTwo_div n d (-exponent)
  rw [neg_neg] at hscaled
  have hdenominator : (0 : ℚ) < (timesPowerOfTwo d exponent : Nat) := by
    exact_mod_cast timesPowerOfTwo_pos hd exponent
  have hunits : (units : ℚ) ≤ n / d * 2 ^ (-exponent) := by
    rwa [zpow_neg, ← div_eq_mul_inv, le_div_iff₀ (by positivity)]
  rw [← hscaled, le_div_iff₀ hdenominator] at hunits
  exact_mod_cast hunits

/-- A number of half units is at most a quotient if it is so of the scaled operands. -/
theorem halves_le_iff {n d halves : Nat} {exponent : Int} (hd : 0 < d) :
    (halves : ℚ) * 2 ^ (exponent - 1) ≤ n / d ↔
      halves * timesPowerOfTwo d exponent ≤ 2 * timesPowerOfTwo n (-exponent) := by
  have hscaled := timesPowerOfTwo_div n d (-exponent)
  rw [neg_neg] at hscaled
  have hdenominator : (0 : ℚ) < (timesPowerOfTwo d exponent : Nat) := by
    exact_mod_cast timesPowerOfTwo_pos hd exponent
  have hhalf : (2 : ℚ) ^ (exponent - 1) = 2 ^ exponent / 2 := zpow_sub_one₀ two_ne_zero exponent
  have hunit : (0 : ℚ) < 2 ^ exponent := by positivity
  calc (halves : ℚ) * 2 ^ (exponent - 1) ≤ n / d
      ↔ (halves : ℚ) ≤ 2 * (n / d * 2 ^ (-exponent)) := by
        rw [hhalf, zpow_neg, ← mul_div_assoc, div_le_iff₀ two_pos, ← div_eq_mul_inv,
          ← mul_div_assoc, le_div_iff₀ hunit, mul_comm (2 : ℚ)]
    _ ↔ (halves : ℚ) * (timesPowerOfTwo d exponent : Nat) ≤
          2 * (timesPowerOfTwo n (-exponent) : Nat) := by
        rw [← hscaled, ← mul_div_assoc, le_div_iff₀ hdenominator]
    _ ↔ halves * timesPowerOfTwo d exponent ≤ 2 * timesPowerOfTwo n (-exponent) := by
        exact_mod_cast Iff.rfl

/-- Rounding a quotient is packing such a significand. -/
theorem exists_rounds (hformat : format.Proper) (negative : Bool) {n d : Nat} (hn : 0 < n)
    (hd : 0 < d) : ∃ significand exponent,
      roundQuotient format negative n d = pack format negative significand exponent ∧
        Rounds format (n / d) significand exponent := by
  obtain ⟨hlow, hhigh⟩ := quotientExponent_spec hn hd
  have hprecision := hformat.precision_pos
  rw [roundQuotient, if_neg hn.ne']
  -- from here on only the bounds of the exponent count, and not how it was found
  generalize hquotient : quotientExponent n d = k at hlow hhigh
  generalize hexponent : max (k - (format.precision - 1 : Nat)) format.minExponent = exponent
  have hdpos := timesPowerOfTwo_pos hd exponent
  -- above the least unit the quotient fills all places
  have hreaches : format.minExponent < exponent →
      (2 : ℚ) ^ (exponent + (format.precision - 1 : Nat)) ≤ n / d := by
    intro habove
    obtain rfl : k = exponent + (format.precision - 1 : Nat) := by omega
    exact hlow
  have hbelow : (n : ℚ) / d < 2 ^ (exponent + format.precision) :=
    hhigh.trans_le (zpow_le_zpow_right₀ one_le_two (by omega))
  refine ⟨_, exponent, rfl, by omega, ?_, ?_, hreaches, hbelow, ?_, ?_, ?_⟩
  · apply nearestEven_le hdpos
    apply timesPowerOfTwo_le_mul hd
    rw [cast_pow2, ← zpow_natCast, ← zpow_add₀ two_ne_zero, add_comm]
    exact hbelow.le
  · intro habove
    apply le_nearestEven hdpos
    apply mul_le_timesPowerOfTwo hd
    rw [cast_pow2, ← zpow_natCast, ← zpow_add₀ two_ne_zero, add_comm]
    exact hreaches habove
  · intro units h
    exact nearestEven_le hdpos (timesPowerOfTwo_le_mul hd h)
  · intro units h
    exact le_nearestEven hdpos (mul_le_timesPowerOfTwo hd h)
  · intro units hunits heven
    rw [even_le_nearestEven_iff hdpos hunits heven, ← halves_le_iff hd]

/-- Packing makes the canonical form: a significand that has one bit too many is a power of two,
and is carried into the exponent. -/
theorem canonical_pack (hformat : format.Proper) (negative : Bool) {quotient : ℚ}
    {significand : Nat} {exponent : Int} (h : Rounds format quotient significand exponent) :
    (pack format negative significand exponent).Canonical format := by
  have hprecision := hformat.precision_pos
  have hhalf : pow2 format.precision = 2 * pow2 (format.precision - 1) := by
    rw [← pow2_succ]
    congr 1
    omega
  have hpos := pow2_pos (format.precision - 1)
  have hmin := h.min_le
  have hfull := h.le_full
  rw [pack]
  by_cases hcarry : significand = pow2 format.precision
  · -- the carried significand is half of what it was, in a unit twice as large
    simp only [hcarry, if_true]
    split
    next => trivial
    next hfits => exact ⟨by omega, by omega, .inr ⟨by omega, le_rfl⟩⟩
  · simp only [hcarry, if_false]
    split
    next => trivial
    next hfits =>
      refine ⟨by omega, by omega, ?_⟩
      rcases hmin.eq_or_lt with heq | hlt
      · exact .inl heq
      · exact .inr ⟨hlt, h.fills hlt⟩

/-- A rounded quotient is in the one form of its format. -/
theorem canonical_roundQuotient (hformat : format.Proper) (negative : Bool) (n : Nat) {d : Nat}
    (hd : 0 < d) : (roundQuotient format negative n d).Canonical format := by
  rcases Nat.eq_zero_or_pos n with rfl | hn
  · rw [roundQuotient_zero]
    exact ⟨pow2_pos _, hformat.minExponent_le, .inl rfl⟩
  · obtain ⟨significand, exponent, heq, hrounds⟩ := exists_rounds hformat negative hn hd
    rw [heq]
    exact canonical_pack hformat negative hrounds

namespace Rounds

variable {quotient : ℚ} {significand : Nat} {exponent k : Int}

/-- A unit above the least one is filled, and so well below a bound of the quotient. -/
theorem exponent_add_le (h : Rounds format quotient significand exponent) (hle : quotient ≤ 2 ^ k)
    (habove : format.minExponent < exponent) : exponent + (format.precision - 1 : Nat) ≤ k :=
  (zpow_le_zpow_iff_right₀ one_lt_two).1 ((h.reaches habove).trans hle)

/-- No unit is above a bound of the quotient that the format has. -/
theorem exponent_le (h : Rounds format quotient significand exponent) (hle : quotient ≤ 2 ^ k)
    (hmin : format.minExponent ≤ k) : exponent ≤ k := by
  rcases h.min_le.eq_or_lt with hleast | habove
  · exact hleast ▸ hmin
  · have := h.exponent_add_le hle habove
    omega

/-- A power of two is a whole number of units, so the significand stays below it. -/
theorem value_le (h : Rounds format quotient significand exponent) (hle : quotient ≤ 2 ^ k)
    (hmin : format.minExponent ≤ k) : (significand : ℚ) * 2 ^ exponent ≤ 2 ^ k := by
  have hexponent := h.exponent_le hle hmin
  have hunits : (2 : ℚ) ^ k = (2 ^ (k - exponent).toNat : Nat) * 2 ^ exponent := by
    rw [Nat.cast_pow, Nat.cast_ofNat, ← zpow_natCast, ← zpow_add₀ two_ne_zero]
    congr 1
    omega
  have hsignificand : significand ≤ 2 ^ (k - exponent).toNat := h.le_of_le _ (hunits ▸ hle)
  rw [hunits]
  exact mul_le_mul_of_nonneg_right (by exact_mod_cast hsignificand) (by positivity)

end Rounds

/-- A bound of the quotient is a bound of what is packed, also where a significand is carried. -/
theorem atMost_pack (hformat : format.Proper) (negative : Bool) {quotient : ℚ} {significand : Nat}
    {exponent k : Int} (h : Rounds format quotient significand exponent) (hle : quotient ≤ 2 ^ k)
    (hmin : format.minExponent ≤ k) (hmax : k < format.maxExponent + format.precision) :
    (pack format negative significand exponent).AtMost k := by
  have hprecision := hformat.precision_pos
  have hvalue := h.value_le hle hmin
  rw [pack]
  by_cases hcarry : significand = pow2 format.precision
  · -- the carried significand has the same value in the next unit
    have hcarried : (pow2 (format.precision - 1) : ℚ) * 2 ^ (exponent + 1) =
        significand * 2 ^ exponent := by
      rw [hcarry, cast_pow2, cast_pow2, ← zpow_natCast, ← zpow_natCast, ← zpow_add₀ two_ne_zero,
        ← zpow_add₀ two_ne_zero]
      congr 1
      omega
    have hk : (format.precision : Int) + exponent ≤ k := by
      apply (zpow_le_zpow_iff_right₀ (one_lt_two (α := ℚ))).1
      rwa [zpow_add₀ two_ne_zero, zpow_natCast, ← cast_pow2, ← hcarry]
    simp only [hcarry, if_true]
    rw [if_neg (by omega), AtMost, hcarried]
    exact hvalue
  · simp only [hcarry, if_false]
    have hfits : ¬format.maxExponent < exponent := by
      have hleast := hformat.minExponent_le
      rcases h.min_le.eq_or_lt with heq | habove
      · omega
      · have := h.exponent_add_le hle habove
        omega
    rw [if_neg hfits]
    exact hvalue

/-- A rounded quotient stays below every power of two of the format that the quotient stays
below. -/
theorem atMost_roundQuotient (hformat : format.Proper) (negative : Bool) (n : Nat) {d : Nat}
    (hd : 0 < d) {k : Int} (h : (n : ℚ) / d ≤ 2 ^ k) (hmin : format.minExponent ≤ k)
    (hmax : k < format.maxExponent + format.precision) :
    (roundQuotient format negative n d).AtMost k := by
  rcases Nat.eq_zero_or_pos n with rfl | hn
  · rw [roundQuotient_zero, zero, AtMost, Nat.cast_zero, zero_mul]
    positivity
  · obtain ⟨significand, exponent, heq, hrounds⟩ := exists_rounds hformat negative hn hd
    rw [heq]
    exact atMost_pack hformat negative hrounds h hmin hmax

/-! ## 5. Operations -/

/-- The two operands of scaling have the scaled number as their quotient. -/
theorem quotient_scaled (significand : Nat) (exponent : Int) :
    ((timesPowerOfTwo significand exponent : Nat) : ℚ) / (timesPowerOfTwo 1 (-exponent) : Nat) =
      significand * 2 ^ exponent := by
  rw [timesPowerOfTwo_div, Nat.cast_one, div_one]

/-- Magnitudes in a common unit have the quotient of the magnitudes. -/
theorem quotient_aligned (m : Nat) (e : Int) (n : Nat) (f : Int) :
    ((aligned m e n f).1 : ℚ) / (aligned m e n f).2 = m * 2 ^ e / (n * 2 ^ f) := by
  have hquotient := timesPowerOfTwo_div m n (e - f)
  rw [neg_sub] at hquotient
  rw [aligned, hquotient, zpow_sub₀ two_ne_zero]
  ring

theorem canonical_roundScaled (hformat : format.Proper) (negative : Bool) (significand : Nat)
    (exponent : Int) : (roundScaled format negative significand exponent).Canonical format :=
  canonical_roundQuotient hformat negative _ (timesPowerOfTwo_pos Nat.one_pos _)

theorem atMost_roundScaled (hformat : format.Proper) (negative : Bool) {significand : Nat}
    {exponent k : Int} (h : (significand : ℚ) * 2 ^ exponent ≤ 2 ^ k)
    (hmin : format.minExponent ≤ k) (hmax : k < format.maxExponent + format.precision) :
    (roundScaled format negative significand exponent).AtMost k :=
  atMost_roundQuotient hformat negative _ (timesPowerOfTwo_pos Nat.one_pos _)
    (quotient_scaled significand exponent ▸ h) hmin hmax

theorem canonical_ofNat (hformat : format.Proper) (negative : Bool) (n : Nat) :
    (ofNat format negative n).Canonical format :=
  canonical_roundQuotient hformat negative n Nat.one_pos

theorem atMost_ofNat (hformat : format.Proper) (negative : Bool) {n : Nat} {k : Int}
    (h : (n : ℚ) ≤ 2 ^ k) (hmin : format.minExponent ≤ k)
    (hmax : k < format.maxExponent + format.precision) : (ofNat format negative n).AtMost k :=
  atMost_roundQuotient hformat negative n Nat.one_pos (by rwa [Nat.cast_one, div_one]) hmin hmax

/-- The bounds of two numbers give a bound of their product. -/
theorem atMost_multiply (hformat : format.Proper) {x y : Binary} {a b : Int} (hx : x.AtMost a)
    (hy : y.AtMost b) (hmin : format.minExponent ≤ a + b)
    (hmax : a + b < format.maxExponent + format.precision) :
    (x.multiply format y).AtMost (a + b) := by
  cases x with
  | nan => exact hx.elim
  | infinity => exact hx.elim
  | finite s m e =>
    cases y with
    | nan => exact hy.elim
    | infinity => exact hy.elim
    | finite t n f =>
      refine atMost_roundScaled hformat _ ?_ hmin hmax
      calc ((m * n : Nat) : ℚ) * 2 ^ (e + f) = m * 2 ^ e * (n * 2 ^ f) := by
            rw [zpow_add₀ two_ne_zero]
            push_cast
            ring
        _ ≤ 2 ^ a * 2 ^ b := mul_le_mul hx hy (by positivity) (by positivity)
        _ = 2 ^ (a + b) := (zpow_add₀ two_ne_zero a b).symm

theorem AtMost.isFinite {x : Binary} {k : Int} (h : x.AtMost k) : x.isFinite = true := by
  cases x with
  | nan => exact h.elim
  | infinity => exact h.elim
  | finite => rfl

theorem AtMost.mono {x : Binary} {a b : Int} (h : x.AtMost a) (hab : a ≤ b) : x.AtMost b := by
  cases x with
  | nan => exact h.elim
  | infinity => exact h.elim
  | finite => exact le_trans h (zpow_le_zpow_right₀ one_le_two hab)

/-- A finite number of double precision whose magnitude is at most a power of two that
leaves room above it. -/
structure Bounded (x : Binary) : Prop where
  atMost : x.AtMost 1016
  canonical : x.Canonical binary64

/-- A finite number of double precision whose magnitude is at most a power of two. -/
structure Within (k : Int) (x : Binary) : Prop where
  atMost : x.AtMost k
  canonical : x.Canonical binary64

theorem Within.mono {x : Binary} {a b : Int} (h : x.Within a) (hab : a ≤ b) : x.Within b :=
  ⟨h.atMost.mono hab, h.canonical⟩

theorem Within.bounded {x : Binary} {k : Int} (h : x.Within k) (hk : k ≤ 1016) : x.Bounded :=
  ⟨h.atMost.mono hk, h.canonical⟩

/-- For double precision, in the form in which bounds are used further on. -/
theorem within_roundQuotient (negative : Bool) {n d : Nat} (hd : 0 < d) {k : Int}
    (h : (n : ℚ) / d ≤ 2 ^ k) (hmin : -1074 ≤ k) (hmax : k ≤ 1016) :
    (roundQuotient binary64 negative n d).Within k where
  atMost := atMost_roundQuotient proper_binary64 negative n hd h hmin
    (lt_of_le_of_lt hmax (by decide))
  canonical := canonical_roundQuotient proper_binary64 negative n hd

end Binary

end InputScript
