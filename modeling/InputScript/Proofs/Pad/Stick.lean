/-
How large the numbers of a stick are.

The written values of a script have any number of digits, so an axis may become infinite. It
is the only thing that may: an axis that is finite stays well below the greatest number,
because it is scaled down from one, the power is capped (`MAX_POWER`), and the angle is
summed from terms that do not grow. None of the four is a NaN.
-/
import InputScript.Pad.Stick
import InputScript.Proofs.Binary.Rounding
import InputScript.Script.Cue

set_option autoImplicit false

namespace InputScript.Binary

/-! ## 1. Bounded numbers -/

theorem within_zero (negative : Bool) : (zero binary64 negative).Within 0 := by
  rw [← roundQuotient_zero binary64 negative 1]
  exact within_roundQuotient negative Nat.one_pos (by norm_num) (by decide) (by decide)

/-- Taking the sign off a zero keeps a number in its bounds. -/
theorem bounded_withoutNegativeZero {x : Binary} (h : x.Bounded) :
    x.withoutNegativeZero.Bounded := by
  unfold withoutNegativeZero
  split
  next => exact ⟨h.atMost, h.canonical⟩
  next => exact h

/-- A number of double precision is below the power of two that is next to the format. -/
theorem magnitude_lt_of_canonical {negative : Bool} {significand : Nat} {exponent : Int}
    (h : (finite negative significand exponent).Canonical binary64) :
    (significand : ℚ) * 2 ^ exponent ≤ 2 ^ (1024 : Int) := by
  obtain ⟨hsignificand, hexponent, -⟩ := h
  calc (significand : ℚ) * 2 ^ exponent ≤ 2 ^ (53 : Int) * 2 ^ exponent := by
        have hcast : (significand : ℚ) ≤ 2 ^ (53 : Int) := by exact_mod_cast hsignificand.le
        exact mul_le_mul_of_nonneg_right hcast (by positivity)
    _ = 2 ^ (53 + exponent) := (zpow_add₀ two_ne_zero _ _).symm
    _ ≤ 2 ^ (1024 : Int) := zpow_le_zpow_right₀ one_le_two (by
        have : binary64.maxExponent = 971 := rfl
        omega)

/-! ## 2. Angles -/

/-- The terms of the series do not grow. -/
theorem seriesFrom_le {square total : Nat} (h : square ≤ total) (count n term : Nat) :
    Enclosure.seriesFrom square total count n term ≤ count * term := by
  induction count generalizing n term with
  | zero => exact Nat.zero_le _
  | succ count ih =>
    -- each term is the one before it times a fraction
    have hterm : term * ((2 * n + 2) * square) / ((2 * n + 3) * total) ≤ term := by
      apply Nat.div_le_of_le_mul
      calc term * ((2 * n + 2) * square) ≤ term * ((2 * n + 3) * total) := by gcongr; omega
        _ = (2 * n + 3) * total * term := Nat.mul_comm _ _
    rw [Enclosure.seriesFrom]
    calc term + Enclosure.seriesFrom square total count (n + 1)
          (term * ((2 * n + 2) * square) / ((2 * n + 3) * total))
        ≤ term + count * term := Nat.add_le_add_left ((ih _ _).trans (Nat.mul_le_mul_left _ hterm)) _
      _ = (count + 1) * term := by ring

/-- The series has a term for every bit, and each is no greater than the unit. -/
theorem lower_arctangent_le (bits leg base : Nat) :
    (Enclosure.arctangent bits leg base).lower ≤ (bits + 2) * 2 ^ bits := by
  -- the first term is a product of two legs over the square of the third side
  have hproduct : leg * base ≤ leg * leg + base * base := by
    rcases Nat.le_total leg base with h | h
    · exact (Nat.mul_le_mul_right base h).trans (Nat.le_add_left _ _)
    · exact (Nat.mul_le_mul_left leg h).trans (Nat.le_add_right _ _)
  have hfirst : ((leg * base) <<< bits) / (leg * leg + base * base) ≤ 2 ^ bits := by
    apply Nat.div_le_of_le_mul
    rw [Nat.shiftLeft_eq]
    exact Nat.mul_le_mul_right _ hproduct
  exact (seriesFrom_le (Nat.le_add_right _ _) _ _ _).trans (Nat.mul_le_mul_left _ hfirst)

/-- No angle is more than four times what the series can give. -/
theorem lower_angle_le (bits : Nat) (leftward : Bool) (x y : Nat) :
    (Enclosure.angle bits leftward x y).lower ≤ 4 * ((bits + 2) * 2 ^ bits) := by
  have hquarter := lower_arctangent_le bits 1 1
  -- steep angles are taken from the quarter turn
  have hacute : (if y ≤ x then Enclosure.arctangent bits y x
      else ((Enclosure.quarterPi bits).times 2).minus (Enclosure.arctangent bits x y)).lower ≤
        4 * ((bits + 2) * 2 ^ bits) := by
    split
    · have := lower_arctangent_le bits y x
      omega
    · simp only [Enclosure.minus, Enclosure.times, Enclosure.quarterPi]
      omega
  rw [Enclosure.angle]
  split
  · simp only [Enclosure.minus, Enclosure.times, Enclosure.quarterPi]
    omega
  · exact hacute

/-- Rounding the lower end of an enclosure gives a bounded number. -/
theorem within_roundAngle_lower (leftward negative : Bool) (x y : Nat) {bits : Nat}
    (hbits : bits ≤ 2048) :
    (roundQuotient binary64 negative (Enclosure.angle bits leftward x y).lower
      (1 <<< bits)).Within 14 := by
  have hlower := lower_angle_le bits leftward x y
  have hunit : 0 < 1 <<< bits := by
    rw [Nat.shiftLeft_eq]
    positivity
  refine within_roundQuotient negative hunit ?_ (by decide) (by decide)
  have hunitQ : (0 : ℚ) < (1 <<< bits : Nat) := by exact_mod_cast hunit
  rw [div_le_iff₀ hunitQ]
  have hcount : 4 * ((bits + 2) * 2 ^ bits) ≤ 2 ^ 14 * 1 <<< bits := by
    rw [Nat.shiftLeft_eq, one_mul, ← mul_assoc]
    exact Nat.mul_le_mul_right _ (by omega)
  exact_mod_cast hlower.trans hcount

/-- A finer enclosure has the same bounds. The induction is on the enclosures still to be tried. -/
theorem within_roundAngle (leftward negative : Bool) (x y : Nat) {bits : Nat} {finer : List Nat}
    (hbits : bits ≤ 2048) (hfiner : ∀ next ∈ finer, next ≤ 2048) :
    (roundAngle binary64 leftward negative x y bits finer).Within 14 := by
  induction finer generalizing bits with
  | nil => exact within_roundAngle_lower leftward negative x y hbits
  | cons next finer ih =>
    rw [roundAngle]
    split
    · exact within_roundAngle_lower leftward negative x y hbits
    · exact ih (hfiner next List.mem_cons_self) fun other h => hfiner other (List.mem_cons_of_mem _ h)

/-- The angle of every vector is bounded, also where it lies too near to an axis for the series. -/
theorem within_wholeAngle (leftward negative : Bool) (x y : Nat) :
    (wholeAngle binary64 leftward negative x y).Within 14 := by
  rw [wholeAngle]
  split
  next => exact (within_zero negative).mono (by decide)
  next hangle =>
    split
    next hflat =>
      -- a direction that is not the axis itself has a long leg along it
      obtain ⟨hle, hleft⟩ := hflat
      have hy : y ≠ 0 := fun hzero => hangle ⟨hzero, hleft⟩
      rw [Nat.shiftLeft_eq] at hle
      have hyx : y ≤ x := (Nat.le_mul_of_pos_right y (by decide)).trans hle
      have hd : 0 < x <<< 200 := by
        rw [Nat.shiftLeft_eq]
        exact Nat.mul_pos (by omega) (by decide)
      refine (within_roundQuotient (k := 0) negative hd ?_ (by decide) (by decide)).mono (by decide)
      have hdQ : (0 : ℚ) < (x <<< 200 : Nat) := by exact_mod_cast hd
      rw [zpow_zero, div_le_one hdQ, Nat.cast_le, Nat.shiftLeft_eq, Nat.shiftLeft_eq]
      exact (Nat.sub_le _ _).trans (Nat.mul_le_mul_right _ hyx)
    next =>
      refine within_roundAngle leftward negative x y (by decide) ?_
      simp

/-- The direction of a vector without a NaN is a number. -/
theorem within_direction {x y : Binary} (hx : x ≠ .nan) (hy : y ≠ .nan) :
    (direction binary64 x y).Within 14 := by
  cases x with
  | nan => exact absurd rfl hx
  | infinity s =>
    cases y with
    | nan => exact absurd rfl hy
    | infinity t => exact within_wholeAngle s t 1 1
    | finite t n f => exact within_wholeAngle s t 1 0
  | finite s m e =>
    cases y with
    | nan => exact absurd rfl hy
    | infinity t => exact within_wholeAngle s t 0 1
    | finite t n f =>
      simp only [direction]
      split <;> exact within_wholeAngle s t _ _

/-! ## 3. Capped lengths -/

/-- A correctly rounded length is a number of double precision. -/
theorem canonical_hypotenuse (x y : Binary) : (hypotenuse binary64 x y).Canonical binary64 := by
  unfold hypotenuse
  split
  next => trivial
  next => trivial
  next => trivial
  next => trivial
  next => exact canonical_roundScaled proper_binary64 _ _ _

/-- What is not above a limit has no greater magnitude. -/
theorem magnitude_le_of_not_below {m n : Nat} {e f : Int}
    (h : below (.finite false m e) (.finite false n f) = false) :
    (n : ℚ) * 2 ^ f ≤ m * 2 ^ e := by
  rcases Nat.eq_zero_or_pos n with rfl | hn
  · rw [Nat.cast_zero, zero_mul]
    positivity
  · have hpos : (0 : ℚ) < (aligned m e n f).2 := by exact_mod_cast timesPowerOfTwo_pos hn _
    have hle : (aligned m e n f).2 ≤ (aligned m e n f).1 := by simpa [below, signed] using h
    -- both magnitudes are whole numbers of one unit, so their quotient is that of these
    have hone : (1 : ℚ) ≤ (aligned m e n f).1 / (aligned m e n f).2 := by
      rw [one_le_div hpos]
      exact_mod_cast hle
    rwa [quotient_aligned, one_le_div (by positivity)] at hone

end InputScript.Binary

namespace InputScript.Pad

open InputScript.Binary InputScript.Script

theorem maxPower_eq : maxPower = .finite false 7036874417766400 (-46) := by decide +kernel

theorem axisScale_eq : axisScale = .finite false 5277655813324800 (-44) := by decide +kernel

/-- A power is a finite number from 0 to 100, whatever is taken for the length: a NaN and
an infinity give way to the limit, and a sign is taken off. -/
theorem power_cases (length : Binary) :
    ∃ significand exponent, length.withoutSign.capped maxPower =
        .finite false significand exponent ∧
      (length.Canonical binary64 → (finite false significand exponent).Canonical binary64) ∧
      (significand : ℚ) * 2 ^ exponent ≤ 100 := by
  have hlimit : maxPower.Canonical binary64 := canonical_ofNat proper_binary64 false 100
  have hvalue : ((7036874417766400 : Nat) : ℚ) * 2 ^ (-46 : Int) = 100 := by norm_num
  rw [maxPower_eq] at hlimit ⊢
  cases length with
  | nan => exact ⟨_, _, rfl, fun _ => hlimit, hvalue.le⟩
  | infinity negative => exact ⟨_, _, rfl, fun _ => hlimit, hvalue.le⟩
  | finite negative significand exponent =>
    simp only [withoutSign, capped]
    -- a number keeps its magnitude unless the limit is below it
    split
    next => exact ⟨_, _, rfl, fun _ => hlimit, hvalue.le⟩
    next hbelow =>
      have hle := magnitude_le_of_not_below (Bool.eq_false_iff.2 hbelow)
      exact ⟨significand, exponent, rfl, id, hle.trans hvalue.le⟩

/-- The power of a length of double precision is bounded. -/
theorem within_power {length : Binary} (h : length.Canonical binary64) :
    (length.withoutSign.capped maxPower).Within 7 := by
  obtain ⟨significand, exponent, heq, hcanonical, hvalue⟩ := power_cases length
  rw [heq]
  exact ⟨hvalue.trans (by norm_num), hcanonical h⟩

/-! ## 4. Sticks -/

/-- An axis is infinite or bounded. -/
def AxisInRange (x : Binary) : Prop :=
  (∃ negative, x = .infinity negative) ∨ x.Bounded

/-- Both axes are in range, and the polar form is bounded. -/
structure Stick.InRange (stick : Stick) : Prop where
  x : AxisInRange stick.x
  y : AxisInRange stick.y
  power : stick.power.Bounded
  angle : stick.angle.Bounded

theorem AxisInRange.ne_nan {x : Binary} (h : AxisInRange x) : x ≠ .nan := by
  rcases h with ⟨negative, rfl⟩ | hbounded
  · simp
  · rintro rfl
    exact hbounded.atMost

/-- A written number is infinite, and so is its axis, or the axis is rounded from its value
divided by the scale. -/
theorem axis_cases (negative : Bool) (n : Nat) :
    (ofNat binary64 negative n = .infinity negative ∧
      axis (.ofNat binary64 negative n) = .infinity negative) ∨
    ∃ (significand : Nat) (exponent : Int) (numerator denominator : Nat),
      ofNat binary64 negative n = .finite negative significand exponent ∧
      0 < denominator ∧
      (numerator : ℚ) / denominator = significand * 2 ^ exponent / 300 ∧
      axis (.ofNat binary64 negative n) =
        (roundQuotient binary64 negative numerator denominator).withoutNegativeZero := by
  -- a written number has no parts if it is infinite
  have hcases : ofNat binary64 negative n = .infinity negative ∨ ∃ significand exponent,
      ofNat binary64 negative n = .finite negative significand exponent :=
    roundQuotient_cases binary64 negative n 1
  rcases hcases with heq | ⟨significand, exponent, heq⟩
  · refine .inl ⟨heq, ?_⟩
    rw [heq, axis, axisScale_eq]
    cases negative <;> rfl
  · refine .inr ⟨significand, exponent,
      (aligned significand exponent 5277655813324800 (-44)).1,
      (aligned significand exponent 5277655813324800 (-44)).2, heq,
      timesPowerOfTwo_pos (by decide) _, ?_, ?_⟩
    · have hscale : ((5277655813324800 : Nat) : ℚ) * 2 ^ (-44 : Int) = 300 := by norm_num
      rw [quotient_aligned, hscale]
    · rw [heq, axis, axisScale_eq]
      simp only [divide]
      rw [if_neg (by decide), Bool.bne_false]

/-- Scaling brings every written number that is finite into range. -/
theorem bounded_axis {negative : Bool} {n significand : Nat} {exponent : Int}
    (h : ofNat binary64 negative n = .finite negative significand exponent) :
    (axis (.ofNat binary64 negative n)).Bounded := by
  have hraw := canonical_ofNat proper_binary64 negative n
  rcases axis_cases negative n with ⟨hinfinite, -⟩ |
    ⟨significand, exponent, numerator, denominator, hfinite, hpos, hquotient, heq⟩
  · rw [h] at hinfinite
    cases hinfinite
  · rw [hfinite] at hraw
    rw [heq]
    -- the scale is above the eighth power of two, which brings the number down to the bound
    refine bounded_withoutNegativeZero ((within_roundQuotient (k := 1016) _ hpos ?_ (by decide)
      le_rfl).bounded le_rfl)
    rw [hquotient]
    calc (significand : ℚ) * 2 ^ exponent / 300 ≤ 2 ^ (1024 : Int) / 2 ^ (8 : Int) :=
          div_le_div₀ (by positivity) (magnitude_lt_of_canonical hraw) (by positivity) (by norm_num)
      _ = 2 ^ (1016 : Int) := by rw [← zpow_sub₀ two_ne_zero]; rfl

/-- The axis of every written number is in range. -/
theorem axisInRange_axis (negative : Bool) (n : Nat) :
    AxisInRange (axis (.ofNat binary64 negative n)) := by
  rcases axis_cases negative n with ⟨-, heq⟩ | ⟨significand, exponent, _, _, hfinite, -⟩
  · exact .inl ⟨negative, heq⟩
  · exact .inr (bounded_axis hfinite)

/-- What keeps the polar form of a stick in range: lengths of double precision, which may be
infinite or negative, and angles that are bounded. -/
structure PolarForm.InRange (polar : PolarForm) : Prop where
  length : ∀ {x y}, x ≠ .nan → y ≠ .nan → (polar.length x y).Canonical binary64
  angle : ∀ {x y}, x ≠ .nan → y ≠ .nan → (polar.angle x y).Bounded

/-- The angle of two numbers is a number. Nothing is said of lengths: a power is capped
whatever the length is. -/
def PolarForm.HasAngles (polar : PolarForm) : Prop :=
  ∀ {x y}, x ≠ .nan → y ≠ .nan → polar.angle x y ≠ .nan

theorem PolarForm.InRange.hasAngles {polar : PolarForm} (h : polar.InRange) : polar.HasAngles := by
  intro x y hx hy hnan
  have hatMost := (h.angle hx hy).atMost
  rw [hnan] at hatMost
  exact hatMost

/-- Correctly rounded lengths and angles stay in range. -/
theorem inRange_rounded : PolarForm.rounded.InRange where
  length := fun {x y} _ _ => canonical_hypotenuse x y
  angle := fun hx hy => (within_direction hx hy).bounded (by decide)

/-- Axes in range and a polar form that keeps to its range make a stick in range. -/
theorem inRange_ofAxes {polar : PolarForm} (hpolar : polar.InRange) {x y : Binary}
    (hx : AxisInRange x) (hy : AxisInRange y) : (Stick.ofAxes x y).InRange where
  x := hx
  y := hy
  power := (within_power (hpolar.length hx.ne_nan hy.ne_nan)).bounded (by decide)
  angle := hpolar.angle hx.ne_nan hy.ne_nan

/-- A stick at rest has the axes that a written zero without a sign has. -/
theorem stickOf_eq [PolarForm] (pair : Option StickPair) :
    stickOf pair = .ofRaw ((pair.map StickPair.x).getD ⟨false, 0⟩).value
      ((pair.map StickPair.y).getD ⟨false, 0⟩).value := by
  cases pair with
  | none =>
    rw [stickOf, Stick.centred, ← ofNat_zero]
    rfl
  | some pair => rfl

/-- The stick of every written pair is in range, and so is a stick at rest: axes are in range
however many digits are written, and the polar form keeps to that. -/
theorem inRange_stickOf {polar : PolarForm} (hpolar : polar.InRange) (pair : Option StickPair) :
    (stickOf pair).InRange := by
  rw [stickOf_eq]
  exact inRange_ofAxes hpolar (axisInRange_axis _ _) (axisInRange_axis _ _)

end InputScript.Pad
