/-
Where the angles of sticks lie.

An axis is never a negative zero, so a stick that points straight back is given the half
turn and not its negative. There are other sticks that are given the negative half turn,
though: the exact direction of a stick may be so near to -π that it is rounded to it, and
for a stick that is pushed back far enough one step down is no more than that. So the
negative half turn belongs to the range of angles, and this file says which sticks have it.
-/
import InputScript.Proofs.Binary.HalfTurn
import InputScript.Proofs.Pad.Axis

set_option autoImplicit false

namespace InputScript.Binary

open Enclosure Real

/-! ## 1. Values -/

theorem value_halfTurn_true : (halfTurn true).value = -(halfTurn false).value := by
  rw [halfTurn, halfTurn, value_true, value_false]

/-- What is short of the half turn lies between the half turn and its negative. -/
theorem ShortOfHalfTurn.value_bounds {negative : Bool} {x : Binary}
    (h : ShortOfHalfTurn negative x) : x.isFinite = true ∧
      -(halfTurn false).value < x.value ∧ x.value < (halfTurn false).value := by
  obtain ⟨significand, exponent, rfl, hlt⟩ := h
  have hnonneg : (0 : ℚ) ≤ significand * 2 ^ exponent := by positivity
  refine ⟨rfl, ?_⟩
  cases negative with
  | false =>
    rw [value_false]
    constructor <;> linarith
  | true =>
    rw [value_true]
    constructor <;> linarith

/-- The two components of a vector in one unit. -/
theorem exists_unit (m : Nat) (e : Int) (n : Nat) (f : Int) :
    ∃ unit : ℝ, 0 < unit ∧ (m : ℝ) * 2 ^ e = unit * (aligned m e n f).1 ∧
      (n : ℝ) * 2 ^ f = unit * (aligned m e n f).2 := by
  -- the smaller of the two exponents is the unit, and the other number is shifted to it
  have hscale (k : Nat) (a b : Int) :
      (k : ℝ) * 2 ^ a = 2 ^ min a b * (timesPowerOfTwo k (a - b) : Nat) := by
    rw [timesPowerOfTwo, Nat.shiftLeft_eq]
    push_cast
    rw [mul_left_comm, ← zpow_natCast, ← zpow_add₀ two_ne_zero]
    congr 2
    omega
  refine ⟨2 ^ min e f, by positivity, hscale m e f, ?_⟩
  rw [min_comm]
  exact hscale n f e

/-! ## 2. Vectors that point back -/

/-- The exact direction of two axes is as near to the negative half turn as half of the
distance from there to the next number, or is below it. An axis that is infinite to the left
outweighs every finite one that points down. -/
inductive PointsBack : Binary → Binary → Prop
  | infinite (significand : Nat) (exponent : Int) :
    PointsBack (.infinity true) (.finite true significand exponent)
  | finite {x y : Binary} (hx : x.isFinite = true) (hy : y.isFinite = true)
    (hangle : Complex.arg ⟨x.value, y.value⟩ ≤ -((halfTurn false).value - 1 / 2 ^ 52 : ℚ)) :
    PointsBack x y

/-- A vector keeps its angle in another unit. -/
theorem arg_aligned (negative : Bool) (m : Nat) (e : Int) (n : Nat) (f : Int) :
    Complex.arg ⟨(finite negative m e).value, n * 2 ^ f⟩ =
      Complex.arg (vector negative (aligned m e n f).1 (aligned m e n f).2) := by
  obtain ⟨unit, hunit, hm, hn⟩ := exists_unit m e n f
  rw [← Complex.arg_real_mul (vector _ _ _) hunit]
  congr 1
  apply Complex.ext
  · cases negative <;> simp [value_false, value_true, vector, hm]
  · simp [vector, hn]

/-- A vector points back exactly if it points down and its angle reaches the turning point. -/
theorem pointsBack_finite_iff {s t : Bool} {m n : Nat} {e f : Int} (hn : t = true → n ≠ 0) :
    PointsBack (.finite s m e) (.finite t n f) ↔
      t = true ∧ turningPoint ≤
        Complex.arg (vector s (aligned m e n f).1 (aligned m e n f).2) := by
  have hexact : PointsBack (.finite s m e) (.finite t n f) ↔
      Complex.arg ⟨(finite s m e).value, (finite t n f).value⟩ ≤ -turningPoint := by
    constructor
    · intro h
      cases h with
      | finite _ _ hangle => exact hangle
    · exact .finite rfl rfl
  rw [hexact, ← arg_aligned]
  cases t with
  | false =>
    have hpositive : (0 : ℝ) < turningPoint := by
      rw [cast_turningPoint]
      positivity
    -- what points up has an angle that is not negative, and the turning point is far from zero
    have hup : 0 ≤ Complex.arg ⟨(finite s m e).value, (finite false n f).value⟩ := by
      rw [Complex.arg_nonneg_iff, value_false]
      push_cast
      positivity
    exact iff_of_false (not_le.2 (by linarith)) (by simp)
  | true =>
    have hpos : (0 : ℝ) < n * 2 ^ f := by
      have := Nat.pos_of_ne_zero (hn rfl)
      positivity
    rw [value_true n f]
    push_cast
    rw [arg_neg_im _ hpos, neg_le_neg_iff]
    simp

/-! ## 3. Directions of axes -/

/-- In a common unit a number that is not zero is not zero. -/
theorem aligned_ne_zero {m n : Nat} (h : m ≠ 0 ∨ n ≠ 0) (e f : Int) :
    (aligned m e n f).1 ≠ 0 ∨ (aligned m e n f).2 ≠ 0 := by
  rcases h with h | h
  · exact .inl (timesPowerOfTwo_pos (Nat.pos_of_ne_zero h) _).ne'
  · exact .inr (timesPowerOfTwo_pos (Nat.pos_of_ne_zero h) _).ne'

/-- The direction of a vector with finite components that are not both zero. -/
theorem direction_finite {m n : Nat} (h : m ≠ 0 ∨ n ≠ 0) (s t : Bool) (e f : Int) :
    direction binary64 (.finite s m e) (.finite t n f) =
      wholeAngle binary64 s t (aligned m e n f).1 (aligned m e n f).2 := by
  have hne := aligned_ne_zero h e f
  simp only [direction]
  rw [if_neg (by tauto)]

/-- A vector of length zero points along the first axis. -/
theorem direction_zero (s t : Bool) (e f : Int) :
    direction binary64 (.finite s 0 e) (.finite t 0 f) = wholeAngle binary64 s t 1 0 := by
  have hzero (k : Int) : timesPowerOfTwo 0 k = 0 := Nat.zero_shiftLeft _
  simp only [direction, aligned, hzero, and_self, if_true]

/-- The slope of a vector is the same in its own units and in the common one. -/
theorem slope_aligned (m : Nat) (e : Int) (n : Nat) (f : Int) :
    ((aligned m e n f).2 : ℝ) / (aligned m e n f).1 = n / m * 2 ^ (f - e) := by
  obtain ⟨unit, hunit, hm, hn⟩ := exists_unit m e n f
  rw [← mul_div_mul_left _ _ hunit.ne', ← hm, ← hn, zpow_sub₀ two_ne_zero, mul_div_mul_comm]

/-- Vectors along the second axis have angles well below the turning point. -/
theorem arg_upright_lt_turningPoint (leftward : Bool) (y : Nat) :
    Complex.arg (vector leftward 0 y) < turningPoint := by
  have hright : vector leftward 0 y = vector false 0 y := by
    cases leftward <;> simp [vector]
  rw [hright]
  exact arg_lt_turningPoint

/-- The diagonals are well below the turning point as well. -/
theorem arg_diagonal_lt_turningPoint (leftward : Bool) :
    Complex.arg (vector leftward 1 1) < turningPoint := by
  cases leftward with
  | false => exact arg_lt_turningPoint
  | true =>
    have hpi := pi_bounds
    rw [arg_vector_true Nat.one_pos, Nat.cast_one, div_one, arctan_one]
    rw [cast_turningPoint] at *
    linarith

/-- Along the first axis the turning point is reached to the left. -/
theorem turns_along_axis (leftward : Bool) :
    Decided (Complex.arg (vector leftward 1 0)) ∧
      (turningPoint ≤ Complex.arg (vector leftward 1 0) ↔ leftward = true) := by
  cases leftward with
  | false =>
    exact ⟨.inl arg_lt_turningPoint, iff_of_false (not_le.2 arg_lt_turningPoint) (by simp)⟩
  | true =>
    have hpi := pi_bounds.1
    have hreached : (turningPoint : ℝ) ≤ π := le_trans (le_add_of_nonneg_right (by positivity)) hpi
    rw [arg_vector_true Nat.one_pos, Nat.cast_zero, zero_div, arctan_zero, sub_zero]
    exact ⟨decided_of_add_le hpi, iff_of_true hreached rfl⟩

/-- The direction of the vector is the half turn if some angle reaches the turning point, and
the vector points back if that is so and it points down. -/
def TurnsBack (x y : Binary) : Prop :=
  ∃ reached negative, TurnsIf reached negative (direction binary64 x y) ∧
    (PointsBack x y ↔ reached ∧ negative = true)

/-- An infinite first axis points along itself, or along a diagonal if the second one is
infinite. -/
theorem turnsBack_infinite (s : Bool) {y : Binary} (hy : y ≠ .nan) :
    TurnsBack (.infinity s) y := by
  cases y with
  | nan => exact absurd rfl hy
  | infinity t =>
    -- two infinite axes make a diagonal, whatever their signs
    have hlt := arg_diagonal_lt_turningPoint s
    refine ⟨_, t, turnsIf_wholeAngle s t (.inl one_ne_zero) (.inl hlt),
      iff_of_false ?_ fun h => absurd hlt (not_lt.2 h.1)⟩
    intro h
    cases h with
    | finite hx => cases hx
  | finite t n f =>
    obtain ⟨hdecided, hreached⟩ := turns_along_axis s
    refine ⟨_, t, turnsIf_wholeAngle s t (.inl one_ne_zero) hdecided, ?_⟩
    rw [hreached]
    constructor
    · intro h
      cases h with
      | infinite => exact ⟨rfl, rfl⟩
      | finite hx => cases hx
    · rintro ⟨rfl, rfl⟩
      exact .infinite n f

/-- An infinite second axis points straight up or down. -/
theorem turnsBack_finite_infinite (s : Bool) (m : Nat) (e : Int) (t : Bool) :
    TurnsBack (.finite s m e) (.infinity t) := by
  have hlt := arg_upright_lt_turningPoint s 1
  refine ⟨_, t, turnsIf_wholeAngle s t (.inr one_ne_zero) (.inl hlt),
    iff_of_false ?_ fun h => absurd hlt (not_lt.2 h.1)⟩
  intro h
  cases h with
  | finite _ hy => cases hy

end InputScript.Binary

namespace InputScript.Pad

open InputScript.Binary InputScript.Enclosure InputScript.Script Real

/-- The angle of two axes is decided. -/
theorem decided_axes {s t : Bool} {m n : Nat} {e f : Int} (hx : AxisForm (.finite s m e))
    (hy : AxisForm (.finite t n f)) :
    Decided (Complex.arg (vector s (aligned m e n f).1 (aligned m e n f).2)) := by
  cases s with
  | false => exact .inl arg_lt_turningPoint
  | true =>
    cases hx with
    | full _ _ hlow hhigh =>
      have hpos : 0 < (aligned m e n f).1 := timesPowerOfTwo_pos (by omega) _
      rw [arg_vector_true hpos, slope_aligned]
      cases hy with
      | zero =>
        rw [Nat.cast_zero, zero_div, zero_mul, arctan_zero, sub_zero]
        exact decided_of_add_le pi_bounds.1
      | full _ _ hlow' hhigh' => exact decided_slope hlow hhigh hlow' hhigh' _

/-- Every two axes have such a direction. The cases are their forms. -/
theorem turnsBack_axes {x y : Binary} (hx : AxisForm x) (hy : AxisForm y) : TurnsBack x y := by
  cases x with
  | nan => cases hx
  | infinity s => exact turnsBack_infinite s hy.ne_nan
  | finite s m e =>
    cases y with
    | nan => cases hy
    | infinity t => exact turnsBack_finite_infinite s m e t
    | finite t n f =>
      have hn : t = true → n ≠ 0 := hy.ne_zero
      by_cases hrest : m = 0 ∧ n = 0
      · -- at rest both axes are zero, and zeros of axes are positive
        obtain ⟨rfl, rfl⟩ := hrest
        have hs : s = false := Bool.eq_false_iff.2 fun h => hx.ne_zero h rfl
        have ht : t = false := Bool.eq_false_iff.2 fun h => hn h rfl
        subst hs ht
        refine ⟨_, false, direction_zero false false e f ▸
          turnsIf_wholeAngle false false (.inl one_ne_zero) (turns_along_axis false).1, ?_⟩
        rw [pointsBack_finite_iff hn]
        simp
      · -- otherwise there is a direction, and it is decided
        have hne : m ≠ 0 ∨ n ≠ 0 := by tauto
        refine ⟨_, t, direction_finite hne s t e f ▸
          turnsIf_wholeAngle s t (aligned_ne_zero hne e f) (decided_axes hx hy), ?_⟩
        rw [pointsBack_finite_iff hn, and_comm]

/-! ## 4. Angles of sticks -/

/-- The range of the direction of two axes. -/
theorem angle_of_axes {x y : Binary} (hx : AxisForm x) (hy : AxisForm y) :
    (direction binary64 x y).isFinite = true ∧
      (direction binary64 x y).value ≤ (halfTurn false).value ∧
      (¬PointsBack x y → -(halfTurn false).value < (direction binary64 x y).value) ∧
      (PointsBack x y → direction binary64 x y = halfTurn true) := by
  have hpos := value_halfTurn_pos
  obtain ⟨reached, negative, hturns, hpoints⟩ := turnsBack_axes hx hy
  rw [hpoints]
  -- the direction is one of the half turns, or short of them
  rcases hturns with ⟨hreached, heq⟩ | ⟨hnot, hshort⟩
  · rw [heq]
    cases negative with
    | false => exact ⟨rfl, le_rfl, fun _ => by linarith, fun h => absurd h.2 Bool.false_ne_true⟩
    | true =>
      rw [value_halfTurn_true]
      exact ⟨rfl, by linarith, fun h => absurd ⟨hreached, rfl⟩ h, fun _ => rfl⟩
  · obtain ⟨hfinite, habove, hbelow⟩ := hshort.value_bounds
    exact ⟨hfinite, hbelow.le, fun _ => habove, fun h => absurd h.1 hnot⟩

/-- **Range of angles.** The angle of every written pair, and of a stick at rest, is a number
from the negative half turn to the half turn. It is the negative half turn exactly if the
stick points back, and it is above that otherwise. -/
theorem angle_range (pair : Option StickPair) :
    let stick := stickOf pair
    stick.angle.isFinite = true ∧
      stick.angle.value ≤ (halfTurn false).value ∧
      (¬PointsBack stick.x stick.y → -(halfTurn false).value < stick.angle.value) ∧
      (PointsBack stick.x stick.y → stick.angle = halfTurn true) := by
  rw [stickOf_eq]
  exact angle_of_axes (axisForm_axis _ _) (axisForm_axis _ _)

/-- A stick that is written far to the left and one down. -/
theorem not_angle_above_negative_halfTurn :
    ¬∀ pair : Option StickPair,
      -(halfTurn false).value < (stickOf pair).angle.value ∧
        (stickOf pair).angle.value ≤ (halfTurn false).value := by
  intro h
  have hangle : (stickOf (some ⟨⟨true, 100000000000000000000⟩, ⟨true, 1⟩⟩)).angle =
      halfTurn true := by
    decide +kernel
  have habove := (h (some ⟨⟨true, 100000000000000000000⟩, ⟨true, 1⟩⟩)).1
  rw [hangle, value_halfTurn_true] at habove
  exact absurd habove (lt_irrefl _)

end InputScript.Pad
