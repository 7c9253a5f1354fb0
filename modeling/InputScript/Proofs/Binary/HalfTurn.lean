/-
Which angles are rounded to the half turn.

No number of double precision is π. The nearest one lies below π, so an angle that is
smaller than π may well be rounded to it, and a vector that points back is given the same
angle as one that does so exactly. This file finds the turning point from which on it
happens. Bounds of an angle decide on which side of the turning point it lies unless it
is very near, and no quotient of two numbers of the format gives an angle as near as that:
the two quotients next to the turning point are known, and a quotient between them would
need more digits.
-/
import InputScript.Proofs.Binary.Arctangent
import InputScript.Proofs.Binary.Threshold

set_option autoImplicit false

namespace InputScript.Binary

open Enclosure Real

/-! ## 1. The half turn -/

/-- The value of a finite number. -/
def value : Binary → ℚ
  | .finite negative significand exponent => signed negative significand * 2 ^ exponent
  | _ => 0

theorem value_false (significand : Nat) (exponent : Int) :
    (finite false significand exponent).value = significand * 2 ^ exponent := by
  simp [value, signed]

theorem value_true (significand : Nat) (exponent : Int) :
    (finite true significand exponent).value = -(significand * 2 ^ exponent) := by
  simp [value, signed]

/-- The number nearest to π, with a sign. -/
def halfTurn (negative : Bool) : Binary := .finite negative 7074237752028440 (-51)

example : (halfTurn false).toBits binary64 = 0x400921fb54442d18 := by decide +kernel

theorem value_halfTurn : (halfTurn false).value = 7074237752028440 / 2 ^ 51 := by
  rw [halfTurn, value_false]
  norm_num

theorem value_halfTurn_pos : 0 < (halfTurn false).value := by
  rw [value_halfTurn]
  positivity

/-- Half a place below the half turn. -/
def turningPoint : ℚ := (halfTurn false).value - 1 / 2 ^ 52

/-- The turning point in halves of the place of the half turn. -/
theorem turningPoint_eq : turningPoint = 14148475504056879 / 2 ^ 52 := by
  rw [turningPoint, value_halfTurn]
  norm_num

theorem cast_turningPoint : (turningPoint : ℝ) = 14148475504056879 / 2 ^ 52 := by
  rw [turningPoint_eq]
  push_cast
  rfl

/-- π is less than half a place away from the half turn. -/
theorem pi_bounds : (turningPoint : ℝ) + 1 / 2 ^ 240 ≤ π ∧ π < 14148475504056881 / 2 ^ 52 := by
  -- the program's own bounds of π are computed once, and are all that is known of π here
  have hpi := (encloses_quarterPi 256).times 4
  rw [show ((4 : Nat) : ℝ) * (π / 4) = π by push_cast; ring] at hpi
  have hlow : 14148475504056879 * 2 ^ 204 + 2 ^ 16 ≤ ((quarterPi 256).times 4).lower := by
    decide +kernel
  have hhigh : ((quarterPi 256).times 4).upper < 14148475504056881 * 2 ^ 204 := by
    decide +kernel
  have hlowR : ((14148475504056879 * 2 ^ 204 + 2 ^ 16 : Nat) : ℝ) ≤ π * 2 ^ 256 :=
    (Nat.cast_le.2 hlow).trans hpi.lower_le
  have hhighR : π * 2 ^ 256 < ((14148475504056881 * 2 ^ 204 : Nat) : ℝ) :=
    hpi.le_upper.trans_lt (Nat.cast_lt.2 hhigh)
  push_cast at hlowR hhighR
  rw [cast_turningPoint]
  constructor <;> linarith

/-! ## 2. Rounding below π -/

/-- A number with this sign, short of the half turn. -/
def ShortOfHalfTurn (negative : Bool) (x : Binary) : Prop :=
  ∃ significand exponent, x = .finite negative significand exponent ∧
    (significand : ℚ) * 2 ^ exponent < (halfTurn false).value

/-- The number is the half turn if the turning point is reached, and short of it otherwise. -/
def TurnsIf (reached : Prop) (negative : Bool) (x : Binary) : Prop :=
  (reached ∧ x = halfTurn negative) ∨ (¬reached ∧ ShortOfHalfTurn negative x)

/-- The nearest number to π has an even significand, so its threshold is known. -/
theorem evenPlace_halfTurn : EvenPlace binary64 7074237752028440 (-51) := by
  constructor <;> decide +kernel

/-- Quotients reach the half turn from the turning point on. -/
theorem reaches_halfTurn_iff (negative : Bool) (n : Nat) {d : Nat} (hd : 0 < d) :
    (roundQuotient binary64 negative n d).Reaches (halfTurn false).value ↔
      (turningPoint : ℝ) ≤ (n : ℝ) / d := by
  -- the turning point is the threshold of the half turn
  have hhalves : ((2 * 7074237752028440 - 1 : Nat) : ℚ) * 2 ^ ((-51 : Int) - 1) = turningPoint := by
    rw [turningPoint_eq]
    norm_num
  rw [halfTurn, value_false, evenPlace_halfTurn.reaches_roundQuotient_iff proper_binary64 negative n
    hd, hhalves, ← Rat.cast_le (K := ℝ)]
  push_cast
  rfl

/-- A quotient that reaches the turning point is not rounded short of the half turn. -/
theorem not_shortOfHalfTurn_of_le {negative : Bool} {n d : Nat} (hd : 0 < d)
    (h : (turningPoint : ℝ) ≤ (n : ℝ) / d) :
    ¬ShortOfHalfTurn negative (roundQuotient binary64 negative n d) := by
  rintro ⟨significand, exponent, heq, hlt⟩
  have hreaches := (reaches_halfTurn_iff negative n hd).2 h
  rw [heq] at hreaches
  exact absurd hlt (not_lt.2 hreaches)

/-- Rounding a quotient that is not above π. -/
theorem turnsIf_roundQuotient (negative : Bool) {n d : Nat} (hd : 0 < d) (hpi : (n : ℝ) / d ≤ π) :
    TurnsIf ((turningPoint : ℝ) ≤ (n : ℝ) / d) negative
      (roundQuotient binary64 negative n d) := by
  have hreaches := reaches_halfTurn_iff negative n hd
  by_cases h : (turningPoint : ℝ) ≤ (n : ℝ) / d
  · -- π is nearer to the half turn than to the number behind it, so nothing rounds further up
    have hbehind : (n : ℝ) / d < 14148475504056881 / 2 ^ 52 := hpi.trans_lt pi_bounds.2
    have hlow := hreaches.2 h
    rw [halfTurn, value_false, evenPlace_halfTurn.reaches_roundQuotient_iff proper_binary64 negative
      n hd] at hlow
    refine .inl ⟨h, evenPlace_halfTurn.roundQuotient_eq proper_binary64 (by decide +kernel) negative
      hd hlow ?_⟩
    rw [← Rat.cast_lt (K := ℝ)]
    push_cast
    refine hbehind.trans_le (le_of_eq ?_)
    norm_num
  · refine .inr ⟨h, ?_⟩
    have hshort := hreaches.not.2 h
    rcases roundQuotient_cases binary64 negative n d with heq | ⟨significand, exponent, heq⟩
    · rw [heq] at hshort
      exact absurd trivial hshort
    · rw [heq] at hshort
      exact ⟨significand, exponent, heq, not_le.1 hshort⟩

/-! ## 3. Rounded angles -/

/-- An angle is rounded from its lower bound in one of the units, and the upper bound is
rounded to the same number unless it is the finest unit. -/
theorem exists_roundAngle_eq (leftward negative : Bool) (x y bits : Nat) (finer : List Nat) :
    ∃ unit,
      roundAngle binary64 leftward negative x y bits finer =
        roundQuotient binary64 negative (angle unit leftward x y).lower (1 <<< unit) ∧
      (roundAngle binary64 leftward negative x y bits finer =
          roundQuotient binary64 negative (angle unit leftward x y).upper (1 <<< unit) ∨
        (bits :: finer).getLast? = some unit) := by
  induction finer generalizing bits with
  | nil => exact ⟨bits, rfl, .inr rfl⟩
  | cons next finer ih =>
    rw [roundAngle]
    split
    next hagree => exact ⟨bits, rfl, .inl hagree⟩
    next =>
      rw [List.getLast?_cons_cons]
      exact ih next

/-- Bounds are as far apart as the errors of the arctangents add up to that an angle is made
of. -/
theorem upper_angle_le (bits : Nat) (leftward : Bool) (x y : Nat) :
    (angle bits leftward x y).upper ≤ (angle bits leftward x y).lower + 14 * (bits + 4) := by
  simp only [angle, minus, times, quarterPi, arctangent]
  split <;> split <;> dsimp only <;> omega

/-- The angle is not too near to the turning point to be told on which side of it it is. -/
def Decided (angle : ℝ) : Prop :=
  angle < turningPoint ∨ ((turningPoint + 1 / 2 ^ 240 : ℚ) : ℝ) ≤ angle

theorem decided_of_add_le {angle : ℝ} (h : (turningPoint : ℝ) + 1 / 2 ^ 240 ≤ angle) :
    Decided angle := by
  refine .inr ?_
  push_cast
  exact h

theorem Decided.add_le {angle : ℝ} (h : Decided angle) (hreached : turningPoint ≤ angle) :
    (turningPoint : ℝ) + 1 / 2 ^ 240 ≤ angle := by
  have hclear := h.resolve_left (not_lt.2 hreached)
  push_cast at hclear
  exact hclear

/-- In the finest unit the bounds of an angle that is decided do not lie on both sides of the
turning point. -/
theorem turningPoint_le_lower {bounds : Enclosure} {angle : ℝ} (h : bounds.Encloses 2048 angle)
    (hwidth : bounds.upper ≤ bounds.lower + 14 * (2048 + 4)) (hdecided : Decided angle)
    (hreached : turningPoint ≤ angle) :
    (turningPoint : ℝ) ≤ (bounds.lower : ℝ) / (1 <<< 2048 : Nat) := by
  -- a decided angle is farther from the turning point than the bounds are from each other
  have hclear := hdecided.add_le hreached
  have hupper := h.div_bounds.2
  have hunit : ((1 <<< 2048 : Nat) : ℝ) = 2 ^ 1808 * 2 ^ 240 :=
    (cast_one_shiftLeft 2048).trans (pow_add 2 1808 240)
  have hwide : (bounds.upper : ℝ) / (1 <<< 2048 : Nat) ≤
      bounds.lower / (1 <<< 2048 : Nat) + 28728 / (1 <<< 2048 : Nat) := by
    rw [← add_div]
    exact div_le_div_of_nonneg_right (by exact_mod_cast hwidth) (Nat.cast_nonneg _)
  have hfine : (28728 : ℝ) / (1 <<< 2048 : Nat) ≤ 1 / 2 ^ 240 := by
    rw [hunit, ← div_div]
    refine div_le_div_of_nonneg_right ?_ (by positivity)
    calc (28728 : ℝ) / 2 ^ 1808 ≤ 2 ^ 15 / 2 ^ 1808 := by gcongr; norm_num
      _ ≤ 1 := div_le_one_of_le₀ (pow_le_pow_right₀ one_le_two (by decide)) (by positivity)
  linarith

/-- Rounding an angle decides as the angle does: where both bounds agree, and in the finest unit
by how narrow they are. -/
theorem turnsIf_roundAngle (leftward negative : Bool) {x y : Nat} (hne : x ≠ 0 ∨ y ≠ 0)
    (hdecided : Decided (Complex.arg (vector leftward x y))) :
    TurnsIf (turningPoint ≤ Complex.arg (vector leftward x y)) negative
      (roundAngle binary64 leftward negative x y 256 [512, 1024, 2048]) := by
  -- it is the lower bound that is rounded, and it could be short of what the angle reaches
  obtain ⟨unit, hlower, hupper⟩ :=
    exists_roundAngle_eq leftward negative x y 256 [512, 1024, 2048]
  have hencloses := encloses_angle unit leftward hne
  obtain ⟨hbelow, habove⟩ := hencloses.div_bounds
  have hunit : 0 < 1 <<< unit := by
    rw [Nat.shiftLeft_eq]
    positivity
  have hturns := turnsIf_roundQuotient negative hunit (hbelow.trans (Complex.arg_le_pi _))
  rw [← hlower] at hturns
  rcases hturns with ⟨hreached, heq⟩ | ⟨hnot, hshort⟩
  · exact .inl ⟨hreached.trans hbelow, heq⟩
  · refine .inr ⟨fun hreached => ?_, hshort⟩
    rcases hupper with hagree | hlast
    · -- the upper bound reaches the turning point, and is rounded to the same number
      rw [hagree] at hshort
      exact not_shortOfHalfTurn_of_le hunit (hreached.trans habove) hshort
    · obtain rfl : 2048 = unit := by simpa using hlast
      have hwidth := upper_angle_le 2048 leftward x y
      exact hnot (turningPoint_le_lower hencloses hwidth hdecided hreached)

/-- Vectors that do not point to the left have angles well below the turning point. -/
theorem arg_lt_turningPoint {x y : Nat} : Complex.arg (vector false x y) < turningPoint := by
  have hle : |Complex.arg (vector false x y)| ≤ π / 2 :=
    Complex.abs_arg_le_pi_div_two_iff.2 (Nat.cast_nonneg x)
  have hpi := pi_bounds
  rw [cast_turningPoint] at *
  linarith [(abs_le.1 hle).2]

/-- The quotient that stands for a very flat angle is at most one, far from the half turn. -/
theorem shortOfHalfTurn_flat (negative : Bool) {x y : Nat} (hy : y ≠ 0) (hflat : y <<< 54 ≤ x) :
    ShortOfHalfTurn negative (roundQuotient binary64 negative (y <<< 200 - 1) (x <<< 200)) := by
  simp only [Nat.shiftLeft_eq] at *
  have hx : 0 < x * 2 ^ 200 := by omega
  have hone : ((y * 2 ^ 200 - 1 : Nat) : ℝ) / (x * 2 ^ 200 : Nat) ≤ 1 := by
    rw [div_le_one (by exact_mod_cast hx), Nat.cast_le]
    omega
  have hbelow : ((y * 2 ^ 200 - 1 : Nat) : ℝ) / (x * 2 ^ 200 : Nat) < turningPoint := by
    refine hone.trans_lt ?_
    rw [cast_turningPoint]
    norm_num
  rcases turnsIf_roundQuotient negative hx (hone.trans (one_le_two.trans two_le_pi)) with
    ⟨hreached, -⟩ | ⟨-, hshort⟩
  · exact absurd hbelow (not_lt.2 hreached)
  · exact hshort

/-- The same for any whole vector, as the shortcuts for flat angles stay far from the half turn. -/
theorem turnsIf_wholeAngle (leftward negative : Bool) {x y : Nat} (hne : x ≠ 0 ∨ y ≠ 0)
    (hdecided : Decided (Complex.arg (vector leftward x y))) :
    TurnsIf (turningPoint ≤ Complex.arg (vector leftward x y)) negative
      (wholeAngle binary64 leftward negative x y) := by
  rw [wholeAngle]
  split
  next haxis =>
    obtain rfl : leftward = false := by simpa using haxis.2
    refine .inr ⟨not_le.2 arg_lt_turningPoint, 0, _, rfl, ?_⟩
    rw [Nat.cast_zero, zero_mul]
    exact value_halfTurn_pos
  next haxis =>
    split
    next hflat =>
      -- to the right a flat vector has a small angle, which is far from the turning point
      obtain rfl : leftward = false := by simpa using hflat.2
      have hy : y ≠ 0 := fun h => haxis ⟨h, rfl⟩
      exact .inr ⟨not_le.2 arg_lt_turningPoint, shortOfHalfTurn_flat negative hy hflat.1⟩
    next => exact turnsIf_roundAngle leftward negative hne hdecided

/-! ## 4. The quotients next to the turning point -/

/-- Between two fractions whose cross products differ by one, every fraction has at least the
numerators and the denominators of both together. -/
theorem not_between {a₁ b₁ a₂ b₂ p q : Nat} (hnext : a₂ * b₁ = a₁ * b₂ + 1) (hlow : a₁ * q < p * b₁)
    (hhigh : p * b₂ < a₂ * q) : a₁ + a₂ ≤ p ∧ b₁ + b₂ ≤ q := by
  -- the fraction is a sum of the two, taken as often as the cross products differ
  obtain ⟨r, hr⟩ := Nat.exists_eq_add_of_lt hlow
  obtain ⟨s, hs⟩ := Nat.exists_eq_add_of_lt hhigh
  have hp : p = a₁ * (s + 1) + a₂ * (r + 1) := by
    zify at *
    linear_combination a₁ * hs + a₂ * hr - p * hnext
  have hq : q = b₁ * (s + 1) + b₂ * (r + 1) := by
    zify at *
    linear_combination b₁ * hs + b₂ * hr - q * hnext
  exact ⟨hp ▸ Nat.add_le_add (Nat.le_mul_of_pos_right _ s.succ_pos)
      (Nat.le_mul_of_pos_right _ r.succ_pos),
    hq ▸ Nat.add_le_add (Nat.le_mul_of_pos_right _ s.succ_pos)
      (Nat.le_mul_of_pos_right _ r.succ_pos)⟩

/-- The angle of a vector that points to the left. -/
theorem arg_vector_true {x : Nat} (hx : 0 < x) (y : Nat) :
    Complex.arg (vector true x y) = π - arctan (y / x) := by
  have hxR : (0 : ℝ) < x := by exact_mod_cast hx
  have hturn : Complex.arg (vector true x y) = π - Complex.arg ⟨x, y⟩ :=
    arg_neg_re hxR.le (Nat.cast_nonneg y) (.inl hxR.ne')
  rw [hturn, arg_eq_arctan hxR]

/-- A slope that is no greater than one at which the turning point is well passed. -/
theorem decided_of_le {x y : Nat} (hx : 0 < x)
    (h : 14148475504056879 * 2 ^ 204 + 2 ^ 16 ≤ (angle 256 true x y).lower) {slope : ℝ}
    (hslope : slope ≤ y / x) : Decided (π - arctan slope) := by
  have hlower := (Nat.cast_le (α := ℝ).2 h).trans (encloses_angle 256 true (.inl hx.ne')).lower_le
  rw [arg_vector_true hx] at hlower
  have hmono := arctan_mono hslope
  push_cast at hlower
  refine decided_of_add_le ?_
  rw [cast_turningPoint]
  linarith

/-- A slope that is no less than one at which the turning point is not reached. -/
theorem decided_of_ge {x y : Nat} (hx : 0 < x)
    (h : (angle 256 true x y).upper < 14148475504056879 * 2 ^ 204) {slope : ℝ}
    (hslope : (y / x : ℝ) ≤ slope) : Decided (π - arctan slope) := by
  have hupper := (encloses_angle 256 true (.inl hx.ne')).le_upper.trans_lt
    (Nat.cast_lt (α := ℝ).2 h)
  rw [arg_vector_true hx] at hupper
  have hmono := arctan_mono hslope
  push_cast at hupper
  refine .inl ?_
  rw [cast_turningPoint]
  linarith

/-- If the turning point lies between two neighbouring fractions, no quotient of numbers with
fewer digits than the two have together is near to it. -/
theorem decided_of_neighbours (a₁ b₁ a₂ b₂ : Nat) {k : Nat} (hb₁ : 0 < b₁) (hb₂ : 0 < b₂)
    (hnext : a₂ * b₁ = a₁ * b₂ + 1) (hlong : 2 ^ 53 ≤ a₁ + a₂)
    (hflat : 14148475504056879 * 2 ^ 204 + 2 ^ 16 ≤ (angle 256 true (b₁ * 2 ^ k) a₁).lower)
    (hsteep : (angle 256 true (b₂ * 2 ^ k) a₂).upper < 14148475504056879 * 2 ^ 204)
    {p q : Nat} (hp : p < 2 ^ 53) (hq : 0 < q) : Decided (π - arctan (p / (q * 2 ^ k))) := by
  -- slopes are compared by cross products, and the binade is a factor of both
  have hslope {a b c d : Nat} (hb : 0 < b) (hd : 0 < d) (h : a * d ≤ c * b) :
      (a / (b * 2 ^ k) : ℝ) ≤ c / (d * 2 ^ k) := by
    rw [div_le_div_iff₀ (by positivity) (by positivity), ← mul_assoc, ← mul_assoc]
    exact mul_le_mul_of_nonneg_right (by exact_mod_cast h) (by positivity)
  by_cases hlow : p * b₁ ≤ a₁ * q
  · refine decided_of_le (by positivity) hflat ?_
    push_cast
    exact hslope hq hb₁ hlow
  by_cases hhigh : a₂ * q ≤ p * b₂
  · refine decided_of_ge (by positivity) hsteep ?_
    push_cast
    exact hslope hb₂ hq hhigh
  · exact absurd (not_between hnext (not_le.1 hlow) (not_le.1 hhigh)).1 (by omega)

/-- The slope of a vector whose components fill the format is not near to the turning point. Its
exponent leaves two binades in which it could be. -/
theorem decided_slope {m n : Nat} (hm : 2 ^ 52 ≤ m) (hm' : m < 2 ^ 53) (hn : 2 ^ 52 ≤ n)
    (hn' : n < 2 ^ 53) (k : Int) : Decided (π - arctan (n / m * 2 ^ k)) := by
  have hmR : (2 ^ 52 : ℝ) ≤ m := by exact_mod_cast hm
  have hmR' : (m : ℝ) ≤ 2 ^ 53 := by exact_mod_cast hm'.le
  have hnR : (2 ^ 52 : ℝ) ≤ n := by exact_mod_cast hn
  have hnR' : (n : ℝ) ≤ 2 ^ 53 := by exact_mod_cast hn'.le
  have hmpos : (0 : ℝ) < m := by linarith
  have hatMost : (n / m : ℝ) ≤ 2 := by
    rw [div_le_iff₀ hmpos]
    linarith
  have hatLeast : (1 / 2 : ℝ) ≤ n / m := by
    rw [le_div_iff₀ hmpos]
    linarith
  have hbinade (places : Nat) : (n / m * 2 ^ (-places : Int) : ℝ) = n / (m * 2 ^ places) := by
    rw [zpow_neg, zpow_natCast, ← div_eq_mul_inv, div_div]
  -- below and above the two binades the slope is clearly too flat or too steep
  obtain hk | rfl | rfl | hk : k ≤ -53 ∨ k = -52 ∨ k = -51 ∨ -50 ≤ k := by omega
  · refine decided_of_le (x := 2 ^ 52) (y := 1) (by decide) (by decide +kernel) ?_
    calc (n / m * 2 ^ k : ℝ) ≤ 2 * 2 ^ (-53 : Int) :=
          mul_le_mul hatMost (zpow_le_zpow_right₀ one_le_two hk) (by positivity) two_pos.le
      _ = (1 : Nat) / (2 ^ 52 : Nat) := by norm_num
  · rw [show (-52 : Int) = -(52 : Nat) from rfl, hbinade]
    exact decided_of_neighbours 5126210624960031 3303967303845392 8687144564641178
      5599075751121025 (by decide) (by decide) (by decide) (by decide) (by decide +kernel)
      (by decide +kernel) hn' (by omega)
  · rw [show (-51 : Int) = -(51 : Nat) from rfl, hbinade]
    exact decided_of_neighbours 5126210624960031 6607934607690784 4343572282320589
      5599075751121025 (by decide) (by decide) (by decide) (by decide) (by decide +kernel)
      (by decide +kernel) hn' (by omega)
  · refine decided_of_ge (x := 2 ^ 51) (y := 1) (by decide) (by decide +kernel) ?_
    calc ((1 : Nat) / (2 ^ 51 : Nat) : ℝ) = 1 / 2 * 2 ^ (-50 : Int) := by norm_num
      _ ≤ n / m * 2 ^ k :=
        mul_le_mul hatLeast (zpow_le_zpow_right₀ one_le_two hk) (by positivity) (by positivity)

end InputScript.Binary
