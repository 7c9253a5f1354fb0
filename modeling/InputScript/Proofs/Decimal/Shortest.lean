/-
The search for the shortest decimal succeeds.

Each grid of the search is either without a point in the window or ends it, and a grid
whose step is no greater than a quarter of the last place has a point there. For double
precision the last of the grids is as fine as that: this is checked exponent by exponent.
So the decimal lies in the window of the number, which keeps it from being zero and from
passing twice the number.
-/
import InputScript.Decimal.Shortest
import InputScript.Proofs.Binary.Rounding

set_option autoImplicit false

namespace InputScript.Decimal

/-! ## 1. One grid -/

/-- What is found on a grid lies in the window. -/
theorem mem_window_of_onGrid? {rule : TieRule} {window : Window} {step digits : Nat}
    (h : onGrid? rule window step = some digits) :
    window.lower ≤ digits * step ∧ digits * step ≤ window.upper := by
  have hinside : ∀ n, (if window.closed then
      (window.lower ≤ n * step && n * step ≤ window.upper : Bool)
      else (window.lower < n * step && n * step < window.upper : Bool)) = true →
        window.lower ≤ n * step ∧ n * step ≤ window.upper := by
    intro n hn
    split at hn
    · simpa using hn
    · simp only [Bool.and_eq_true, decide_eq_true_eq] at hn
      omega
  -- both neighbours in the window, one of them, or none
  rw [onGrid?] at h
  split at h
  next hfloor hnext =>
    obtain rfl := Option.some_inj.1 h
    split
    · exact hinside _ hnext
    · exact hinside _ hfloor
  next hfloor _ =>
    obtain rfl := Option.some_inj.1 h
    exact hinside _ hfloor
  next _ hnext =>
    obtain rfl := Option.some_inj.1 h
    exact hinside _ hnext
  next => cases h

/-- On a fine grid there is something to find: the neighbour below the value. -/
theorem onGrid?_ne_none {rule : TieRule} {window : Window} {step : Nat} (hstep : 0 < step)
    (hlower : window.lower + step ≤ window.value) (hupper : window.value < window.upper) :
    onGrid? rule window step ≠ none := by
  -- the neighbour below is less than a step away, and a step is the room that there is
  have hvalue := Nat.div_add_mod' window.value step
  have hmod := Nat.mod_lt window.value hstep
  have hinside : (if window.closed then
      (window.lower ≤ window.value / step * step &&
        window.value / step * step ≤ window.upper : Bool)
      else (window.lower < window.value / step * step &&
        window.value / step * step < window.upper : Bool)) = true := by
    split
    · simp only [Bool.and_eq_true, decide_eq_true_eq]
      omega
    · simp only [Bool.and_eq_true, decide_eq_true_eq]
      omega
  rw [onGrid?]
  split
  next => exact Option.some_ne_none _
  next => exact Option.some_ne_none _
  next hfloor _ => exact absurd (hinside.symm.trans hfloor) (by decide)
  next hfloor _ => exact absurd (hinside.symm.trans hfloor) (by decide)

/-! ## 2. The search -/

/-- A decimal that lies in a window of the given unit. -/
structure InWindow (window : Window) (unit : Int) (decimal : Decimal) : Prop where
  lower_le : (window.lower : ℚ) * 2 ^ unit ≤ decimal.digits * 10 ^ decimal.exponent
  le_upper : (decimal.digits : ℚ) * 10 ^ decimal.exponent ≤ window.upper * 2 ^ unit

/-- The unit of a search on a grid, as a whole number. -/
def scaleOn (unit grid : Int) : Nat := pow2 unit.toNat * pow10 (-grid).toNat

/-- The step of a grid in the same measure. -/
def stepOn (unit grid : Int) : Nat := pow2 (-unit).toNat * pow10 grid.toNat

/-- A window in the measure of a grid. -/
def Window.times (window : Window) (scale : Nat) : Window where
  lower := window.lower * scale
  value := window.value * scale
  upper := window.upper * scale
  closed := window.closed

/-- The search takes the grid it stands on, or goes on with the one that is ten times finer. -/
theorem search_succ (rule : TieRule) (window : Window) (unit : Int) (fuel : Nat) (grid : Int) :
    search rule window unit (fuel + 1) grid =
      match onGrid? rule (window.times (scaleOn unit grid)) (stepOn unit grid) with
      | some digits => ⟨digits, grid⟩
      | none => search rule window unit fuel (grid - 1) := rfl

theorem scaleOn_pos (unit grid : Int) : 0 < scaleOn unit grid :=
  Nat.mul_pos (pow2_pos _) (pow10_pos _)

theorem stepOn_pos (unit grid : Int) : 0 < stepOn unit grid :=
  Nat.mul_pos (pow2_pos _) (pow10_pos _)

/-- The unit and the step of a grid have a common denominator. -/
theorem exists_denominator (unit grid : Int) : ∃ denominator : ℚ, 0 < denominator ∧
    (scaleOn unit grid : ℚ) = 2 ^ unit * denominator ∧
    (stepOn unit grid : ℚ) = 10 ^ grid * denominator := by
  refine ⟨2 ^ (-unit).toNat * 10 ^ (-grid).toNat, by positivity, ?_, ?_⟩
  · rw [scaleOn, Nat.cast_mul, cast_pow2, cast_pow10,
      ← zpow_mul_pow_toNat_neg two_ne_zero unit, mul_assoc]
  · rw [stepOn, Nat.cast_mul, cast_pow2, cast_pow10,
      ← zpow_mul_pow_toNat_neg (by norm_num) grid]
    ring

variable {rule : TieRule} {window : Window} {unit grid : Int}

/-- A grid is finer than a unit when its power of ten is at most the power of two. -/
theorem stepOn_le_scaleOn_iff : stepOn unit grid ≤ scaleOn unit grid ↔
    (10 : ℚ) ^ grid ≤ 2 ^ unit := by
  obtain ⟨denominator, hpos, hscale, hstep⟩ := exists_denominator unit grid
  rw [← Nat.cast_le (α := ℚ), hscale, hstep, mul_le_mul_iff_left₀ hpos]

/-- What a grid gives lies in the window, in the measure of the window. -/
theorem inWindow_of_onGrid? {digits : Nat}
    (h : onGrid? rule (window.times (scaleOn unit grid)) (stepOn unit grid) = some digits) :
    InWindow window unit ⟨digits, grid⟩ := by
  obtain ⟨denominator, hpos, hscale, hstep⟩ := exists_denominator unit grid
  obtain ⟨hlower, hupper⟩ := mem_window_of_onGrid? h
  rw [← Nat.cast_le (α := ℚ)] at hlower hupper
  -- the common denominator is cancelled on both sides
  simp only [Window.times, Nat.cast_mul, hscale, hstep, ← mul_assoc,
    mul_le_mul_iff_left₀ hpos] at hlower hupper
  exact ⟨hlower, hupper⟩

/-- A search whose last grid is fine enough ends in the window. -/
theorem inWindow_search (hlower : window.lower < window.value) (hupper : window.value < window.upper)
    (fuel : Nat) (hfine : (10 : ℚ) ^ (grid - fuel) ≤ 2 ^ unit) :
    InWindow window unit (search rule window unit (fuel + 1) grid) := by
  -- the last grid is the one that is known to be fine, and the search may end before it
  induction fuel generalizing grid with
  | zero =>
    have hstep : stepOn unit grid ≤ scaleOn unit grid := by
      rw [stepOn_le_scaleOn_iff]
      simpa using hfine
    have hsome : onGrid? rule (window.times (scaleOn unit grid)) (stepOn unit grid) ≠ none := by
      apply onGrid?_ne_none (stepOn_pos unit grid)
      · calc window.lower * scaleOn unit grid + stepOn unit grid
            ≤ (window.lower + 1) * scaleOn unit grid := by rw [Nat.succ_mul]; omega
          _ ≤ window.value * scaleOn unit grid := Nat.mul_le_mul_right _ hlower
      · exact Nat.mul_lt_mul_of_pos_right hupper (scaleOn_pos unit grid)
    obtain ⟨digits, hdigits⟩ := Option.ne_none_iff_exists'.1 hsome
    rw [search_succ, hdigits]
    exact inWindow_of_onGrid? hdigits
  | succ fuel ih =>
    rw [search_succ]
    cases hdigits : onGrid? rule (window.times (scaleOn unit grid)) (stepOn unit grid) with
    | some digits => exact inWindow_of_onGrid? hdigits
    | none =>
      apply ih
      rwa [sub_sub, add_comm, ← Nat.cast_succ]

/-! ## 3. Double precision -/

/-- The grids of a double-precision search, from one above the number on, become as fine as
a quarter of its last place. -/
theorem last_grid_fine {exponent : Int} (hmin : -1074 ≤ exponent) (hmax : exponent ≤ 971) :
    (10 : ℚ) ^ (topGrid (53 + exponent) - 23) ≤ 2 ^ (exponent - 2) := by
  have hsweep : ∀ i : Nat, i < 2046 →
      stepOn ((i : Int) - 1076) (topGrid ((i : Int) - 1021) - 23) ≤
        scaleOn ((i : Int) - 1076) (topGrid ((i : Int) - 1021) - 23) := by
    decide +kernel
  have hat := hsweep (exponent + 1074).toNat (by omega)
  have hunit : ((exponent + 1074).toNat : Int) - 1076 = exponent - 2 := by omega
  have hbits : ((exponent + 1074).toNat : Int) - 1021 = 53 + exponent := by omega
  rwa [stepOn_le_scaleOn_iff, hunit, hbits] at hat

theorem topGrid_mono {a b : Int} (h : a ≤ b) : topGrid a ≤ topGrid b := by
  rw [topGrid, topGrid]
  omega

/-- The shortest decimal of a number is not zero, and at most twice the number. -/
theorem shortest_spec (rule : TieRule) {significand : Nat} {exponent : Int}
    (hpos : 0 < significand) (hlt : significand < 2 ^ 53) (hmin : -1074 ≤ exponent)
    (hmax : exponent ≤ 971) :
    0 < (shortest binary64 rule significand exponent).digits ∧
      ((shortest binary64 rule significand exponent).digits : ℚ)
        * 10 ^ (shortest binary64 rule significand exponent).exponent ≤
          2 * (significand * 2 ^ exponent) := by
  have hbits : significand.log2 < 53 := (Nat.log2_lt hpos.ne').2 hlt
  have hfine : (10 : ℚ) ^ (topGrid (significand.log2 + 1 + exponent) - (23 : Nat)) ≤
      2 ^ (exponent - 2) := by
    refine le_trans (zpow_le_zpow_right₀ (by norm_num) ?_) (last_grid_fine hmin hmax)
    have := topGrid_mono (a := significand.log2 + 1 + exponent) (b := 53 + exponent) (by omega)
    omega
  have hwindow : InWindow (window binary64 significand exponent) (exponent - 2)
      (shortest binary64 rule significand exponent) :=
    inWindow_search (by simp only [window]; split <;> omega) (by simp only [window]; omega) 23 hfine
  generalize shortest binary64 rule significand exponent = decimal at hwindow
  have hunit : (0 : ℚ) < 2 ^ (exponent - 2) := by positivity
  have hquarter : (2 : ℚ) ^ exponent = 4 * 2 ^ (exponent - 2) := by
    rw [zpow_sub₀ two_ne_zero]
    norm_num
    ring
  constructor
  · -- the window is above zero, and so is the decimal
    have hlow : 0 < (window binary64 significand exponent).lower := by
      simp only [window]
      split <;> omega
    have hlowQ : (0 : ℚ) < (window binary64 significand exponent).lower := by exact_mod_cast hlow
    have hdecimal := (mul_pos hlowQ hunit).trans_le hwindow.lower_le
    rcases Nat.eq_zero_or_pos decimal.digits with hzero | hdigits
    · rw [hzero, Nat.cast_zero, zero_mul] at hdecimal
      exact absurd hdecimal (lt_irrefl 0)
    · exact hdigits
  · refine hwindow.le_upper.trans ?_
    -- in quarters of a last place the window ends half a place above the number
    have hupper : (window binary64 significand exponent).upper ≤ 8 * significand := by
      simp only [window]
      omega
    rw [hquarter]
    have hupperQ : ((window binary64 significand exponent).upper : ℚ) ≤ 8 * significand := by
      exact_mod_cast hupper
    calc ((window binary64 significand exponent).upper : ℚ) * 2 ^ (exponent - 2)
        ≤ 8 * significand * 2 ^ (exponent - 2) := by gcongr
      _ = 2 * (significand * (4 * 2 ^ (exponent - 2))) := by ring

end InputScript.Decimal
