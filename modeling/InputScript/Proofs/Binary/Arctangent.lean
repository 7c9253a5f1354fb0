/-
Bounds of angles are bounds of the angle.

The direction of a vector is found by summing Euler's series in whole numbers. That the
series is one of the arctangent is seen from its derivative: the derivative of a term is a
difference of two neighbours in a sequence of densities, so those of the first terms add up
to the derivative of the arctangent less one density. This bounds what is left of the
series on both sides. Rounding each term down adds an error that does not grow from term to
term, because each term is at most half of the one in front of it.
-/
import InputScript.Binary.Angle
import Mathlib

set_option autoImplicit false

namespace InputScript

open Finset Real

/-! ## 1. Euler's series -/

/-- The terms of Euler's series for the arctangent of `t`. -/
noncomputable def eulerTerm (t : ℝ) : Nat → ℝ
  | 0 => t / (1 + t ^ 2)
  | n + 1 => eulerTerm t n * ((2 * n + 2) / (2 * n + 3) * (t ^ 2 / (1 + t ^ 2)))

/-- The densities between which the derivatives of the terms lie. -/
noncomputable def eulerDensity (t : ℝ) : Nat → ℝ
  | 0 => 1 / (1 + t ^ 2)
  | n + 1 => eulerDensity t n * ((2 * n + 2) / (2 * n + 1) * (t ^ 2 / (1 + t ^ 2)))

/-- A term is a density times what the series divides by, which makes its derivative easy to
find. -/
theorem eulerTerm_eq (t : ℝ) (n : Nat) : eulerTerm t n = t * eulerDensity t n / (2 * n + 1) := by
  induction n with
  | zero => simp [eulerTerm, eulerDensity, div_eq_mul_inv]
  | succ n ih =>
    rw [eulerTerm, eulerDensity, ih]
    push_cast
    field_simp
    ring

/-- Densities are not negative, so sums of terms do not fall. -/
theorem eulerDensity_nonneg (t : ℝ) (n : Nat) : 0 ≤ eulerDensity t n := by
  induction n with
  | zero => rw [eulerDensity]; positivity
  | succ n ih => rw [eulerDensity]; positivity

theorem eulerTerm_zero (n : Nat) : eulerTerm 0 n = 0 := by
  rw [eulerTerm_eq, zero_mul, zero_div]

/-- The derivative of a term is what its density is above the next one. The induction is on the
term, with the product rule for the factor that is new. -/
theorem hasDerivAt_eulerTerm (n : Nat) (t : ℝ) :
    HasDerivAt (fun s => eulerTerm s n) (eulerDensity t n - eulerDensity t (n + 1)) t := by
  have hpos : 1 + t ^ 2 ≠ 0 := by positivity
  have hbase : HasDerivAt (fun s : ℝ => 1 + s ^ 2) (2 * t) t := by
    simpa using (hasDerivAt_pow 2 t).const_add 1
  induction n with
  | zero =>
    refine ((hasDerivAt_id' t).fun_div hbase hpos).congr_deriv ?_
    simp only [eulerDensity]
    field_simp
    push_cast
    ring
  | succ n ih =>
    -- the term in front and its derivative are both multiples of one density
    have hshare := (hasDerivAt_pow 2 t).fun_div hbase hpos
    have hratio := hshare.const_mul ((2 * n + 2) / (2 * n + 3) : ℝ)
    refine (ih.fun_mul hratio).congr_deriv ?_
    simp only [eulerTerm_eq, eulerDensity]
    field_simp
    push_cast
    ring

/-- A leg no longer than the base has at most half of the square of the hypotenuse. -/
theorem square_div_le_half {t : ℝ} (ht : 0 ≤ t) (hone : t ≤ 1) : t ^ 2 / (1 + t ^ 2) ≤ 1 / 2 := by
  have hsquare : t ^ 2 ≤ 1 := pow_le_one₀ ht hone
  rw [div_le_iff₀ (by positivity)]
  linarith

/-- A function that starts at zero and does not fall is not negative. -/
theorem nonneg_of_hasDerivAt {f f' : ℝ → ℝ} (hf : ∀ s, HasDerivAt f (f' s) s) (hzero : f 0 = 0)
    {t : ℝ} (ht : 0 ≤ t) (hnonneg : ∀ s ∈ Set.Icc 0 t, 0 ≤ f' s) : 0 ≤ f t := by
  have hmono : MonotoneOn f (Set.Icc 0 t) := by
    refine monotoneOn_of_deriv_nonneg (convex_Icc 0 t)
      (fun s _ => (hf s).continuousAt.continuousWithinAt)
      (fun s _ => (hf s).differentiableAt.differentiableWithinAt) fun s hs => ?_
    rw [(hf s).deriv]
    exact hnonneg s (interior_subset hs)
  rw [← hzero]
  exact hmono (Set.left_mem_Icc.2 ht) (Set.right_mem_Icc.2 ht) ht

/-- What the first terms leave of the arctangent grows with the density of the next term. -/
theorem hasDerivAt_arctan_sub_sum (count : Nat) (t : ℝ) :
    HasDerivAt (fun s => arctan s - ∑ n ∈ range count, eulerTerm s n) (eulerDensity t count) t := by
  have hsum := HasDerivAt.fun_sum fun n (_ : n ∈ range count) => hasDerivAt_eulerTerm n t
  refine ((hasDerivAt_arctan t).fun_sub hsum).congr_deriv ?_
  -- the derivatives of the terms telescope, and the first density is that of the arctangent
  rw [sum_range_sub', eulerDensity]
  ring

/-- The first terms of the series do not pass the arctangent. -/
theorem sum_eulerTerm_le_arctan (count : Nat) {t : ℝ} (ht : 0 ≤ t) :
    ∑ n ∈ range count, eulerTerm t n ≤ arctan t := by
  have hrest := nonneg_of_hasDerivAt (hasDerivAt_arctan_sub_sum count)
    (by simp [eulerTerm_zero]) ht fun s _ => eulerDensity_nonneg s count
  exact sub_nonneg.1 hrest

/-- What is left behind the first terms is at most three times the next one. -/
theorem arctan_le_sum_eulerTerm {count : Nat} (hcount : 0 < count) {t : ℝ} (ht : 0 ≤ t)
    (hone : t ≤ 1) :
    arctan t ≤ ∑ n ∈ range count, eulerTerm t n + 3 * eulerTerm t count := by
  have hrest := nonneg_of_hasDerivAt (fun s => ((hasDerivAt_eulerTerm count s).const_mul 3).fun_sub
    (hasDerivAt_arctan_sub_sum count s)) (by simp [eulerTerm_zero]) ht ?_
  · linarith
  · -- from the second density on each is at most two thirds of the one in front of it
    intro s hs
    have hs1 : s ≤ 1 := hs.2.trans hone
    have hcountR : (1 : ℝ) ≤ count := by exact_mod_cast hcount
    have hshare : (2 * count + 2) / (2 * count + 1) * (s ^ 2 / (1 + s ^ 2)) ≤ (2 / 3 : ℝ) := by
      have hleft : (2 * count + 2) / (2 * count + 1) ≤ (4 / 3 : ℝ) := by
        rw [div_le_iff₀ (by positivity)]
        linarith
      calc (2 * count + 2) / (2 * count + 1) * (s ^ 2 / (1 + s ^ 2)) ≤ (4 / 3 * (1 / 2) : ℝ) :=
            mul_le_mul hleft (square_div_le_half hs.1 hs1) (by positivity) (by norm_num)
        _ = 2 / 3 := by norm_num
    have hdensity := eulerDensity_nonneg s count
    have hnext : eulerDensity s (count + 1) ≤ eulerDensity s count * (2 / 3) :=
      mul_le_mul_of_nonneg_left hshare hdensity
    linarith

/-! ## 2. Sums of whole numbers -/

section Series

variable {t : ℝ}

/-- The quotient of a term and the one in front of it. -/
theorem ratio_bounds (ht : 0 ≤ t) (hone : t ≤ 1) (n : Nat) :
    0 ≤ (2 * n + 2) / (2 * n + 3) * (t ^ 2 / (1 + t ^ 2)) ∧
      (2 * n + 2) / (2 * n + 3) * (t ^ 2 / (1 + t ^ 2)) ≤ 1 / 2 := by
  have hleft : (2 * n + 2) / (2 * n + 3) ≤ (1 : ℝ) := by
    rw [div_le_one (by positivity)]
    linarith
  refine ⟨by positivity, ?_⟩
  calc (2 * n + 2) / (2 * n + 3) * (t ^ 2 / (1 + t ^ 2)) ≤ (1 * (1 / 2) : ℝ) :=
        mul_le_mul hleft (square_div_le_half ht hone) (by positivity) zero_le_one
    _ = 1 / 2 := one_mul _

/-- Terms shrink by a half each time. -/
theorem eulerTerm_le (ht : 0 ≤ t) (hone : t ≤ 1) (n : Nat) : eulerTerm t n ≤ (1 / 2) ^ (n + 1) := by
  induction n with
  | zero =>
    rw [eulerTerm, zero_add, pow_one, div_le_iff₀ (by positivity)]
    linarith [sq_nonneg (1 - t)]
  | succ n ih =>
    obtain ⟨hratio, hhalf⟩ := ratio_bounds ht hone n
    rw [eulerTerm, pow_succ (1 / 2 : ℝ)]
    exact mul_le_mul ih hhalf hratio (by positivity)

/-- Rounding a quotient down takes less than one from it. -/
theorem cast_div_bounds (a b : Nat) :
    (a : ℝ) / b - 1 ≤ (a / b : Nat) ∧ ((a / b : Nat) : ℝ) ≤ a / b := by
  refine ⟨?_, Nat.cast_div_le⟩
  rw [← Nat.floor_div_eq_div (K := ℝ)]
  exact (Nat.sub_one_lt_floor _).le

variable {square total bits : Nat}

/-- A term that is rounded down from one that is less than two below its place in the series
is so, too: of what is missing, at most half is passed on. -/
theorem next_bounds (ht : 0 ≤ t) (hone : t ≤ 1)
    (hshare : (square : ℝ) / total = t ^ 2 / (1 + t ^ 2)) {n term : Nat}
    (hlow : eulerTerm t n * 2 ^ bits - 2 ≤ term) (hhigh : term ≤ eulerTerm t n * 2 ^ bits) :
    eulerTerm t (n + 1) * 2 ^ bits - 2 ≤
        (term * ((2 * n + 2) * square) / ((2 * n + 3) * total) : Nat) ∧
      ((term * ((2 * n + 2) * square) / ((2 * n + 3) * total) : Nat) : ℝ) ≤
        eulerTerm t (n + 1) * 2 ^ bits := by
  obtain ⟨hratio, hhalf⟩ := ratio_bounds ht hone n
  obtain ⟨hfloor, hle⟩ :=
    cast_div_bounds (term * ((2 * n + 2) * square)) ((2 * n + 3) * total)
  have hquotient : ((term * ((2 * n + 2) * square) : Nat) : ℝ) / ((2 * n + 3) * total : Nat) =
      term * ((2 * n + 2) / (2 * n + 3) * (t ^ 2 / (1 + t ^ 2))) := by
    rw [← hshare]
    push_cast
    rw [mul_div_assoc, mul_div_mul_comm]
  rw [hquotient] at hfloor hle
  have hnext : eulerTerm t (n + 1) * 2 ^ bits =
      eulerTerm t n * 2 ^ bits * ((2 * n + 2) / (2 * n + 3) * (t ^ 2 / (1 + t ^ 2))) := by
    rw [eulerTerm]
    ring
  rw [hnext]
  -- all that counts of the factor is that it is at most a half
  generalize (2 * n + 2) / (2 * n + 3) * (t ^ 2 / (1 + t ^ 2)) = ratio at *
  constructor
  · have hpassed := mul_le_mul_of_nonneg_right hlow hratio
    linarith
  · exact hle.trans (mul_le_mul_of_nonneg_right hhigh hratio)

/-- A sum of terms that are rounded down is less than two a term below the sum. -/
theorem seriesFrom_bounds (ht : 0 ≤ t) (hone : t ≤ 1)
    (hshare : (square : ℝ) / total = t ^ 2 / (1 + t ^ 2)) (count : Nat) {n term : Nat}
    (hlow : eulerTerm t n * 2 ^ bits - 2 ≤ term) (hhigh : term ≤ eulerTerm t n * 2 ^ bits) :
    (∑ i ∈ range count, eulerTerm t (n + i)) * 2 ^ bits - 2 * count ≤
        Enclosure.seriesFrom square total count n term ∧
      (Enclosure.seriesFrom square total count n term : ℝ) ≤
        (∑ i ∈ range count, eulerTerm t (n + i)) * 2 ^ bits := by
  induction count generalizing n term with
  | zero => simp [Enclosure.seriesFrom]
  | succ count ih =>
    obtain ⟨hnextLow, hnextHigh⟩ := next_bounds ht hone hshare hlow hhigh
    obtain ⟨hrestLow, hrestHigh⟩ := ih hnextLow hnextHigh
    -- the series is added from its first term on, so the hypothesis is about the next one
    have hsum : ∑ i ∈ range (count + 1), eulerTerm t (n + i) =
        ∑ i ∈ range count, eulerTerm t (n + 1 + i) + eulerTerm t n := by
      rw [sum_range_succ', Nat.add_zero]
      congr 1
      exact sum_congr rfl fun i _ => by rw [Nat.add_assoc, Nat.add_comm 1 i]
    rw [Enclosure.seriesFrom, hsum]
    push_cast
    constructor <;> linarith

end Series

/-! ## 3. Enclosures -/

namespace Enclosure

/-- The bounds are bounds of the number, in units of `2 ^ -bits`. -/
structure Encloses (bounds : Enclosure) (bits : Nat) (number : ℝ) : Prop where
  lower_le : (bounds.lower : ℝ) ≤ number * 2 ^ bits
  le_upper : number * 2 ^ bits ≤ bounds.upper

/-- The sum of rounded terms and what was added for the error enclose the arctangent. -/
theorem encloses_arctangent (bits : Nat) {leg base : Nat} (hbase : 0 < base) (hle : leg ≤ base) :
    (arctangent bits leg base).Encloses bits (arctan (leg / base)) := by
  have hbaseR : (0 : ℝ) < base := by exact_mod_cast hbase
  have hleR : (leg : ℝ) ≤ base := by exact_mod_cast hle
  have ht : (0 : ℝ) ≤ leg / base := by positivity
  have hone : (leg / base : ℝ) ≤ 1 := (div_le_one hbaseR).2 hleR
  -- the whole numbers of the sum stand for the factors of the series
  have hshare : ((leg * leg : Nat) : ℝ) / (leg * leg + base * base : Nat) =
      (leg / base) ^ 2 / (1 + (leg / base) ^ 2) := by
    push_cast
    field_simp
    ring
  have hfirst : (((leg * base) <<< bits : Nat) : ℝ) / (leg * leg + base * base : Nat) =
      eulerTerm (leg / base) 0 * 2 ^ bits := by
    rw [eulerTerm, Nat.shiftLeft_eq]
    push_cast
    field_simp
    ring
  obtain ⟨hfloor, hfirstLe⟩ := cast_div_bounds ((leg * base) <<< bits) (leg * leg + base * base)
  rw [hfirst] at hfloor hfirstLe
  -- the first term is rounded down once, which is within the error that every term may have
  obtain ⟨hlow, hhigh⟩ := seriesFrom_bounds ht hone hshare (bits + 2) (by linarith) hfirstLe
  simp only [zero_add] at hlow hhigh
  have hpower : (0 : ℝ) < 2 ^ bits := by positivity
  constructor
  · exact hhigh.trans (mul_le_mul_of_nonneg_right (sum_eulerTerm_le_arctan _ ht) hpower.le)
  · -- the terms that are left out come to less than one unit
    have hrest : 3 * eulerTerm (leg / base) (bits + 2) * 2 ^ bits ≤ 1 := by
      calc 3 * eulerTerm (leg / base) (bits + 2) * 2 ^ bits
          ≤ 3 * (1 / 2) ^ (bits + 2 + 1) * 2 ^ bits := by gcongr; exact eulerTerm_le ht hone _
        _ = 3 / 8 * ((1 / 2) * 2) ^ bits := by rw [mul_pow]; ring
        _ ≤ 1 := by norm_num
    have hsum := mul_le_mul_of_nonneg_right
      (arctan_le_sum_eulerTerm (Nat.succ_pos (bits + 1)) ht hone) hpower.le
    rw [add_mul] at hsum
    rw [arctangent]
    push_cast at hlow ⊢
    linarith

variable {bits : Nat} {a b : Enclosure} {r s : ℝ}

/-- Bounds of a number give bounds of its multiples. -/
theorem Encloses.times (k : Nat) (h : a.Encloses bits r) : (a.times k).Encloses bits (k * r) := by
  obtain ⟨hlow, hhigh⟩ := h
  have hk : (0 : ℝ) ≤ k := Nat.cast_nonneg k
  have hlow' := mul_le_mul_of_nonneg_left hlow hk
  have hhigh' := mul_le_mul_of_nonneg_left hhigh hk
  constructor <;> (rw [Enclosure.times]; push_cast; linarith)

/-- The lower bound of a difference that is not negative may be cut off at zero. -/
theorem Encloses.minus (ha : a.Encloses bits r) (hb : b.Encloses bits s) (h : s ≤ r) :
    (a.minus b).Encloses bits (r - s) := by
  have hdifference : 0 ≤ (r - s) * 2 ^ bits := mul_nonneg (sub_nonneg.2 h) (by positivity)
  have hparts : (r - s) * 2 ^ bits = r * 2 ^ bits - s * 2 ^ bits := sub_mul _ _ _
  have hlow := ha.lower_le
  have hhigh := ha.le_upper
  have hsub := hb.lower_le
  have hsup := hb.le_upper
  constructor
  · -- the difference is cut off at zero, and that of the numbers is not negative either
    rcases Nat.le_total b.upper a.lower with hle | hle
    · rw [Enclosure.minus, Nat.cast_sub hle]
      linarith
    · rw [Enclosure.minus, Nat.sub_eq_zero_of_le hle, Nat.cast_zero]
      exact hdifference
  · have hle : b.lower ≤ a.upper := by
      exact_mod_cast (by linarith : (b.lower : ℝ) ≤ a.upper)
    rw [Enclosure.minus, Nat.cast_sub hle]
    linarith

theorem cast_one_shiftLeft (bits : Nat) : ((1 <<< bits : Nat) : ℝ) = 2 ^ bits := by
  rw [Nat.one_shiftLeft, Nat.cast_pow, Nat.cast_ofNat]

/-- The bounds as quotients. -/
theorem Encloses.div_bounds (h : a.Encloses bits r) :
    (a.lower : ℝ) / (1 <<< bits : Nat) ≤ r ∧ r ≤ (a.upper : ℝ) / (1 <<< bits : Nat) := by
  have hpower : (0 : ℝ) < 2 ^ bits := by positivity
  rw [cast_one_shiftLeft, div_le_iff₀ hpower, le_div_iff₀ hpower]
  exact ⟨h.lower_le, h.le_upper⟩

/-- A quarter of π is enclosed as the arctangent of one. -/
theorem encloses_quarterPi (bits : Nat) : (quarterPi bits).Encloses bits (π / 4) := by
  have h := encloses_arctangent bits Nat.one_pos le_rfl
  rwa [Nat.cast_one, div_one, arctan_one] at h

end Enclosure

/-! ## 4. Angles -/

/-- The angle of a vector to the right is the arctangent of its slope. -/
theorem arg_eq_arctan {x : ℝ} (hx : 0 < x) (y : ℝ) : Complex.arg ⟨x, y⟩ = arctan (y / x) := by
  have hlt : |Complex.arg ⟨x, y⟩| < π / 2 := Complex.abs_arg_lt_pi_div_two_iff.2 (.inl hx)
  obtain ⟨hlow, hhigh⟩ := abs_lt.1 hlt
  rw [← arctan_tan hlow hhigh, Complex.tan_arg]

/-- The angle of a vector that points up is what the arctangent of the other slope leaves of a
right angle. -/
theorem arg_eq_sub_arctan {x y : ℝ} (hx : 0 ≤ x) (hy : 0 < y) :
    Complex.arg ⟨x, y⟩ = π / 2 - arctan (x / y) := by
  rcases hx.eq_or_lt with rfl | hpos
  · rw [zero_div, arctan_zero, sub_zero]
    exact Complex.arg_eq_pi_div_two_iff.2 ⟨rfl, hy⟩
  · rw [arg_eq_arctan hpos, ← arctan_inv_of_pos (div_pos hpos hy), inv_div]

/-- Turning a vector over to the other side of the first axis. -/
theorem arg_neg_im (x : ℝ) {y : ℝ} (hy : 0 < y) :
    Complex.arg ⟨x, -y⟩ = -Complex.arg ⟨x, y⟩ := by
  have hne : Complex.arg ⟨x, y⟩ ≠ π := fun h => hy.ne' (Complex.arg_eq_pi_iff.1 h).2
  have hconj := Complex.arg_conj ⟨x, y⟩
  rwa [if_neg hne] at hconj

/-- Turning a vector over to the other side of the second axis. -/
theorem arg_neg_re {x y : ℝ} (hx : 0 ≤ x) (hy : 0 ≤ y) (hne : x ≠ 0 ∨ y ≠ 0) :
    Complex.arg ⟨-x, y⟩ = π - Complex.arg ⟨x, y⟩ := by
  rcases hy.eq_or_lt with rfl | hpos
  · have hx : 0 < x := hx.lt_of_ne' (hne.resolve_right fun h => h rfl)
    rw [Complex.arg_eq_pi_iff.2 ⟨neg_neg_of_pos hx, rfl⟩,
      Complex.arg_eq_zero_iff.2 ⟨hx.le, rfl⟩, sub_zero]
  · have hneg := Complex.arg_neg_eq_arg_add_pi_of_im_neg (x := ⟨x, -y⟩) (neg_neg_of_pos hpos)
    have hvector : -(⟨x, -y⟩ : ℂ) = ⟨-x, y⟩ := Complex.ext rfl (neg_neg y)
    rw [hvector, arg_neg_im x hpos] at hneg
    rw [hneg, neg_add_eq_sub]

namespace Enclosure

/-- The vector `(± x, y)`. -/
def vector (leftward : Bool) (x y : Nat) : ℂ := ⟨if leftward then -x else x, y⟩

/-- **Bounds of angles.** The bounds that are found for the angle of a vector are bounds of it,
whatever the unit. -/
theorem encloses_angle (bits : Nat) (leftward : Bool) {x y : Nat} (hne : x ≠ 0 ∨ y ≠ 0) :
    (angle bits leftward x y).Encloses bits (Complex.arg (vector leftward x y)) := by
  have hx : (0 : ℝ) ≤ x := Nat.cast_nonneg x
  have hy : (0 : ℝ) ≤ y := Nat.cast_nonneg y
  -- the octant decides which arctangent is taken and what it is taken from
  have hquarter := encloses_quarterPi bits
  have hacute : (if y ≤ x then arctangent bits y x
      else ((quarterPi bits).times 2).minus (arctangent bits x y)).Encloses bits
        (Complex.arg ⟨x, y⟩) := by
    split
    next hle =>
      have hpos : 0 < x := by omega
      rw [arg_eq_arctan (by exact_mod_cast hpos)]
      exact encloses_arctangent bits hpos hle
    next hgt =>
      have hpos : 0 < y := by omega
      have hhalf := hquarter.times 2
      rw [show ((2 : Nat) : ℝ) * (π / 4) = π / 2 by push_cast; ring] at hhalf
      rw [arg_eq_sub_arctan hx (by exact_mod_cast hpos)]
      exact hhalf.minus (encloses_arctangent bits hpos (by omega)) (arctan_lt_pi_div_two _).le
  rw [angle]
  cases leftward with
  | false => exact hacute
  | true =>
    have hturn := hquarter.times 4
    rw [show ((4 : Nat) : ℝ) * (π / 4) = π by push_cast; ring] at hturn
    have harg : Complex.arg (vector true x y) = π - Complex.arg ⟨x, y⟩ :=
      arg_neg_re hx hy (by exact_mod_cast hne)
    rw [harg]
    exact hturn.minus hacute (Complex.arg_le_pi _)

end Enclosure

end InputScript
