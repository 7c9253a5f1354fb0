/-
Powers of the two bases, as whole numbers.

Both are plain repeated multiplication, named so that the formats and digits
below read in terms of their base.
-/

set_option autoImplicit false

namespace InputScript

/-- The power of two with exponent `k`. -/
def pow2 (k : Nat) : Nat := Nat.pow 2 k

/-- The power of ten with exponent `k`. -/
def pow10 (k : Nat) : Nat := Nat.pow 10 k

theorem pow2_succ (k : Nat) : pow2 (k + 1) = 2 * pow2 k :=
  Nat.mul_comm _ _

theorem pow2_pos (k : Nat) : 0 < pow2 k :=
  Nat.pow_pos (by decide)

theorem pow10_pos (k : Nat) : 0 < pow10 k :=
  Nat.pow_pos (by decide)

end InputScript
