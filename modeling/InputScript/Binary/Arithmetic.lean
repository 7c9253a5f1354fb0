/-
Products, quotients and comparison of floating-point numbers.
-/
import InputScript.Binary.Rounding

set_option autoImplicit false

namespace InputScript.Binary

/-- Two magnitudes `m * 2 ^ e` and `n * 2 ^ f` as whole numbers of one unit. -/
def aligned (m : Nat) (e : Int) (n : Nat) (f : Int) : Nat × Nat :=
  (timesPowerOfTwo m (e - f), timesPowerOfTwo n (f - e))

/-- The correctly rounded quotient. -/
def divide (format : BinaryFormat) : Binary → Binary → Binary
  | .nan, _ | _, .nan | .infinity _, .infinity _ => .nan
  | .infinity s, .finite t _ _ => .infinity (s != t)
  | .finite s _ _, .infinity t => zero format (s != t)
  | .finite s m e, .finite t n f =>
    if n = 0 then
      if m = 0 then .nan else .infinity (s != t)
    else
      let (numerator, denominator) := aligned m e n f
      roundQuotient format (s != t) numerator denominator

/-- The correctly rounded product. -/
def multiply (format : BinaryFormat) : Binary → Binary → Binary
  | .nan, _ | _, .nan => .nan
  | .infinity s, .infinity t => .infinity (s != t)
  | .infinity s, .finite t m _ | .finite s m _, .infinity t =>
    if m = 0 then .nan else .infinity (s != t)
  | .finite s m e, .finite t n f => roundScaled format (s != t) (m * n) (e + f)

/-- A magnitude with its sign. -/
def signed (negative : Bool) (magnitude : Nat) : Int :=
  if negative then -(magnitude : Int) else magnitude

/-- Whether `x` lies strictly below `y`; nothing is below or above a NaN. -/
def below : Binary → Binary → Bool
  | .nan, _ | _, .nan => false
  | .infinity s, .infinity t => s && !t
  | .infinity s, .finite .. => s
  | .finite .., .infinity t => !t
  | .finite s m e, .finite t n f =>
    let (left, right) := aligned m e n f
    signed s left < signed t right

/-- The lesser of a number and a limit (`min`). A NaN has no place below the
limit and gives way to it. -/
def capped (x limit : Binary) : Binary :=
  match x with
  | .nan => limit
  | x => if below limit x then limit else x

end InputScript.Binary
