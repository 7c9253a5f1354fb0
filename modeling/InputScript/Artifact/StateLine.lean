/-
A controller state on one line, for the log.
-/
import InputScript.Decimal.Layout
import InputScript.Pad.State

set_option autoImplicit false

namespace InputScript.Artifact

open InputScript.Pad

/-- A number with the shortest digits of its double-precision value. -/
def numberText : Binary → String
  | .nan => "NaN"
  | .infinity negative => if negative then "-inf" else "inf"
  | .finite negative significand exponent =>
    String.ofList (DecimalLayout.plain.writeFinite binary64 negative significand exponent)

/-- A stick on one line. -/
def stickLine (stick : Stick) : String :=
  "Stick \x7b x: " ++ numberText stick.x ++ ", y: " ++ numberText stick.y
    ++ ", power: " ++ numberText stick.power ++ ", angle: " ++ numberText stick.angle ++ " \x7d"

/-- A controller state on one line (`Debug` of `Instruction`). -/
def stateLine (state : PadState) : String :=
  "Instruction \x7b buttons: \x7b"
    ++ ", ".intercalate (state.buttons.codes.map fun code => code.toNat.repr)
    ++ "\x7d, left_stick: " ++ stickLine state.left
    ++ ", right_stick: " ++ stickLine state.right ++ " \x7d"

end InputScript.Artifact
