/-
What the controller holds down in one frame.
-/
import InputScript.Pad.Buttons
import InputScript.Pad.Stick

set_option autoImplicit false

namespace InputScript.Pad

/-- The state of the controller (`Instruction`): the buttons that are down and
both sticks. -/
structure PadState where
  buttons : ButtonSet
  left : Stick
  right : Stick
deriving DecidableEq

end InputScript.Pad
