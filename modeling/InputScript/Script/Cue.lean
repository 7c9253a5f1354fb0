/-
Instructions with their names and numbers resolved (`decode`).

A cue says where on the timeline an instruction goes and which controller state
it puts there. A button name that the layout does not know is set aside and
changes nothing else.
-/
import InputScript.Pad.Keys
import InputScript.Pad.State
import InputScript.Script.Statement

set_option autoImplicit false

namespace InputScript.Script

open InputScript.Pad InputScript.Timeline

/-- The number a numeral stands for (`signed`), rounded to double precision. It
keeps the sign of a written `-0`, and enough digits make it infinite. -/
def SignedNumeral.value (numeral : SignedNumeral) : Binary :=
  .ofNat binary64 numeral.negative numeral.magnitude

/-- The stick a written pair stands for (`convert`); without a pair the stick is
centred. -/
def stickOf [PolarForm] : Option StickPair → Stick
  | none => .centred
  | some pair => .ofRaw pair.x.value pair.y.value

/-- A resolved instruction (`Decoded`). Without a range it passes the end of the
timeline. -/
structure Cue where
  range : Option FrameRange
  state : PadState
  unknown : List String
deriving DecidableEq

/-- Resolves an instruction (`decode`), counting relative frames from `base`. -/
def Instruction.resolve (written : Instruction) (base : UInt64) (layout : Layout) : Cue where
  range := written.frames.place base
  state :=
    { buttons := .ofList (written.buttons.filterMap layout.code?)
      left := @stickOf layout.polar written.left
      right := @stickOf layout.polar written.right }
  unknown := written.buttons.filter fun token => (layout.code? token).isNone

end InputScript.Script
