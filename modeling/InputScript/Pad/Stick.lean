/-
Analog sticks (`Stick`).

A script gives a stick position as two whole numbers, in which 300 is one unit
of an axis. The stick is kept both as its two axes and in polar form. The
power, the distance from the centre, is capped, while the axes are not. How
precise lengths and directions are is left open: any two functions may compute
them, and two that round correctly are at hand.
-/
import InputScript.Binary.Angle
import InputScript.Binary.Hypotenuse

set_option autoImplicit false

namespace InputScript.Pad

/-! ## 1. Scaling -/

/-- The written value of a fully deflected axis (`ANALOG_SCALE`). -/
def axisScale : Binary := .ofNat binary64 false 300

/-- The highest power a stick reports (`MAX_POWER`). -/
def maxPower : Binary := .ofNat binary64 false 100

/-- The axis value of a written value (`axis`). Its zero is always positive, so
that a centred stick points along the first axis and never backwards. -/
def axis (raw : Binary) : Binary :=
  (raw.divide binary64 axisScale).withoutNegativeZero

/-! ## 2. Polar form -/

/-- How the polar form of a pair of axes is computed. Neither number can be
given exactly, and platforms differ in how well they round, so the two functions
are a parameter of everything that makes sticks. -/
class PolarForm where
  /-- The distance from the centre. -/
  length : Binary → Binary → Binary
  /-- The direction in radians. -/
  angle : Binary → Binary → Binary

/-- The polar form with both numbers correctly rounded, for wherever no other
one is named. -/
instance PolarForm.rounded : PolarForm where
  length := Binary.hypotenuse binary64
  angle := Binary.direction binary64

/-! ## 3. Sticks -/

/-- A stick position: the two axes, the distance from the centre up to
`maxPower`, and the direction in radians. -/
structure Stick where
  x : Binary
  y : Binary
  power : Binary
  angle : Binary
deriving DecidableEq, Repr

variable [PolarForm]

/-- The stick with the given axes (`stick`). The sign is taken off the length
before it is capped, so a power has none whatever computes it. -/
def Stick.ofAxes (x y : Binary) : Stick where
  x := x
  y := y
  power := (PolarForm.length x y).withoutSign.capped maxPower
  angle := PolarForm.angle x y

/-- The stick of a pair of written values (`convert`). -/
def Stick.ofRaw (x y : Binary) : Stick :=
  .ofAxes (axis x) (axis y)

/-- A stick at rest. -/
def Stick.centred : Stick :=
  .ofRaw (.zero binary64 false) (.zero binary64 false)

end InputScript.Pad
