/-
The frame table as a JSON document (`Document`).

The document names the script, gives the cursor, every written frame under its
number with the full controller state, and the diagnostics. An axis that is
infinite has no spelling in JSON and becomes null.
-/
import InputScript.Compile.Script
import InputScript.Json.Printer

set_option autoImplicit false

namespace InputScript.Artifact

open InputScript.Compile InputScript.Pad
open InputScript.Json (Value)

/-! ## 1. Controller states -/

/-- A stick by its axes and its polar form. -/
def stickValue (stick : Stick) : Value :=
  .object [("x", .ofBinary stick.x), ("y", .ofBinary stick.y),
    ("power", .ofBinary stick.power), ("angle", .ofBinary stick.angle)]

/-- A controller state, its buttons in ascending order. -/
def stateValue (state : PadState) : Value :=
  .object [("buttons", .array (state.buttons.codes.map fun code => .ofNat code.toNat)),
    ("left_stick", stickValue state.left), ("right_stick", stickValue state.right)]

/-! ## 2. Timelines -/

/-- The members that describe a timeline: the cursor and the frames, whose
names are their numbers in ascending order. -/
def timelineMembers (timeline : Timeline) : List (String × Value) :=
  [("last_frame", .number (.whole timeline.lastFrame.toInt)),
    ("frames", .object (timeline.frames.map fun (frame, state) =>
      (frame.toNat.repr, stateValue state)))]

/-- A timeline on its own. -/
def timelineValue (timeline : Timeline) : Value :=
  .object (timelineMembers timeline)

/-! ## 3. Compiled scripts -/

/-- A remark by its label; an unknown button is named as well. -/
def remarkValue (remark : Remark) : Value :=
  match remark with
  | .unknownButton name => .object [(remark.label, .string name)]
  | remark => .string remark.label

/-- A diagnostic with its line number. -/
def diagnosticValue (diagnostic : Diagnostic) : Value :=
  .object [("line", .ofNat diagnostic.line), ("kind", remarkValue diagnostic.remark)]

/-- The whole document of a named, compiled script (`Document`). -/
def frameDocument (name : String) (compiled : Compilation) : Value :=
  .object (("name", .string name) :: timelineMembers compiled.timeline ++
    [("diagnostics", .array (compiled.diagnostics.map diagnosticValue))])

end InputScript.Artifact
