/-
What the compiler tolerates (`DiagnosticKind`).

No script is rejected. A line that cannot be used as it stands is dropped in
whole or in part, and a diagnostic says which line and why.
-/
import InputScript.Timeline.Placement

set_option autoImplicit false

namespace InputScript.Compile

/-- Why something in a line was set aside (`DiagnosticKind`). -/
inductive Remark where
  /-- A line that is not blank and says nothing. -/
  | ignoredLine
  /-- A button name that the layout does not know. -/
  | unknownButton (name : String)
  /-- A loop opened inside another one, whose body is dropped. -/
  | nestedLoop
  /-- A loop end without an open loop. -/
  | strayLoopEnd
  /-- A loop that is still open behind the last line; its body is dropped. -/
  | unterminatedLoop
  /-- A range that ends before it starts. -/
  | emptyRange
  /-- Frames past the highest one: a line, or the rest of a loop's passes. -/
  | frameOverflow
deriving DecidableEq, Repr

/-- A remark about a line, counted from 1. -/
structure Diagnostic where
  line : Nat
  remark : Remark
deriving DecidableEq, Repr

/-- The name under which a remark is listed in written tables. -/
def Remark.label : Remark → String
  | .ignoredLine => "IgnoredLine"
  | .unknownButton _ => "UnknownButton"
  | .nestedLoop => "NestedLoop"
  | .strayLoopEnd => "StrayLoopEnd"
  | .unterminatedLoop => "UnterminatedLoop"
  | .emptyRange => "EmptyRange"
  | .frameOverflow => "FrameOverflow"

/-- A remark in words. -/
def Remark.message : Remark → String
  | .ignoredLine => "ignored"
  | .unknownButton name => "unknown button `" ++ name ++ "`"
  | .nestedLoop => "loop opened inside a loop, dropping the outer body"
  | .strayLoopEnd => "`\x7d` without an open loop"
  | .unterminatedLoop => "script ended inside a loop, dropping its body"
  | .emptyRange => "frame range ends before it starts"
  | .frameOverflow => "frames run past " ++ Timeline.maxFrame.toNat.repr

/-- A diagnostic in words (`note`). -/
def Diagnostic.message (diagnostic : Diagnostic) : String :=
  "line " ++ diagnostic.line.repr ++ ": " ++ diagnostic.remark.message

end InputScript.Compile
