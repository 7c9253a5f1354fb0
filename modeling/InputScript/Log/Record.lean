/-
Log records.

A record has a level, a target that names the part of the program it comes
from, and a message. A threshold keeps the records up to a level of detail.
-/

set_option autoImplicit false

namespace InputScript.Log

/-! ## 1. Levels -/

/-- Levels, from the gravest to the most detailed. -/
inductive Level where
  | error
  | warn
  | info
  | debug
  | trace
deriving DecidableEq, Repr

/-- How detailed a level is. -/
def Level.detail : Level → Nat
  | .error => 1
  | .warn => 2
  | .info => 3
  | .debug => 4
  | .trace => 5

/-- The name of a level in the log. -/
def Level.name : Level → String
  | .error => "ERROR"
  | .warn => "WARN"
  | .info => "INFO"
  | .debug => "DEBUG"
  | .trace => "TRACE"

/-- The most detailed level that is kept; without one nothing is. -/
abbrev Threshold := Option Level

/-- Whether a threshold keeps a level. -/
def keeps (threshold : Threshold) (level : Level) : Bool :=
  threshold.any fun most => level.detail ≤ most.detail

/-! ## 2. Records -/

/-- The parts of the program that log. -/
inductive Target where
  | command
  | loading
  | processing
  | compiling
deriving DecidableEq, Repr

/-- The name of a target in the log and in filters. A part's name starts with
the names of the parts it belongs to. -/
def Target.path : Target → String
  | .command => "padmacro"
  | .loading => "padmacro::parser"
  | .processing => "padmacro::processor"
  | .compiling => "padmacro::processor::compiler"

/-- A log record. -/
structure Record where
  level : Level
  target : Target
  message : String
deriving DecidableEq, Repr

end InputScript.Log
