/-
Places in the text of a pattern.

Lines and columns count from one. Every character takes one column, and a line
feed is the last character of its line.
-/

set_option autoImplicit false

namespace InputScript.Pattern

/-- A place in front of a character, or at the end. -/
structure Place where
  line : Nat
  column : Nat
deriving DecidableEq, Repr

namespace Place

/-- The place in front of everything. -/
def first : Place := ⟨1, 1⟩

/-- The place behind a character. -/
def after (place : Place) (c : Char) : Place :=
  if c = '\n' then ⟨place.line + 1, 1⟩ else ⟨place.line, place.column + 1⟩

/-- Whether a place comes before another. -/
def precedes (place other : Place) : Bool :=
  place.line < other.line || (place.line == other.line && place.column < other.column)

end Place

/-- A stretch of a pattern between two places. -/
structure Span where
  start : Place
  stop : Place
deriving DecidableEq, Repr

namespace Span

/-- The empty stretch at a place. -/
def point (place : Place) : Span := ⟨place, place⟩

/-- The stretch that one character takes. -/
def ofChar (place : Place) (c : Char) : Span := ⟨place, place.after c⟩

/-- Whether a stretch lies in one line. -/
def isOneLine (span : Span) : Bool := span.start.line == span.stop.line

/-- Whether a stretch comes before another, by their starts and then by their
ends. -/
def precedes (span other : Span) : Bool :=
  span.start.precedes other.start ||
    (span.start == other.start && span.stop.precedes other.stop)

end Span

end InputScript.Pattern
