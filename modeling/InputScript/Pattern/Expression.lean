/-
What a pattern matches.

An expression matches stretches of a text. It is made of sets of characters and
of conditions on the place between two characters, put in a row, side by side or
repeated. Which of several stretches is preferred is left open, because only
their existence counts.
-/
import InputScript.Pattern.CharSet

set_option autoImplicit false

namespace InputScript.Pattern

/-! ## 1. Places between characters -/

/-- How a place lies to the words of a text. -/
inductive WordEdge where
  | boundary
  | noBoundary
  | start
  | stop
  /-- No word character in front. -/
  | startHalf
  /-- No word character behind. -/
  | stopHalf
deriving DecidableEq, Repr

/-- A condition on a place between two characters. -/
inductive Look where
  | textStart
  | textEnd
  | lineStart
  | lineEnd
  /-- Lines may also end at a carriage return, with or without a line feed. -/
  | crlfLineStart
  | crlfLineEnd
  /-- With `unicode`, words may hold characters beyond ASCII. -/
  | word (edge : WordEdge) (unicode : Bool)
deriving DecidableEq, Repr

/-- Whether a character belongs to a word in ASCII. -/
def isWordChar (c : Char) : Bool := Shorthand.word.chars.contains c.toNat

/-- Whether an edge lies between what is in front and what is behind, given
whether these belong to words. -/
def WordEdge.holds (before after : Bool) : WordEdge → Bool
  | .boundary => before != after
  | .noBoundary => before == after
  | .start => !before && after
  | .stop => before && !after
  | .startHalf => !before
  | .stopHalf => !after

/-- Whether a condition holds between two characters, of which the first is
missing at the start of the text and the second at its end. Words are those of
ASCII. -/
def Look.holds (before after : Option Char) : Look → Bool
  | .textStart => before.isNone
  | .textEnd => after.isNone
  | .lineStart => before.all (· == '\n')
  | .lineEnd => after.all (· == '\n')
  | .crlfLineStart => before.all (· == '\n') || (before == some '\r' && after != some '\n')
  | .crlfLineEnd => after.all (· == '\r') || (after == some '\n' && before != some '\r')
  | .word edge _ => edge.holds (before.any isWordChar) (after.any isWordChar)

/-! ## 2. Expressions -/

/-- What a pattern matches. -/
inductive Expression where
  | nothing
  | char (set : CharSet)
  | look (condition : Look)
  | sequence (first second : Expression)
  | either (left right : Expression)
  | repeated (body : Expression) (least : Nat) (most : Option Nat)
deriving DecidableEq, Repr

namespace Expression

/-- Whether only empty stretches can match. -/
def isEmptyOnly : Expression → Bool
  | .nothing => true
  | .char _ => false
  | .look _ => true
  | .sequence first second => first.isEmptyOnly && second.isEmptyOnly
  | .either left right => left.isEmptyOnly && right.isEmptyOnly
  | .repeated body _ _ => body.isEmptyOnly

/-- Repeats an expression. More than one round of something empty is one round,
a single round is the expression itself, and no round is nothing. -/
def repeating (body : Expression) (least : Nat) (most : Option Nat) : Expression :=
  let least := if body.isEmptyOnly then min least 1 else least
  let most := if body.isEmptyOnly then some (min (most.getD 1) 1) else most
  if most = some 0 then .nothing
  else if least = 1 ∧ most = some 1 then body
  else .repeated body least most

/-- Several expressions in a row. -/
def sequenceOf : List Expression → Expression
  | [] => .nothing
  | [only] => only
  | first :: rest => .sequence first (sequenceOf rest)

/-- Several expressions side by side. -/
def eitherOf : List Expression → Expression
  | [] => .nothing
  | [only] => only
  | first :: rest => .either first (eitherOf rest)

/-! ## 3. Limits -/

/-- Whether words beyond ASCII have to be known. -/
def needsWords : Expression → Bool
  | .nothing => false
  | .char _ => false
  | .look (.word _ unicode) => unicode
  | .look _ => false
  | .sequence first second => first.needsWords || second.needsWords
  | .either left right => left.needsWords || right.needsWords
  | .repeated body _ _ => body.needsWords

/-- How many bytes a state of a machine takes. -/
def stateSize : Nat := 32

/-- The size of the states for a set: one for each byte of a single character,
two for ASCII characters, nine for all others. -/
def setSize : CharSet → Nat
  | .range first last =>
    if first = last then (Char.ofNat first).utf8Size * stateSize
    else if last < 0x80 then 2 * stateSize + 8
    else 9 * stateSize + 136
  | set => if set.contains 0x10FFFF then 9 * stateSize + 136 else 2 * stateSize + 16

/-- An estimate of the size of the machine for an expression. Counted
repetitions take room for every round. -/
def size : Expression → Nat
  | .nothing => stateSize
  | .char set => setSize set
  | .look _ => stateSize
  | .sequence first second => first.size + second.size
  | .either left right => left.size + right.size + stateSize + 4
  | .repeated body least most =>
    match most with
    | none => max least 1 * body.size + stateSize + 8
    | some most => least * body.size + (most - least) * (body.size + stateSize + 8) + stateSize

end Expression

end InputScript.Pattern
