/-
What can be wrong with a pattern.

A complaint names a problem and the part of the pattern it is about, and
sometimes an earlier part that this one contradicts. Its report shows the lines
of the pattern with marks below the parts in question.
-/
import InputScript.Pattern.Place
import InputScript.Text.Lines

set_option autoImplicit false

namespace InputScript.Pattern

open InputScript.Text

/-! ## 1. Problems -/

/-- Why a pattern makes no sense. -/
inductive Problem where
  | escapeUnfinished
  | escapeUnknown
  | backreference
  | hexEmpty
  | hexDigitInvalid
  | hexNotACharacter
  | propertyUnreadable
  | boundaryUnfinished
  | boundaryUnclosed
  | boundaryUnknown
  | classUnclosed
  | classEscape
  | rangeBoundary
  | rangeBackwards
  | groupUnclosed
  | groupUnopened
  | lookAround
  | nameEmpty
  | nameInvalid
  | nameUnclosed
  | nameTwice
  | flagUnknown
  | flagTwice
  | flagsNegatedTwice
  | flagsNegateNothing
  | flagsUnfinished
  | nothingToRepeat
  | countMissing
  | countTooLarge
  | countUnclosed
  | countsBackwards
  /-- More levels of nesting than the given number. -/
  | tooDeep (limit : Nat)
  /-- Something that only makes sense with Unicode switched on. -/
  | unicodeSwitchedOff
  /-- Something that matches bytes which are no text. -/
  | matchesNonText
  | propertyUnknown
  | propertyValueUnknown
  /-- A shorthand class beyond ASCII. -/
  | shorthandUnavailable
  /-- Matching without regard to case beyond ASCII. -/
  | caseUnavailable
deriving DecidableEq, Repr

/-- The problem in words. -/
def Problem.message : Problem → String
  | .escapeUnfinished => "incomplete escape sequence, reached end of pattern prematurely"
  | .escapeUnknown => "unrecognized escape sequence"
  | .backreference => "backreferences are not supported"
  | .hexEmpty => "hexadecimal literal empty"
  | .hexDigitInvalid => "invalid hexadecimal digit"
  | .hexNotACharacter => "hexadecimal literal is not a Unicode scalar value"
  | .propertyUnreadable => "invalid Unicode character class"
  | .boundaryUnfinished =>
    "found either the beginning of a special word boundary or a bounded repetition on a \\b " ++
      "with an opening brace, but no closing brace"
  | .boundaryUnclosed =>
    "special word boundary assertion is either unclosed or contains an invalid character"
  | .boundaryUnknown =>
    "unrecognized special word boundary assertion, valid choices are: start, end, start-half " ++
      "or end-half"
  | .classUnclosed => "unclosed character class"
  | .classEscape => "invalid escape sequence found in character class"
  | .rangeBoundary => "invalid range boundary, must be a literal"
  | .rangeBackwards => "invalid character class range, the start must be <= the end"
  | .groupUnclosed => "unclosed group"
  | .groupUnopened => "unopened group"
  | .lookAround => "look-around, including look-ahead and look-behind, is not supported"
  | .nameEmpty => "empty capture group name"
  | .nameInvalid => "invalid capture group character"
  | .nameUnclosed => "unclosed capture group name"
  | .nameTwice => "duplicate capture group name"
  | .flagUnknown => "unrecognized flag"
  | .flagTwice => "duplicate flag"
  | .flagsNegatedTwice => "flag negation operator repeated"
  | .flagsNegateNothing => "dangling flag negation operator"
  | .flagsUnfinished => "expected flag but got end of regex"
  | .nothingToRepeat => "repetition operator missing expression"
  | .countMissing => "repetition quantifier expects a valid decimal"
  | .countTooLarge => "decimal literal invalid"
  | .countUnclosed => "unclosed counted repetition"
  | .countsBackwards => "invalid repetition count range, the start must be <= the end"
  | .tooDeep limit =>
    "exceed the maximum number of nested parentheses/brackets (" ++ limit.repr ++ ")"
  | .unicodeSwitchedOff => "Unicode not allowed here"
  | .matchesNonText => "pattern can match invalid UTF-8"
  | .propertyUnknown => "Unicode property not found"
  | .propertyValueUnknown => "Unicode property value not found"
  | .shorthandUnavailable =>
    "Unicode-aware Perl class not found (make sure the unicode-perl feature is enabled)"
  | .caseUnavailable =>
    "Unicode-aware case insensitivity matching is not available " ++
      "(make sure the unicode-case feature is enabled)"

/-- A problem with a part of a pattern, and an earlier part it clashes with. -/
structure Complaint where
  problem : Problem
  span : Span
  clash : Option Span
deriving DecidableEq, Repr

/-! ## 2. Reports -/

namespace Complaint

/-- The parts a complaint is about, in the order in which they stand. -/
def spans (complaint : Complaint) : List Span :=
  match complaint.clash with
  | none => [complaint.span]
  | some other =>
    if other.precedes complaint.span then [other, complaint.span] else [complaint.span, other]

/-- Marks below the parts of one line, from a column on. An empty part gets one
mark too. -/
def marks (column : Nat) : List Span → String
  | [] => ""
  | span :: rest =>
    let gap := span.start.column - column
    let width := max 1 (span.stop.column - span.start.column)
    "".pushn ' ' gap ++ "".pushn '^' width ++ marks (column + gap + width) rest

/-- A number with blanks in front up to a width. -/
def padded (width n : Nat) : String :=
  "".pushn ' ' (width - n.repr.length) ++ n.repr

/-- The lines of a pattern, each followed by the marks that belong below it.
Lines are numbered if `width` leaves room for it. -/
def markedLines (complaint : Complaint) (width : Nat) (source : List Char) : List String :=
  (lines source).zipIdx.flatMap fun (line, index) =>
    let lead := if width = 0 then "    " else padded width (index + 1) ++ ": "
    let below := complaint.spans.filter fun span =>
      span.isOneLine && span.start.line == index + 1
    (lead ++ String.ofList line) ::
      (if below.isEmpty then [] else ["".pushn ' ' lead.length ++ marks 1 below])

/-- Where a part that runs over several lines starts and ends. -/
def extent (span : Span) : String :=
  "on line " ++ span.start.line.repr ++ " (column " ++ span.start.column.repr ++
    ") through line " ++ span.stop.line.repr ++ " (column " ++ (span.stop.column - 1).repr ++ ")"

/-- The report on a complaint about a pattern. A pattern of several lines is
shown between dividers. -/
def report (complaint : Complaint) (source : List Char) : String :=
  let count := (lines source).length + (if source.getLast? = some '\n' then 1 else 0)
  let width := if count ≤ 1 then 0 else count.repr.length
  let shown := complaint.markedLines width source
  let body :=
    if source.contains '\n' then
      let divider := "".pushn '~' 79
      [divider] ++ shown ++ [divider] ++
        (complaint.spans.filter fun span => !span.isOneLine).map extent
    else shown
  "\n".intercalate
    (["regex parse error:"] ++ body ++ ["error: " ++ complaint.problem.message])

end Complaint

end InputScript.Pattern
