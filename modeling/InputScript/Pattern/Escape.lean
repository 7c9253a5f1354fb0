/-
What stands behind a backslash.

A backslash makes a sign literal, names a character by its number or by a
letter, or stands for a class or a condition on the place. Backreferences and
letters without a meaning are refused, so that neither is taken for the letter
itself.
-/
import InputScript.Pattern.Cursor
import InputScript.Pattern.Tree
import InputScript.Text.Numeral

set_option autoImplicit false

namespace InputScript.Pattern

open InputScript.Text Reader

/-! ## 1. Characters by number -/

/-- The character with a code, if there is one. -/
def charOfCode? (code : Nat) : Option Char :=
  if (Char.ofNat code).toNat = code then some (Char.ofNat code) else none

/-- Reads a given number of hexadecimal digits. -/
def readHexDigits : Nat → Reader (List Char)
  | 0 => return []
  | count + 1 => do
    match ← current? with
    | none => fail .escapeUnfinished (.point (← here))
    | some c =>
      if (hexValue? c).isNone then fail .hexDigitInvalid (← currentSpan)
      bumpSpaced
      return c :: (← readHexDigits count)

/-- Reads as many hexadecimal digits as come before a closing brace. -/
def readHexBraced (opened : Place) : Reader (List Char) := do
  let digits ← collectChars (fun c => (hexValue? c).isSome) bumpSpaced
  match ← current? with
  | none => fail .escapeUnfinished (← since opened)
  | some '}' => return digits
  | some _ => fail .hexDigitInvalid (← currentSpan)

/-- Reads a character named by its number, from the letter behind the backslash
on. The letter sets the number of digits, unless they stand in braces. -/
def readHex (start : Place) (letter : Char) : Reader Literal := do
  bumpSpaced
  match ← current? with
  | none => fail .escapeUnfinished (.point (← here))
  | some '{' =>
    let opened ← here
    let inner := (← currentSpan).stop
    bumpSpaced
    let digits ← readHexBraced opened
    let named : Span := ⟨inner, ← here⟩
    bumpSpaced
    if digits.isEmpty then fail .hexEmpty (← since opened)
    match charOfCode? (valueOfHex digits) with
    | none => fail .hexNotACharacter named
    | some c => return ⟨← since start, c, false⟩
  | some _ =>
    let first ← here
    let count := if letter = 'x' then 2 else if letter = 'u' then 4 else 8
    let digits ← readHexDigits count
    match charOfCode? (valueOfHex digits) with
    | none => fail .hexNotACharacter (← since first)
    | some c => return ⟨← since start, c, letter = 'x'⟩

/-! ## 2. Classes and conditions -/

/-- Reads a class named by a property, from the letter behind the backslash on. -/
def readProperty (start : Place) : Reader Tree := do
  bumpSpaced
  match ← current? with
  | none => fail .escapeUnfinished (.point (← here))
  | some '{' =>
    bumpSpaced
    let name ← collectChars (· != '}') bumpSpaced
    if (← current?).isNone then fail .escapeUnfinished (.point (← here))
    bump
    let valued := name.contains ':' || name.contains '='
    return .property (← since start) (if valued then .valued else .named name)
  | some '\\' => fail .propertyUnreadable (← currentSpan)
  | some c =>
    bumpSpaced
    return .property (← since start) (.named [c])

/-- Letters and hyphens make up the names of word boundaries. -/
def isBoundaryLetter (c : Char) : Bool :=
  c.isAlpha || c == '-'

/-- Reads the name of a word boundary in braces. Braces that start with
something else are left alone, because they may hold a number of repetitions. -/
def readBoundary? (start : Place) : Reader (Option Anchor) := do
  let before ← get
  bumpSpaced
  match ← current? with
  | none => fail .boundaryUnfinished (← since start)
  | some c =>
    if !isBoundaryLetter c then
      set before
      return none
    let inner ← here
    let name ← collectChars isBoundaryLetter bumpSpaced
    if (← current?) != some '}' then fail .boundaryUnclosed (← since before.place)
    let named ← since inner
    bump
    match String.ofList name with
    | "start" => return some .wordStart
    | "end" => return some .wordEnd
    | "start-half" => return some .wordStartHalf
    | "end-half" => return some .wordEndHalf
    | _ => fail .boundaryUnknown named

/-! ## 3. Single signs -/

/-- Whether a backslash in front of a sign makes it literal: all ASCII signs
but letters, digits and angle brackets. -/
def isEscapable (c : Char) : Bool :=
  c.toNat < 128 && !c.isAlphanum && c != '<' && c != '>'

/-- The control character that a letter stands for. -/
def controlChar? : Char → Option Char
  | 'a' => some '\x07'
  | 'f' => some '\x0c'
  | 't' => some '\t'
  | 'n' => some '\n'
  | 'r' => some '\r'
  | 'v' => some '\x0b'
  | _ => none

/-- The condition that a letter stands for. -/
def anchor? : Char → Option Anchor
  | 'A' => some .textStart
  | 'z' => some .textEnd
  | 'b' => some .wordBoundary
  | 'B' => some .noWordBoundary
  | '<' => some .wordStart
  | '>' => some .wordEnd
  | _ => none

/-- The class that a letter stands for, and whether it stands for what is not in
the class. -/
def shorthand? : Char → Option (Shorthand × Bool)
  | 'd' => some (.digit, false)
  | 'D' => some (.digit, true)
  | 's' => some (.space, false)
  | 'S' => some (.space, true)
  | 'w' => some (.word, false)
  | 'W' => some (.word, true)
  | _ => none

/-- Reads a sign behind a backslash that is complete in itself. -/
def readSign (start : Place) (c : Char) : Reader Tree := do
  bump
  let span ← since start
  if isEscapable c then return .literal ⟨span, c, false⟩
  match controlChar? c, shorthand? c, anchor? c with
  | some control, _, _ => return .literal ⟨span, control, false⟩
  | _, some (kind, negated), _ => return .shorthand span kind negated
  | _, _, some .wordBoundary =>
    if (← current?) = some '{' then
      match ← readBoundary? start with
      | some anchor => return .anchor (← since start) anchor
      | none => return .anchor span .wordBoundary
    else return .anchor span .wordBoundary
  | _, _, some anchor => return .anchor span anchor
  | _, _, _ => fail .escapeUnknown span

/-- Reads a backslash and what belongs to it. -/
def readEscape : Reader Tree := do
  let start ← here
  bump
  match ← current? with
  | none => fail .escapeUnfinished (← since start)
  | some c =>
    if c.isDigit then fail .backreference ⟨start, (← currentSpan).stop⟩
    else if c = 'x' ∨ c = 'u' ∨ c = 'U' then return .literal (← readHex start c)
    else if c = 'p' ∨ c = 'P' then readProperty start
    else readSign start c

end InputScript.Pattern
