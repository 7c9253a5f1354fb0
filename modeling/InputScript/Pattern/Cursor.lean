/-
Reading a pattern from left to right.

A cursor is what is left of a pattern, the place where that starts, and what
has been settled on the way: whether white space is skipped and which names
groups have. A reader moves the cursor or complains.
-/
import InputScript.Pattern.Complaint
import InputScript.Text.WhiteSpace

set_option autoImplicit false

namespace InputScript.Pattern

open InputScript.Text

/-! ## 1. Cursors -/

/-- A place in a pattern that is being read. -/
structure Cursor where
  rest : List Char
  place : Place
  /-- Whether white space and comments mean nothing. -/
  skipsSpace : Bool
  /-- The names that groups have so far. -/
  names : List (List Char × Span)

/-- The cursor in front of a pattern. -/
def Cursor.ofText (source : List Char) : Cursor := ⟨source, .first, false, []⟩

/-- Reading that may complain. -/
abbrev Reader := StateT Cursor (Except Complaint)

namespace Reader

/-! ## 2. Looking -/

/-- Complains about a part of the pattern. -/
def fail {α : Type} (problem : Problem) (span : Span) : Reader α :=
  throw ⟨problem, span, none⟩

/-- The place of the cursor. -/
def here : Reader Place := return (← get).place

/-- The current character, unless the pattern is at its end. -/
def current? : Reader (Option Char) := return (← get).rest.head?

/-- The character behind the current one. -/
def following? : Reader (Option Char) := return (← get).rest.tail.head?

/-- The part that the current character takes. -/
def currentSpan : Reader Span := do
  let cursor ← get
  match cursor.rest with
  | [] => return .point cursor.place
  | c :: _ => return .ofChar cursor.place c

/-- The part from a place up to the cursor. -/
def since (start : Place) : Reader Span := return ⟨start, ← here⟩

/-- How many characters are left, which bounds how often something can be read. -/
def remaining : Reader Nat := return (← get).rest.length

/-! ## 3. Moving -/

/-- Steps over the current character. -/
def bump : Reader Unit := modify fun cursor =>
  match cursor.rest with
  | [] => cursor
  | c :: rest => { cursor with rest := rest, place := cursor.place.after c }

/-- Steps over a text if it comes next, and says whether it did. -/
def bumpIf (text : String) : Reader Bool := do
  if text.toList.isPrefixOf (← get).rest then
    text.toList.forM fun _ => bump
    return true
  else
    return false

/-- Passes over white space and comments, which go from a number sign to the
end of their line. -/
def passSpace (inComment : Bool) (place : Place) : List Char → List Char × Place
  | [] => ([], place)
  | c :: rest =>
    if inComment then passSpace (c != '\n') (place.after c) rest
    else if isWhiteSpace c then passSpace false (place.after c) rest
    else if c = '#' then passSpace true (place.after c) rest
    else (c :: rest, place)

/-- Steps over white space and comments where they mean nothing. -/
def skipSpace : Reader Unit := modify fun cursor =>
  if cursor.skipsSpace then
    let (rest, place) := passSpace false cursor.place cursor.rest
    { cursor with rest := rest, place := place }
  else cursor

/-- Steps over the current character and what means nothing behind it. -/
def bumpSpaced : Reader Unit := do
  bump
  skipSpace

/-- What is left behind white space and the sign that opens a comment, if that
is anything. -/
def beyondSpace? (inComment : Bool) : List Char → Option (List Char)
  | [] => none
  | c :: rest =>
    if isWhiteSpace c then beyondSpace? inComment rest
    else if !inComment && c == '#' then beyondSpace? true rest
    else some (c :: rest)

/-- The character behind the current one, with white space passed over where it
means nothing. Where nothing else is left, white space counts after all. -/
def followingSpaced? : Reader (Option Char) := do
  let cursor ← get
  let behind := cursor.rest.tail
  if cursor.skipsSpace then return ((beyondSpace? false behind).getD behind).head?
  else return behind.head?

/-! ## 4. Repeated reading -/

/-- Collects what a reader yields until it yields nothing, at most `limit`
times. -/
def collect {α : Type} (reader : Reader (Option α)) : Nat → Reader (List α)
  | 0 => return []
  | limit + 1 => do
    match ← reader with
    | none => return []
    | some a => return a :: (← collect reader limit)

/-- Collects characters of a kind, moving on by `step` behind each. -/
def collectChars (accepts : Char → Bool) (step : Reader Unit) : Reader (List Char) := do
  let one : Reader (Option Char) := do
    match ← current? with
    | some c =>
      if accepts c then
        step
        return some c
      else return none
    | none => return none
  collect one (← remaining)

end Reader

end InputScript.Pattern
