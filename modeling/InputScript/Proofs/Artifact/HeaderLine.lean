/-
Reading a header back.

A header is text for a compiler of another language. What the library can say about it
is what a reader finds who looks at one line at a time and knows the forms of the lines
that carry data: enumerators, the two sizes, the null pointer in place of a table, and
rows. Everything else in a line is left aside, so a row is known by its frame and its
mask, and any name will do.
-/
import InputScript.Proofs.Text.Numeral
import InputScript.Text.Lines
import Mathlib.Data.List.Basic

set_option autoImplicit false

namespace InputScript.Artifact

open InputScript.Text

/-! ## 1. Lines -/

/-- What a line of a header says. -/
inductive HeaderLine where
  /-- An enumerator with its value. -/
  | key (name : List Char) (code : Nat)
  /-- The cursor. -/
  | lastFrame (number : Int)
  /-- The number of rows. -/
  | frameCount (count : Nat)
  /-- The null pointer that stands for an empty table. -/
  | noTable
  /-- A row with its frame and its mask. -/
  | frame (number mask : Nat)
  /-- Nothing that depends on the frames or the keys. -/
  | other
deriving DecidableEq

/-- The characters of identifiers. -/
def isIdentifierChar (c : Char) : Bool := c.isAlphanum || c == '_'

/-! ## 2. Readers

Each reader takes what it needs from the front of a text and hands back the rest, or
fails. -/

/-- Reads all characters of a class, at least one. -/
def readRun (belongs : Char → Bool) (text : List Char) : Option (List Char × List Char) :=
  if text.takeWhile belongs = [] then none
  else some (text.takeWhile belongs, text.dropWhile belongs)

/-- Reads a decimal number. -/
def readDecimal (text : List Char) : Option (Nat × List Char) :=
  (readRun Char.isDigit text).map fun (digits, rest) => (Nat.ofDigitChars 10 digits 0, rest)

/-- Reads a decimal number with a sign if it is negative. -/
def readSigned : List Char → Option (Int × List Char)
  | '-' :: text => (readDecimal text).map fun (number, rest) => (-number, rest)
  | text => (readDecimal text).map fun (number, rest) => (number, rest)

/-- Reads a hexadecimal number. -/
def readHex (text : List Char) : Option (Nat × List Char) :=
  (readRun isHexDigit text).map fun (digits, rest) => (valueOfHex digits, rest)

/-- Reads a fixed text. -/
def readText (expected : String) (text : List Char) : Option (List Char) :=
  text.dropPrefix? expected.toList

/-- Reads the identifier of a constant, which is known by how it ends. -/
def readName (ending : String) (text : List Char) : Option (List Char) := do
  let (name, rest) ← readRun isIdentifierChar text
  if ending.toList.isSuffixOf name then some rest else none

/-- Reads an enumerator. -/
def readKey (line : List Char) : Option HeaderLine := do
  let (name, rest) ← readRun isIdentifierChar (← readText "    " line)
  let (code, rest) ← readDecimal (← readText " = " rest)
  if rest = ",".toList then some (.key name code) else none

/-- Reads the cursor. -/
def readLastFrame (line : List Char) : Option HeaderLine := do
  let rest ← readName "_last_frame" (← readText "static const int64_t  " line)
  let (number, rest) ← readSigned (← readText " = " rest)
  if rest = ";".toList then some (.lastFrame number) else none

/-- Reads the number of rows. -/
def readFrameCount (line : List Char) : Option HeaderLine := do
  let rest ← readName "_frame_count" (← readText "static const uint32_t " line)
  let (count, rest) ← readDecimal (← readText " = " rest)
  if rest = ";".toList then some (.frameCount count) else none

/-- Reads the null pointer. -/
def readNoTable (line : List Char) : Option HeaderLine := do
  let rest ← readName "_frames" (← readText "static const PadFrame* const " line)
  if rest = " = nullptr;".toList then some .noTable else none

/-- Reads a row up to its mask. -/
def readFrame (line : List Char) : Option HeaderLine := do
  let (number, rest) ← readDecimal (← readText "    \x7b " line)
  let (mask, rest) ← readHex (← readText "ull, 0x" rest)
  let _ ← readText "u, " rest
  return .frame number mask

/-- What a line says, in the first form that fits it. -/
def HeaderLine.ofLine (line : List Char) : HeaderLine :=
  ([readKey, readLastFrame, readFrameCount, readNoTable, readFrame].findSome?
    fun read => read line).getD .other

/-- What the lines of a header say. -/
def HeaderLine.ofText (text : String) : List HeaderLine :=
  (lines text.toList).map ofLine

end InputScript.Artifact
