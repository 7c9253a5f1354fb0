/-
Reading JSON text.

A text is a single value with white space around it and nothing else. Strings
hold no raw control characters, and an escaped surrogate is only accepted as
one half of a pair. Containers nest up to `maxDepth` levels.
-/
import InputScript.Json.Numeral
import InputScript.Text.Numeral

set_option autoImplicit false

namespace InputScript.Json

open InputScript.Text

/-! ## 1. White space -/

/-- Only these four characters may stand between tokens. -/
def isSpace (c : Char) : Bool :=
  c == ' ' || c == '\t' || c == '\n' || c == '\r'

/-- Steps over white space. -/
def skipSpace (text : List Char) : List Char :=
  text.dropWhile isSpace

/-! ## 2. Strings -/

/-- The value of four hexadecimal digits. -/
def hexUnit? (a b c d : Char) : Option Nat := do
  return (((← hexValue? a) * 16 + (← hexValue? b)) * 16 + (← hexValue? c)) * 16 + (← hexValue? d)

/-- The first half of a surrogate pair. -/
def isHighSurrogate (unit : Nat) : Bool :=
  0xD800 ≤ unit && unit < 0xDC00

/-- The second half of a surrogate pair. -/
def isLowSurrogate (unit : Nat) : Bool :=
  0xDC00 ≤ unit && unit < 0xE000

/-- The character of a surrogate pair. -/
def pairedChar (high low : Nat) : Char :=
  Char.ofNat (0x10000 + (high - 0xD800) * 0x400 + (low - 0xDC00))

/-- The character that a single letter behind a backslash stands for. -/
def unescape? (c : Char) : Option Char :=
  if c = '"' then some '"'
  else if c = '\\' then some '\\'
  else if c = '/' then some '/'
  else if c = 'b' then some '\x08'
  else if c = 'f' then some '\x0c'
  else if c = 'n' then some '\n'
  else if c = 'r' then some '\r'
  else if c = 't' then some '\t'
  else none

/-- Puts a character in front of a string that was read. -/
def consRead (c : Char) (read : Option (List Char × List Char)) :
    Option (List Char × List Char) :=
  read.map fun (chars, rest) => (c :: chars, rest)

/-- Reads a string behind its opening quote, up to the closing one. -/
def readChars : List Char → Option (List Char × List Char)
  | [] => none
  | '"' :: rest => some ([], rest)
  | '\\' :: 'u' :: a :: b :: c :: d :: '\\' :: 'u' :: e :: f :: g :: h :: rest =>
    match hexUnit? a b c d with
    | none => none
    | some unit =>
      if isHighSurrogate unit then
        match hexUnit? e f g h with
        | none => none
        | some low =>
          if isLowSurrogate low then consRead (pairedChar unit low) (readChars rest) else none
      else if isLowSurrogate unit then none
      else consRead (Char.ofNat unit) (readChars ('\\' :: 'u' :: e :: f :: g :: h :: rest))
  | '\\' :: 'u' :: a :: b :: c :: d :: rest =>
    match hexUnit? a b c d with
    | none => none
    | some unit =>
      if isHighSurrogate unit || isLowSurrogate unit then none
      else consRead (Char.ofNat unit) (readChars rest)
  | '\\' :: c :: rest =>
    match unescape? c with
    | none => none
    | some plain => consRead plain (readChars rest)
  | c :: rest => if c.toNat < 0x20 then none else consRead c (readChars rest)

/-- Reads a string behind its opening quote. -/
def readString (text : List Char) : Option (String × List Char) :=
  (readChars text).map fun (chars, rest) => (String.ofList chars, rest)

/-! ## 3. Values -/

/-- How many levels of arrays and objects may be open at once. -/
def maxDepth : Nat := 127

/-- Reads one of the words that stand for a value. -/
def readWord : List Char → Option (Value × List Char)
  | 'n' :: 'u' :: 'l' :: 'l' :: rest => some (.null, rest)
  | 't' :: 'r' :: 'u' :: 'e' :: rest => some (.bool true, rest)
  | 'f' :: 'a' :: 'l' :: 's' :: 'e' :: rest => some (.bool false, rest)
  | _ => none

mutual

/-- Reads a value; `depth` more levels may be opened. A value takes at least one
character and a container costs one call more, for which it has two brackets,
so fuel for twice the length of the text is enough. -/
def readValue : Nat → Nat → List Char → Option (Value × List Char)
  | 0, _, _ => none
  | fuel + 1, depth, text =>
    match skipSpace text with
    | '"' :: rest => (readString rest).map fun (s, rest) => (.string s, rest)
    | '[' :: rest =>
      match depth with
      | 0 => none
      | depth + 1 =>
        match skipSpace rest with
        | ']' :: rest => some (.array [], rest)
        | rest => (readItems fuel depth rest).map fun (items, rest) => (.array items, rest)
    | '{' :: rest =>
      match depth with
      | 0 => none
      | depth + 1 =>
        match skipSpace rest with
        | '}' :: rest => some (.object [], rest)
        | rest =>
          (readMembers fuel depth rest).map fun (members, rest) =>
            (.object (sortMembers members), rest)
    | text =>
      (readWord text).or ((readNumber text).map fun (number, rest) => (.number number, rest))

/-- Reads the items of an array up to its closing bracket, at least one. -/
def readItems : Nat → Nat → List Char → Option (List Value × List Char)
  | 0, _, _ => none
  | fuel + 1, depth, text =>
    match readValue fuel depth text with
    | none => none
    | some (item, rest) =>
      match skipSpace rest with
      | ']' :: rest => some ([item], rest)
      | ',' :: rest => (readItems fuel depth rest).map fun (items, rest) => (item :: items, rest)
      | _ => none

/-- Reads the members of an object up to its closing brace, at least one. -/
def readMembers : Nat → Nat → List Char → Option (List (String × Value) × List Char)
  | 0, _, _ => none
  | fuel + 1, depth, text =>
    match skipSpace text with
    | '"' :: rest =>
      match readString rest with
      | none => none
      | some (name, rest) =>
        match skipSpace rest with
        | ':' :: rest =>
          match readValue fuel depth rest with
          | none => none
          | some (value, rest) =>
            match skipSpace rest with
            | '}' :: rest => some ([(name, value)], rest)
            | ',' :: rest =>
              (readMembers fuel depth rest).map fun (members, rest) =>
                ((name, value) :: members, rest)
            | _ => none
        | _ => none
    | _ => none

end

/-- Reads a whole text as one value. -/
def Value.ofChars? (text : List Char) : Option Value :=
  match readValue (2 * text.length + 2) maxDepth text with
  | some (value, rest) => if (skipSpace rest).isEmpty then some value else none
  | none => none

/-- Reads a whole text as one value (`from_str`). -/
def Value.parse? (text : String) : Option Value :=
  Value.ofChars? text.toList

end InputScript.Json
