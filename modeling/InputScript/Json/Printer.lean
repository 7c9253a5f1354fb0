/-
JSON as text.

A value is written either on one line without any spaces, or spread over lines
with two spaces for each level. Both spell strings and numbers alike.
-/
import InputScript.Decimal.Layout
import InputScript.Json.Value

set_option autoImplicit false

namespace InputScript.Json

/-! ## 1. Strings and numbers -/

/-- A character inside quotes: quotes, backslashes and control characters are
escaped, the common ones by a letter, and everything else stands for itself. -/
def escape (c : Char) : List Char :=
  if c = '"' then ['\\', '"']
  else if c = '\\' then ['\\', '\\']
  else if c = '\x08' then ['\\', 'b']
  else if c = '\x0c' then ['\\', 'f']
  else if c = '\n' then ['\\', 'n']
  else if c = '\r' then ['\\', 'r']
  else if c = '\t' then ['\\', 't']
  else if c.toNat < 0x20 then
    ['\\', 'u', '0', '0', Nat.digitChar (c.toNat / 16), Nat.digitChar (c.toNat % 16)]
  else [c]

/-- A string in quotes. -/
def quote (s : String) : List Char :=
  '"' :: s.toList.flatMap escape ++ ['"']

/-- Numbers have their shortest digits, with the point by position from five
places below the point to sixteen above it. -/
def numberLayout : DecimalLayout where
  lowest := -5
  highest := 15
  plus := true
  tie := .even

/-- A number; one that is not finite has no spelling but null. -/
def Number.write : Number → List Char
  | .whole n => (if n < 0 then ['-'] else []) ++ Nat.toDigits 10 n.natAbs
  | .decimal (.finite negative significand exponent) =>
    numberLayout.writeFinite binary64 negative significand exponent
  | .decimal _ => ['n', 'u', 'l', 'l']

/-- The value `true` or `false`. -/
def writeBool (b : Bool) : List Char :=
  if b then ['t', 'r', 'u', 'e'] else ['f', 'a', 'l', 's', 'e']

/-! ## 2. One line -/

/-- Texts with a separator between neighbours. -/
def separated (separator : List Char) : List (List Char) → List Char
  | [] => []
  | [item] => item
  | item :: rest => item ++ separator ++ separated separator rest

mutual

/-- A value on one line. -/
def Value.compactChars : Value → List Char
  | .null => ['n', 'u', 'l', 'l']
  | .bool b => writeBool b
  | .number n => n.write
  | .string s => quote s
  | .array items => '[' :: separated [','] (compactItems items) ++ [']']
  | .object members => '{' :: separated [','] (compactMembers members) ++ ['}']

/-- The items of an array, each on one line. -/
def compactItems : List Value → List (List Char)
  | [] => []
  | item :: rest => item.compactChars :: compactItems rest

/-- The members of an object, each on one line. -/
def compactMembers : List (String × Value) → List (List Char)
  | [] => []
  | (name, value) :: rest =>
    (quote name ++ ':' :: value.compactChars) :: compactMembers rest

end

/-- A value on one line (`to_string`). -/
def Value.compact (value : Value) : String :=
  String.ofList value.compactChars

/-! ## 3. Several lines -/

/-- A line break and the spaces of a level. -/
def newLine (level : Nat) : List Char :=
  '\n' :: List.replicate (2 * level) ' '

/-- Items between brackets, each on a line of its own one level further in;
without items the brackets stand together. -/
def block (opening closing : Char) (level : Nat) (items : List (List Char)) : List Char :=
  match items with
  | [] => [opening, closing]
  | items =>
    opening :: newLine (level + 1) ++ separated (',' :: newLine (level + 1)) items
      ++ newLine level ++ [closing]

mutual

/-- A value spread over lines, at a level. -/
def Value.prettyChars (level : Nat) : Value → List Char
  | .null => ['n', 'u', 'l', 'l']
  | .bool b => writeBool b
  | .number n => n.write
  | .string s => quote s
  | .array items => block '[' ']' level (prettyItems (level + 1) items)
  | .object members => block '{' '}' level (prettyMembers (level + 1) members)

/-- The items of an array, each spread over lines. -/
def prettyItems (level : Nat) : List Value → List (List Char)
  | [] => []
  | item :: rest => item.prettyChars level :: prettyItems level rest

/-- The members of an object, each spread over lines. -/
def prettyMembers (level : Nat) : List (String × Value) → List (List Char)
  | [] => []
  | (name, value) :: rest =>
    (quote name ++ ':' :: ' ' :: value.prettyChars level) :: prettyMembers level rest

end

/-- A value spread over lines (`to_string_pretty`). -/
def Value.pretty (value : Value) : String :=
  String.ofList (value.prettyChars 0)

end InputScript.Json
