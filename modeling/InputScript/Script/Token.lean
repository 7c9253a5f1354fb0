/-
The tokens of one script line (`Lexer`).

A line breaks into runs of white space, runs of ASCII digits, single symbols
and runs of whatever else there is. Nothing is rejected: every character lands
in exactly one token, so the texts of the tokens joined together are the line.
What a token means (a loop count, a frame number, a comment) is decided by the
grammar of statements and not here.
-/
import InputScript.Text.WhiteSpace

set_option autoImplicit false

namespace InputScript.Script

open InputScript.Text

/-! ## 1. Kinds of characters -/

/-- The kinds of tokens. -/
inductive TokenKind where
  | space
  | number
  | word
  | plus
  | minus
  | semicolon
  | openBrace
  | closeBrace
deriving DecidableEq, Repr

/-- The kind of token a character belongs to (`symbol`, `is_word_char`). -/
def TokenKind.ofChar (c : Char) : TokenKind :=
  if isWhiteSpace c then .space
  else if c.isDigit then .number
  else if c = '+' then .plus
  else if c = '-' then .minus
  else if c = ';' then .semicolon
  else if c = '{' then .openBrace
  else if c = '}' then .closeBrace
  else .word

/-- White space, digits and words come in runs; each symbol stands alone. -/
def TokenKind.isRun : TokenKind → Bool
  | .space | .number | .word => true
  | _ => false

/-! ## 2. Scanning -/

/-- A token and the characters it covers. -/
structure Token where
  kind : TokenKind
  text : List Char
deriving DecidableEq, Repr

/-- Puts a character in front of a scanned rest: it extends the first token
when that is a run of its kind, and is a token of its own otherwise. -/
def Token.extend (c : Char) : List Token → List Token
  | [] => [⟨.ofChar c, [c]⟩]
  | token :: rest =>
    if token.kind = .ofChar c ∧ token.kind.isRun then
      ⟨token.kind, c :: token.text⟩ :: rest
    else
      ⟨.ofChar c, [c]⟩ :: token :: rest

/-- The tokens of a line, from left to right (`Lexer`). -/
def Token.scan (line : List Char) : List Token :=
  line.foldr Token.extend []

@[simp]
theorem Token.scan_nil : Token.scan [] = [] := rfl

/-- Scanning goes from right to left, one character at a time. -/
theorem Token.scan_cons (c : Char) (line : List Char) :
    Token.scan (c :: line) = Token.extend c (Token.scan line) := rfl

/-! ## 3. Where the tokens lie -/

/-- The number of bytes a text takes in UTF-8. -/
def byteLength (text : List Char) : Nat :=
  text.foldr (fun c rest => c.utf8Size + rest) 0

/-- A token with the half-open range of bytes it covers in its line (its
`span`). -/
structure PlacedToken where
  token : Token
  start : Nat
  stop : Nat
deriving DecidableEq, Repr

/-- Lays tokens out one after the other from byte `start` on. -/
def Token.placeFrom (start : Nat) : List Token → List PlacedToken
  | [] => []
  | token :: rest =>
    let stop := start + byteLength token.text
    ⟨token, start, stop⟩ :: Token.placeFrom stop rest

/-- The tokens of a line with their byte ranges. -/
def Token.scanPlaced (line : List Char) : List PlacedToken :=
  Token.placeFrom 0 (Token.scan line)

/-! ## 4. Nothing is lost -/

/-- The characters of a token list, in order. -/
def Token.joined (tokens : List Token) : List Char :=
  tokens.flatMap Token.text

/-- Putting a character in front adds it in front of the text. -/
theorem Token.joined_extend (c : Char) (tokens : List Token) :
    Token.joined (Token.extend c tokens) = c :: Token.joined tokens := by
  cases tokens with
  | nil => rfl
  | cons token rest =>
    rw [Token.extend]
    split <;> simp [Token.joined]

/-- The tokens of a line hold its characters in order. -/
theorem Token.joined_scan (line : List Char) : Token.joined (Token.scan line) = line := by
  induction line with
  | nil => rfl
  | cons c rest ih => rw [Token.scan_cons, Token.joined_extend, ih]

end InputScript.Script
