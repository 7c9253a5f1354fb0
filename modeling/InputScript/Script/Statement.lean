/-
What one script line says (`parse_line`).

A line opens a loop, closes one, gives an instruction for some frames, or is
noise. The grammar is read over the tokens of the upper-cased line, with `_`
for optional white space and anything allowed after what is shown:

    loop start   _ NUMBER _ X _ {
    loop end     _ }
    instruction  _ frames SPACE buttons [SPACE stick [SPACE stick]]
    frames       [+] NUMBER [- NUMBER]
    buttons      one field, names separated by semicolons
    stick        [-] NUMBER ; [-] NUMBER

The forms are tried in this order, and a line that fits none of them is
ignored. A frame number or loop count that does not fit a 64-bit word fits no
form, whereas the digits of a stick value may run to any length.
-/
import InputScript.Script.Token
import InputScript.Text.Numeral
import InputScript.Text.Pieces
import InputScript.Text.UpperCase
import InputScript.Timeline.Placement

set_option autoImplicit false

namespace InputScript.Script

open InputScript.Text InputScript.Timeline

/-! ## 1. Statements -/

/-- A whole number as written: a sign, kept also in front of zero, and the
value of the digits. -/
structure SignedNumeral where
  negative : Bool
  magnitude : Nat
deriving DecidableEq, Repr

/-- A stick position as written (`RawStick`), before scaling. -/
structure StickPair where
  x : SignedNumeral
  y : SignedNumeral
deriving DecidableEq, Repr

/-- An instruction as written (`InstructionLine`): the frames it is for, the
names of the buttons that are held there, and up to two stick positions. -/
structure Instruction where
  frames : FrameAddress
  buttons : List String
  left : Option StickPair
  right : Option StickPair
deriving DecidableEq, Repr

/-- The meaning of a line (`Line`). -/
inductive Statement where
  | loopStart (repetitions : UInt64)
  | loopEnd
  | instruction (written : Instruction)
  | ignored
deriving DecidableEq, Repr

/-! ## 2. Pieces of the grammar

Each reader takes the tokens it needs from the front and hands back the rest,
or fails. -/

/-- Steps over white space, if there is any (`skip_space`). -/
def skipSpace : List Token → List Token
  | ⟨.space, _⟩ :: rest => rest
  | tokens => tokens

/-- Steps over a token of the given kind (`eat`). -/
def expect (kind : TokenKind) : List Token → Option (List Token)
  | token :: rest => if token.kind = kind then some rest else none
  | [] => none

/-- Reads a number that fits a word (`number`). -/
def readNumber : List Token → Option (UInt64 × List Token)
  | ⟨.number, digits⟩ :: rest => (wordOfDigits? digits).map fun value => (value, rest)
  | _ => none

/-- Reads `[+] NUMBER [- NUMBER]` (`parse_frame_spec`). -/
def readFrames (tokens : List Token) : Option (FrameAddress × List Token) := do
  let afterPlus := expect .plus tokens
  let address := if afterPlus.isSome then FrameAddress.relative else FrameAddress.absolute
  let (first, rest) ← readNumber (afterPlus.getD tokens)
  match expect .minus rest with
  | some rest =>
    let (second, rest) ← readNumber rest
    return (address first (some second), rest)
  | none => return (address first none, rest)

/-- Reads a signed run of digits of any length (`signed`). -/
def readSigned (tokens : List Token) : Option (SignedNumeral × List Token) :=
  let afterMinus := expect .minus tokens
  match afterMinus.getD tokens with
  | ⟨.number, digits⟩ :: rest =>
    some (⟨afterMinus.isSome, Nat.ofDigitChars 10 digits 0⟩, rest)
  | _ => none

/-- Reads white space and a stick position after it (`parse_stick_field`). -/
def readStick (tokens : List Token) : Option (StickPair × List Token) := do
  let (x, rest) ← readSigned (← expect .space tokens)
  let (y, rest) ← readSigned (← expect .semicolon rest)
  return (⟨x, y⟩, rest)

/-- The names in a button field (`parse_buttons`): its pieces between
semicolons, without the empty ones. -/
def buttonNames (field : List Char) : List String :=
  ((pieces ';' field).filter fun piece => !piece.isEmpty).map String.ofList

/-! ## 3. Lines -/

/-- The repetitions of a loop start (`parse_loop_start`). -/
def loopStart? (tokens : List Token) : Option UInt64 := do
  let (repetitions, rest) ← readNumber (skipSpace tokens)
  match skipSpace rest with
  | ⟨.word, ['X']⟩ :: rest =>
    let _ ← expect .openBrace (skipSpace rest)
    return repetitions
  | _ => none

/-- Whether the tokens close a loop (`parse_loop_end`). -/
def isLoopEnd (tokens : List Token) : Bool :=
  (expect .closeBrace (skipSpace tokens)).isSome

/-- The instruction of an instruction line (`parse_instruction`). The right
stick is only looked for behind a left stick that fills its field. -/
def instruction? (tokens : List Token) : Option Instruction := do
  let (frames, rest) ← readFrames (skipSpace tokens)
  let rest ← expect .space rest
  let field := rest.takeWhile fun token => token.kind ≠ .space
  let rest := rest.dropWhile fun token => token.kind ≠ .space
  if field.isEmpty then none
  else
    let left := readStick rest
    let right := left.bind fun found => readStick found.2
    return ⟨frames, buttonNames (Token.joined field), left.map Prod.fst, right.map Prod.fst⟩

/-- What the tokens of an upper-cased line say (`Parser::parse`). -/
def Statement.ofTokens (tokens : List Token) : Statement :=
  match loopStart? tokens with
  | some repetitions => .loopStart repetitions
  | none =>
    if isLoopEnd tokens then .loopEnd
    else
      match instruction? tokens with
      | some written => .instruction written
      | none => .ignored

/-- What a line says, upper or lower case. -/
def Statement.ofLine (line : List Char) : Statement :=
  .ofTokens (Token.scan (upperChars line))

/-- What a line of text says (`parse_line`). -/
def Statement.parse (line : String) : Statement :=
  .ofLine line.toList

end InputScript.Script
