/-
The start of a group.

Behind an opening parenthesis may stand a name, flags for the group, or flags
for what follows it. Names are taken once only, and look-around is refused.
-/
import InputScript.Pattern.Cursor
import InputScript.Pattern.Tree
import InputScript.Text.Letters

set_option autoImplicit false

namespace InputScript.Pattern

open InputScript.Text Reader

/-! ## 1. Names -/

/-- Whether a character may stand in a name. Names start with a letter or an
underscore. -/
def isNameChar (isFirst : Bool) (c : Char) : Bool :=
  if isFirst then c == '_' || isLetter c
  else c == '_' || c == '.' || c == '[' || c == ']' || isLetterOrNumber c

/-- Reads a name up to the angle bracket behind it. -/
def readNameChars (isFirst : Bool) : Nat → Reader (List Char)
  | 0 => return []
  | limit + 1 => do
    match ← current? with
    | none => return []
    | some c =>
      if c = '>' then return []
      if !isNameChar isFirst c then fail .nameInvalid (← currentSpan)
      bump
      return c :: (← readNameChars false limit)

/-- Reads the name of a group. -/
def readName : Reader Unit := do
  let start ← here
  let name ← readNameChars true (← remaining)
  let span ← since start
  if (← current?).isNone then fail .nameUnclosed (.point (← here))
  bump
  if name.isEmpty then fail .nameEmpty (.point start)
  match (← get).names.lookup name with
  | some earlier => throw ⟨.nameTwice, span, some earlier⟩
  | none => modify fun cursor => { cursor with names := (name, span) :: cursor.names }

/-! ## 2. Flags -/

/-- A flag, or the sign that switches off the flags behind it. -/
structure FlagSign where
  span : Span
  flag : Option Flag

/-- What a character says among flags. -/
def readFlagSign (c : Char) : Reader FlagSign := do
  let span ← currentSpan
  if c = '-' then return ⟨span, none⟩
  match Flag.ofChar? c with
  | some flag => return ⟨span, some flag⟩
  | none => fail .flagUnknown span

/-- Reads flags up to a colon or a closing parenthesis. No sign may stand twice.
The signs so far are listed from the last one on. -/
def readFlagSigns : Nat → List FlagSign → Reader (List FlagSign)
  | 0, signs => return signs
  | limit + 1, signs => do
    match ← current? with
    | none => fail .flagsUnfinished (.point (← here))
    | some c =>
      if c = ':' ∨ c = ')' then return signs
      let sign ← readFlagSign c
      match signs.find? fun earlier => earlier.flag == sign.flag with
      | some earlier =>
        let problem := if c = '-' then .flagsNegatedTwice else .flagTwice
        throw ⟨problem, sign.span, some earlier.span⟩
      | none =>
        bump
        readFlagSigns limit (sign :: signs)

/-- What signs switch on and off. -/
def changesOf (on : Bool) : List FlagSign → FlagChanges
  | [] => []
  | sign :: rest =>
    match sign.flag with
    | none => changesOf false rest
    | some flag => (flag, on) :: changesOf on rest

/-- Reads flags. The sign that switches off has to have a flag behind it. -/
def readFlags : Reader FlagChanges := do
  let signs ← readFlagSigns ((← remaining) + 1) []
  match signs.head? with
  | some ⟨span, none⟩ => fail .flagsNegateNothing span
  | _ => return changesOf true signs.reverse

/-! ## 3. Openings -/

/-- What an opening parenthesis begins. -/
inductive Opening where
  /-- Flags for what follows, which are complete by themselves. -/
  | flags (span : Span) (changes : FlagChanges)
  /-- A group that starts with a sign. -/
  | group (sign : Span) (changes : FlagChanges)

/-- Whether look-around comes next. -/
def readLookAround : Reader Bool := do
  if ← bumpIf "?=" then return true
  else if ← bumpIf "?!" then return true
  else if ← bumpIf "?<=" then return true
  else bumpIf "?<!"

/-- Reads an opening parenthesis and what belongs to it. -/
def readOpeningSign : Reader Opening := do
  let sign ← currentSpan
  bump
  skipSpace
  if ← readLookAround then fail .lookAround (← since sign.start)
  let inner ← here
  if ← bumpIf "?P<" then
    readName
    return .group sign []
  else if ← bumpIf "?<" then
    readName
    return .group sign []
  else if ← bumpIf "?" then
    if (← current?).isNone then fail .groupUnclosed sign
    let changes ← readFlags
    let closes := (← current?) == some ')'
    bump
    if !closes then return .group sign changes
    if changes.isEmpty then fail .nothingToRepeat (.point inner)
    return .flags (← since sign.start) changes
  else return .group sign []

end InputScript.Pattern
