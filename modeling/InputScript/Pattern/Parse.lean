/-
From text to tree.

A pattern consists of alternatives, an alternative of parts in a row, and a
part may be repeated. Repetition binds to the part directly in front of it.
-/
import InputScript.Pattern.Bracket
import InputScript.Pattern.Group

set_option autoImplicit false

namespace InputScript.Pattern

open InputScript.Text Reader

/-! ## 1. Repetition -/

/-- The greatest number of repetitions that can be asked for. -/
def maxCount : Nat := 4294967295

/-- Reads a number of repetitions. A missing number is not complained about yet,
because what follows may be worse. -/
def readCount : Reader (Except Complaint Nat) := do
  let _ ← collectChars isWhiteSpace bump
  let start ← here
  let digits ← collectChars Char.isDigit bumpSpaced
  let span ← since start
  let _ ← collectChars isWhiteSpace bumpSpaced
  if digits.isEmpty then return .error ⟨.countMissing, span, none⟩
  let count := Nat.ofDigitChars 10 digits 0
  if maxCount < count then return .error ⟨.countTooLarge, span, none⟩
  return .ok count

/-- Reads the numbers in the braces of a repetition. -/
def readCounts (start : Place) : Reader (Nat × Option Nat) := do
  bumpSpaced
  if (← current?).isNone then fail .countUnclosed (← since start)
  let first ← readCount
  match ← current? with
  | none => fail .countUnclosed (← since start)
  | some ',' =>
    bumpSpaced
    match ← current? with
    | none => fail .countUnclosed (← since start)
    | some '}' =>
      let least ← liftM first
      return (least, none)
    | some _ =>
      let least ← liftM first
      let last ← readCount
      let most ← liftM last
      return (least, some most)
  | some _ =>
    let count ← liftM first
    return (count, some count)

/-- Reads a repetition in braces, together with the sign behind it that asks for
as few rounds as possible. -/
def readBraces : Reader (Nat × Option Nat) := do
  let start ← here
  let (least, most) ← readCounts start
  if (← current?) != some '}' then fail .countUnclosed (← since start)
  bumpSpaced
  if (← current?) = some '?' then bump
  if most.any (· < least) then fail .countsBackwards (← since start)
  return (least, most)

/-- Reads a repetition that is a single sign, together with the sign behind it
that asks for as few rounds as possible. -/
def readRepeatSign (least : Nat) (most : Option Nat) : Reader (Nat × Option Nat) := do
  bump
  if (← current?) = some '?' then bump
  return (least, most)

/-- Reads a repetition if one comes next. -/
def repetition? : Char → Option (Reader (Nat × Option Nat))
  | '?' => some (readRepeatSign 0 (some 1))
  | '*' => some (readRepeatSign 0 none)
  | '+' => some (readRepeatSign 1 none)
  | '{' => some readBraces
  | _ => none

/-! ## 2. Parts and alternatives -/

/-- What has been read of a group or of the whole pattern: the places where it
and its current alternative start, the alternatives before, and the parts of
the current one. Both lists start with what was read last. -/
structure Progress where
  start : Place
  current : Place
  branches : List Tree
  parts : List Tree

namespace Progress

/-- Nothing read yet. -/
def empty (start : Place) : Progress := ⟨start, start, [], []⟩

/-- One part more. -/
def push (progress : Progress) (part : Tree) : Progress :=
  { progress with parts := part :: progress.parts }

/-- The current alternative as a tree. A single part needs no other. -/
def closeBranch (progress : Progress) (stop : Place) : Tree :=
  match progress.parts with
  | [] => .empty ⟨progress.current, stop⟩
  | [part] => part
  | parts => .concatenation ⟨progress.current, stop⟩ parts.reverse

/-- The next alternative, behind the sign between two of them. -/
def split (progress : Progress) (stop next : Place) : Progress :=
  ⟨progress.start, next, progress.closeBranch stop :: progress.branches, []⟩

/-- All that was read as a tree. -/
def close (progress : Progress) (stop : Place) : Tree :=
  match progress.branches with
  | [] => progress.closeBranch stop
  | branches => .alternation ⟨progress.start, stop⟩ (progress.closeBranch stop :: branches).reverse

end Progress

/-- Reads a part that is a single sign. -/
def readPlain (c : Char) : Reader Tree := do
  if c = '\\' then readEscape
  else
    let span ← currentSpan
    bump
    match c with
    | '.' => return .dot span
    | '^' => return .anchor span .lineStart
    | '$' => return .anchor span .lineEnd
    | c => return .literal ⟨span, c, false⟩

/-- Repeats the part that was read last. -/
def repeatLast (progress : Progress) (counts : Reader (Nat × Option Nat)) : Reader Progress := do
  match progress.parts with
  | part :: before =>
    if !part.canRepeat then fail .nothingToRepeat (.point (← here))
    let (least, most) ← counts
    let span : Span := ⟨part.span.start, ← here⟩
    return { progress with parts := .repetition span part least most :: before }
  | [] => fail .nothingToRepeat (.point (← here))

/-- Sets whether white space is skipped. -/
def setSkipsSpace (skips : Bool) : Reader Unit :=
  modify fun cursor => { cursor with skipsSpace := skips }

/-! ## 3. Patterns -/

/-- Reads up to the end or to a closing parenthesis. Every step takes a
character, so `limit` is no bound if it is greater than their number. -/
def readParts : Nat → Progress → Reader Tree
  | 0, progress => return progress.close (← here)
  | limit + 1, progress => do
    skipSpace
    match ← current? with
    | none => return progress.close (← here)
    | some ')' => return progress.close (← here)
    | some '|' =>
      let stop ← here
      bump
      readParts limit (progress.split stop (← here))
    | some '(' =>
      let skips := (← get).skipsSpace
      match ← readOpeningSign with
      | .flags span changes =>
        setSkipsSpace (settingAfter changes .ignoreSpace skips)
        readParts limit (progress.push (.flags span changes))
      | .group sign changes =>
        setSkipsSpace (settingAfter changes .ignoreSpace skips)
        let body ← readParts limit (.empty (← here))
        if (← current?).isNone then fail .groupUnclosed sign
        setSkipsSpace skips
        bump
        readParts limit (progress.push (.group (← since sign.start) changes body))
    | some '[' =>
      let (span, negated, inner) ← readBracket (2 * (← remaining) + 1)
      readParts limit (progress.push (.bracketed span negated inner))
    | some c =>
      match repetition? c with
      | some counts => readParts limit (← repeatLast progress counts)
      | none => readParts limit (progress.push (← readPlain c))

/-- How many levels of parts may lie in each other. -/
def maxLevels : Nat := 250

/-- Reads a whole pattern. -/
def readTree : Reader Tree := do
  let tree ← readParts ((← remaining) + 1) (.empty (← here))
  if (← current?).isSome then fail .groupUnopened (← currentSpan)
  match tree.tooDeep? maxLevels with
  | some span => fail (.tooDeep maxLevels) span
  | none => return tree

/-- The tree of a pattern, or what is wrong with it. -/
def Tree.parse (source : List Char) : Except Complaint Tree :=
  readTree.run' (.ofText source)

end InputScript.Pattern
