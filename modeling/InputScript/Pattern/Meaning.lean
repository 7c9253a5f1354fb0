/-
From the written form of a pattern to what it matches.

Flags change the meaning of what follows them up to the end of their group.
With Unicode switched on, characters beyond ASCII can be named and excluded, but
there are no tables for their cases, words or properties. With Unicode switched
off classes are made of bytes, and whatever could match part of a character is
refused.
-/
import InputScript.Pattern.Complaint
import InputScript.Pattern.Expression

set_option autoImplicit false

namespace InputScript.Pattern

/-! ## 1. Modes -/

/-- The flags in force that make a difference to what is matched. -/
structure Mode where
  ignoreCase : Bool
  multiLine : Bool
  dotMatchesNewLine : Bool
  crlf : Bool
  unicode : Bool
deriving DecidableEq, Repr

namespace Mode

/-- The mode at the start of a pattern. -/
def initial : Mode := ⟨false, false, false, false, true⟩

/-- The mode after changes. -/
def change (changes : FlagChanges) (mode : Mode) : Mode where
  ignoreCase := settingAfter changes .ignoreCase mode.ignoreCase
  multiLine := settingAfter changes .multiLine mode.multiLine
  dotMatchesNewLine := settingAfter changes .dotMatchesNewLine mode.dotMatchesNewLine
  crlf := settingAfter changes .crlf mode.crlf
  unicode := settingAfter changes .unicode mode.unicode

end Mode

/-- A meaning, or a complaint about a part of the pattern. -/
abbrev Meant (α : Type) := Except Complaint α

/-- Complains about a part of the pattern. -/
def refuse {α : Type} (problem : Problem) (span : Span) : Meant α :=
  .error ⟨problem, span, none⟩

/-! ## 2. Classes -/

/-- The set with both cases of its letters, if the mode asks for them. -/
def foldCase (mode : Mode) (span : Span) (set : CharSet) : Meant CharSet :=
  if !mode.ignoreCase then .ok set
  else if !mode.unicode then .ok (.bothCases set)
  else if set.isUncased then .ok set
  else refuse .caseUnavailable span

/-- The set or what is not in it. A set of bytes must not reach beyond ASCII. -/
def negateIf (negated : Bool) (mode : Mode) (span : Span) (set : CharSet) : Meant CharSet :=
  let set := if negated then .complement set else set
  if mode.unicode || set.isAscii then .ok set else refuse .matchesNonText span

/-- A character as a member of a class. -/
def Literal.member (mode : Mode) (l : Literal) : Meant Char :=
  if mode.unicode || l.char.toNat < 128 then .ok l.char
  else refuse (if l.isByte then .matchesNonText else .unicodeSwitchedOff) l.span

/-- The set of a shorthand class, which is known for ASCII only. -/
def Shorthand.meaning (mode : Mode) (span : Span) (negated : Bool) (kind : Shorthand) :
    Meant CharSet :=
  if mode.unicode then refuse .shorthandUnavailable span
  else negateIf negated mode span kind.chars

/-- The letters and digits of a property's name. Case, blanks, hyphens,
underscores and the word `is` in front make no difference. -/
def plainName (name : List Char) : List Char :=
  let lower := name.map Char.toLower
  let isLed := ['i', 's'].isPrefixOf lower
  let plain := (if isLed then lower.drop 2 else lower).filter fun c =>
    c != ' ' && c != '_' && c != '-' && c.toNat < 128
  if isLed && plain == ['c'] then ['i', 's', 'c'] else plain

/-- The names that stand for values of a property before they stand for a
property. -/
def valueNames : List (List Char) := [['c', 'f'], ['s', 'c'], ['l', 'c']]

/-- Why a property is not known. -/
def Property.problem (mode : Mode) : Property → Problem
  | .named name =>
    if !mode.unicode then .unicodeSwitchedOff
    else if valueNames.contains (plainName name) then .propertyValueUnknown
    else .propertyUnknown
  | .valued => if !mode.unicode then .unicodeSwitchedOff else .propertyUnknown

/-- Two sets joined. -/
def SetOperation.apply : SetOperation → CharSet → CharSet → CharSet
  | .intersection => .inter
  | .difference => .minus
  | .symmetricDifference => .differing

mutual

/-- The set of a class. -/
def ClassTree.meaning (mode : Mode) : ClassTree → Meant CharSet
  | .empty _ => .ok .empty
  | .literal l => return .single (← l.member mode)
  | .range _ first last => do
    let first ← first.member mode
    let last ← last.member mode
    return .between first last
  | .named span kind negated => do
    negateIf negated mode span (← foldCase mode span kind.chars)
  | .shorthand span kind negated => kind.meaning mode span negated
  | .property span asked => refuse (asked.problem mode) span
  | .bracketed span negated inner => do
    let set ← inner.meaning mode
    negateIf negated mode span (← foldCase mode span set)
  | .union _ items => return .unions (← ClassTree.meanings mode items)
  | .operation _ kind left right => do
    let leftSet ← left.meaning mode
    let rightSet ← right.meaning mode
    let rightSet ← foldCase mode right.span rightSet
    let leftSet ← foldCase mode left.span leftSet
    return kind.apply leftSet rightSet

/-- The sets of several classes. -/
def ClassTree.meanings (mode : Mode) : List ClassTree → Meant (List CharSet)
  | [] => .ok []
  | item :: rest => return (← item.meaning mode) :: (← ClassTree.meanings mode rest)

end

/-! ## 3. Leaves -/

/-- The characters that a dot matches: all but the ends of lines, or all. -/
def dotChars (mode : Mode) : CharSet :=
  if mode.dotMatchesNewLine then .complement .empty
  else if mode.crlf then .complement (.unions [.single '\n', .single '\r'])
  else .complement (.single '\n')

/-- What a single character matches. -/
def Literal.meaning (mode : Mode) (l : Literal) : Meant Expression :=
  if mode.unicode || l.char.toNat < 128 then
    (foldCase mode l.span (.single l.char)).map .char
  else if l.isByte then refuse .matchesNonText l.span
  else .ok (.char (.single l.char))

/-- What a condition asks for. -/
def Anchor.look (mode : Mode) : Anchor → Look
  | .lineStart =>
    if !mode.multiLine then .textStart else if mode.crlf then .crlfLineStart else .lineStart
  | .lineEnd =>
    if !mode.multiLine then .textEnd else if mode.crlf then .crlfLineEnd else .lineEnd
  | .textStart => .textStart
  | .textEnd => .textEnd
  | .wordBoundary => .word .boundary mode.unicode
  | .noWordBoundary => .word .noBoundary mode.unicode
  | .wordStart => .word .start mode.unicode
  | .wordEnd => .word .stop mode.unicode
  | .wordStartHalf => .word .startHalf mode.unicode
  | .wordEndHalf => .word .stopHalf mode.unicode

/-! ## 4. Patterns -/

mutual

/-- What a part of a pattern matches, and the mode behind it. -/
def Tree.meaning (mode : Mode) : Tree → Meant (Expression × Mode)
  | .empty _ => .ok (.nothing, mode)
  | .flags _ changes => .ok (.nothing, mode.change changes)
  | .literal l => return (← l.meaning mode, mode)
  | .dot span =>
    if mode.unicode then .ok (.char (dotChars mode), mode) else refuse .matchesNonText span
  | .anchor _ kind => .ok (.look (kind.look mode), mode)
  | .shorthand span kind negated => return (.char (← kind.meaning mode span negated), mode)
  | .property span asked => refuse (asked.problem mode) span
  | .bracketed span negated inner => do
    let set ← inner.meaning mode
    return (.char (← negateIf negated mode span (← foldCase mode span set)), mode)
  | .repetition _ body least most => do
    let (inner, after) ← body.meaning mode
    return (inner.repeating least most, after)
  | .group _ changes body => do
    let (inner, _) ← body.meaning (mode.change changes)
    return (inner, mode)
  | .alternation _ branches => do
    let (parts, after) ← Tree.meanings mode branches
    return (.eitherOf parts, after)
  | .concatenation _ parts => do
    let (parts, after) ← Tree.meanings mode parts
    return (.sequenceOf parts, after)

/-- What several parts match, each in the mode behind the one before. -/
def Tree.meanings (mode : Mode) : List Tree → Meant (List Expression × Mode)
  | [] => .ok ([], mode)
  | part :: rest => do
    let (first, between) ← part.meaning mode
    let (others, after) ← Tree.meanings between rest
    return (first :: others, after)

end

end InputScript.Pattern
