/-
The written form of a pattern.

A tree keeps every part of a pattern with its place in the text, so that
complaints about its meaning can point at the part they are about. What a part
means depends on the flags in force, which only a later pass knows.
-/
import InputScript.Pattern.Place

set_option autoImplicit false

namespace InputScript.Pattern

/-! ## 1. Leaves -/

/-- A single character. `isByte` is set for two hexadecimal digits behind `\x`,
which name a byte where Unicode is switched off. -/
structure Literal where
  span : Span
  char : Char
  isByte : Bool
deriving DecidableEq, Repr

/-- Conditions on a place in the text. -/
inductive Anchor where
  | lineStart
  | lineEnd
  | textStart
  | textEnd
  | wordBoundary
  | noWordBoundary
  | wordStart
  | wordEnd
  | wordStartHalf
  | wordEndHalf
deriving DecidableEq, Repr

/-- Classes that have a letter of their own. -/
inductive Shorthand where
  | digit
  | space
  | word
deriving DecidableEq, Repr

/-- Classes of ASCII characters that have a name. -/
inductive NamedClass where
  | alnum
  | alpha
  | ascii
  | blank
  | cntrl
  | digit
  | graph
  | lower
  | print
  | punct
  | space
  | upper
  | word
  | xdigit
deriving DecidableEq, Repr

/-- The class with a name. -/
def NamedClass.named? (name : String) : Option NamedClass :=
  match name with
  | "alnum" => some .alnum
  | "alpha" => some .alpha
  | "ascii" => some .ascii
  | "blank" => some .blank
  | "cntrl" => some .cntrl
  | "digit" => some .digit
  | "graph" => some .graph
  | "lower" => some .lower
  | "print" => some .print
  | "punct" => some .punct
  | "space" => some .space
  | "upper" => some .upper
  | "word" => some .word
  | "xdigit" => some .xdigit
  | _ => none

/-- How a class is asked for by a property. -/
inductive Property where
  | named (name : List Char)
  | valued
deriving DecidableEq, Repr

/-! ## 2. Flags -/

/-- What can be switched on and off inside a pattern. -/
inductive Flag where
  | ignoreCase
  | multiLine
  | dotMatchesNewLine
  | swapGreed
  | unicode
  | crlf
  | ignoreSpace
deriving DecidableEq, Repr

/-- The flag with a letter. -/
def Flag.ofChar? : Char → Option Flag
  | 'i' => some .ignoreCase
  | 'm' => some .multiLine
  | 's' => some .dotMatchesNewLine
  | 'U' => some .swapGreed
  | 'u' => some .unicode
  | 'R' => some .crlf
  | 'x' => some .ignoreSpace
  | _ => none

/-- Flags and whether they are switched on. -/
abbrev FlagChanges := List (Flag × Bool)

/-- The setting of a flag after changes. -/
def settingAfter (changes : FlagChanges) (flag : Flag) (before : Bool) : Bool :=
  (changes.lookup flag).getD before

/-! ## 3. Classes -/

/-- Ways to make one set of two. -/
inductive SetOperation where
  | intersection
  | difference
  | symmetricDifference
deriving DecidableEq, Repr

/-- What stands between brackets. -/
inductive ClassTree where
  | empty (span : Span)
  | literal (literal : Literal)
  | range (span : Span) (first last : Literal)
  | named (span : Span) (kind : NamedClass) (negated : Bool)
  | shorthand (span : Span) (kind : Shorthand) (negated : Bool)
  | property (span : Span) (property : Property)
  | bracketed (span : Span) (negated : Bool) (inner : ClassTree)
  | union (span : Span) (items : List ClassTree)
  | operation (span : Span) (kind : SetOperation) (left right : ClassTree)
deriving Repr

/-- Where a part of a class stands. -/
def ClassTree.span : ClassTree → Span
  | .empty span => span
  | .literal l => l.span
  | .range span _ _ => span
  | .named span _ _ => span
  | .shorthand span _ _ => span
  | .property span _ => span
  | .bracketed span _ _ => span
  | .union span _ => span
  | .operation span _ _ _ => span

/-! ## 4. Patterns -/

/-- A pattern or a part of one. -/
inductive Tree where
  | empty (span : Span)
  | flags (span : Span) (changes : FlagChanges)
  | literal (literal : Literal)
  | dot (span : Span)
  | anchor (span : Span) (kind : Anchor)
  | shorthand (span : Span) (kind : Shorthand) (negated : Bool)
  | property (span : Span) (property : Property)
  | bracketed (span : Span) (negated : Bool) (inner : ClassTree)
  | repetition (span : Span) (body : Tree) (least : Nat) (most : Option Nat)
  | group (span : Span) (changes : FlagChanges) (body : Tree)
  | alternation (span : Span) (branches : List Tree)
  | concatenation (span : Span) (parts : List Tree)
deriving Repr

namespace Tree

/-- Where a part of a pattern stands. -/
def span : Tree → Span
  | .empty span => span
  | .flags span _ => span
  | .literal l => l.span
  | .dot span => span
  | .anchor span _ => span
  | .shorthand span _ _ => span
  | .property span _ => span
  | .bracketed span _ _ => span
  | .repetition span _ _ _ => span
  | .group span _ _ => span
  | .alternation span _ => span
  | .concatenation span _ => span

/-- Whether a repetition may follow. -/
def canRepeat : Tree → Bool
  | .empty _ => false
  | .flags _ _ => false
  | _ => true

end Tree

/-! ## 5. Nesting -/

mutual

/-- The first part of a class that lies more than `levels` levels deep. -/
def ClassTree.tooDeep? (levels : Nat) : ClassTree → Option Span
  | .bracketed span _ inner =>
    match levels with
    | 0 => some span
    | below + 1 => inner.tooDeep? below
  | .union span items =>
    match levels with
    | 0 => some span
    | below + 1 => ClassTree.anyTooDeep? below items
  | .operation span _ left right =>
    match levels with
    | 0 => some span
    | below + 1 => (left.tooDeep? below).or (right.tooDeep? below)
  | _ => none

/-- The first part of some classes that lies more than `levels` levels deep. -/
def ClassTree.anyTooDeep? (levels : Nat) : List ClassTree → Option Span
  | [] => none
  | item :: rest => (item.tooDeep? levels).or (ClassTree.anyTooDeep? levels rest)

end

mutual

/-- The first part of a pattern that lies more than `levels` levels deep. Only
parts made of others count as levels. -/
def Tree.tooDeep? (levels : Nat) : Tree → Option Span
  | .bracketed span _ inner =>
    match levels with
    | 0 => some span
    | below + 1 => inner.tooDeep? below
  | .repetition span body _ _ =>
    match levels with
    | 0 => some span
    | below + 1 => body.tooDeep? below
  | .group span _ body =>
    match levels with
    | 0 => some span
    | below + 1 => body.tooDeep? below
  | .alternation span branches =>
    match levels with
    | 0 => some span
    | below + 1 => Tree.anyTooDeep? below branches
  | .concatenation span parts =>
    match levels with
    | 0 => some span
    | below + 1 => Tree.anyTooDeep? below parts
  | _ => none

/-- The first of several parts that lies more than `levels` levels deep. -/
def Tree.anyTooDeep? (levels : Nat) : List Tree → Option Span
  | [] => none
  | part :: rest => (part.tooDeep? levels).or (Tree.anyTooDeep? levels rest)

end

end InputScript.Pattern
