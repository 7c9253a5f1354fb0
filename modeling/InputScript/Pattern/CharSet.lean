/-
Sets of characters.

A set is described by ranges of codes and the operations of set algebra. What
counts is only which codes it contains.
-/
import InputScript.Pattern.Tree

set_option autoImplicit false

namespace InputScript.Pattern

/-! ## 1. Descriptions -/

/-- A set of character codes. -/
inductive CharSet where
  | empty
  | range (first last : Nat)
  | union (left right : CharSet)
  | inter (left right : CharSet)
  | minus (left right : CharSet)
  | differing (left right : CharSet)
  | complement (set : CharSet)
  /-- The set together with the ASCII letters of the other case. -/
  | bothCases (set : CharSet)
deriving DecidableEq, Repr

namespace CharSet

/-- The code of an ASCII letter in the other case; other codes stay. -/
def otherCase (code : Nat) : Nat :=
  if 0x41 ≤ code ∧ code ≤ 0x5A then code + 0x20
  else if 0x61 ≤ code ∧ code ≤ 0x7A then code - 0x20
  else code

/-- Whether a set contains a code. -/
def contains (code : Nat) : CharSet → Bool
  | .empty => false
  | .range first last => first ≤ code && code ≤ last
  | .union left right => left.contains code || right.contains code
  | .inter left right => left.contains code && right.contains code
  | .minus left right => left.contains code && !right.contains code
  | .differing left right => left.contains code != right.contains code
  | .complement set => !set.contains code
  | .bothCases set => set.contains code || set.contains (otherCase code)

/-- The set of a single character. -/
def single (c : Char) : CharSet := .range c.toNat c.toNat

/-- The set of two characters and all between them. -/
def between (first last : Char) : CharSet := .range first.toNat last.toNat

/-- The union of several sets. -/
def unions (sets : List CharSet) : CharSet := sets.foldr .union .empty

/-- Whether a set of bytes holds ASCII characters only. -/
def isAscii (set : CharSet) : Bool :=
  (List.range 128).all fun offset => !set.contains (128 + offset)

/-- Whether a set is made of nothing and everything alone, so that it holds both
cases of all its letters in any script. -/
def isUncased : CharSet → Bool
  | .empty => true
  | .range _ _ => false
  | .union left right => left.isUncased && right.isUncased
  | .inter left right => left.isUncased && right.isUncased
  | .minus left right => left.isUncased && right.isUncased
  | .differing left right => left.isUncased && right.isUncased
  | .complement set => set.isUncased
  | .bothCases set => set.isUncased

end CharSet

/-! ## 2. Named sets -/

/-- The characters of a named class. -/
def NamedClass.chars : NamedClass → CharSet
  | .alnum => .unions [.between '0' '9', .between 'A' 'Z', .between 'a' 'z']
  | .alpha => .unions [.between 'A' 'Z', .between 'a' 'z']
  | .ascii => .range 0 0x7F
  | .blank => .unions [.single '\t', .single ' ']
  | .cntrl => .unions [.range 0 0x1F, .range 0x7F 0x7F]
  | .digit => .between '0' '9'
  | .graph => .between '!' '~'
  | .lower => .between 'a' 'z'
  | .print => .between ' ' '~'
  | .punct =>
    .unions [.between '!' '/', .between ':' '@', .between '[' '\x60', .between '\x7b' '~']
  | .space => .unions [.range 9 13, .single ' ']
  | .upper => .between 'A' 'Z'
  | .word => .unions [.between '0' '9', .between 'A' 'Z', .single '_', .between 'a' 'z']
  | .xdigit => .unions [.between '0' '9', .between 'A' 'F', .between 'a' 'f']

/-- The ASCII characters of a shorthand class. -/
def Shorthand.chars : Shorthand → CharSet
  | .digit => NamedClass.digit.chars
  | .space => NamedClass.space.chars
  | .word => NamedClass.word.chars

end InputScript.Pattern
