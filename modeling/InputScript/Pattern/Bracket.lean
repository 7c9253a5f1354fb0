/-
Classes in brackets.

Between brackets stand characters, ranges, classes and further brackets, which
make up one set together. Two such sets may be joined by `&&`, `--` or `~~`,
which all bind alike and to the left. A bracket that closes at once and hyphens
at the front are literal.
-/
import InputScript.Pattern.Escape

set_option autoImplicit false

namespace InputScript.Pattern

open Reader

/-! ## 1. Named classes -/

/-- A named class, whether it stands for what is not in the class, and how many
characters it takes. -/
def namedClass? (text : List Char) : Option (NamedClass × Bool × Nat) :=
  match text with
  | '[' :: ':' :: inner =>
    let negated := inner.head? == some '^'
    let name := (if negated then inner.tail else inner).takeWhile (· != ':')
    let length := 2 + (if negated then 1 else 0) + name.length
    if [':', ']'].isPrefixOf (text.drop length) then
      (NamedClass.named? (String.ofList name)).map fun kind => (kind, negated, length + 2)
    else none
  | _ => none

/-- Reads a named class if one comes next. -/
def readNamedClass? : Reader (Option ClassTree) := do
  match namedClass? (← get).rest with
  | none => return none
  | some (kind, negated, length) =>
    let start ← here
    (List.replicate length ()).forM fun _ => bump
    return some (.named (← since start) kind negated)

/-! ## 2. Items -/

/-- The items of a set so far, the last one first, and the part they take. -/
structure ItemList where
  span : Span
  items : List ClassTree

namespace ItemList

/-- No items, in front of a place. -/
def empty (place : Place) : ItemList := ⟨.point place, []⟩

/-- One item more. -/
def push (list : ItemList) (item : ClassTree) : ItemList :=
  ⟨⟨if list.items.isEmpty then item.span.start else list.span.start, item.span.stop⟩,
    item :: list.items⟩

/-- The set of all items. A single item is a set of its own. -/
def close (list : ItemList) : ClassTree :=
  match list.items with
  | [] => .empty list.span
  | [item] => item
  | items => .union list.span items.reverse

end ItemList

/-- Reads a character or what a backslash stands for. -/
def readMember : Reader Tree := do
  match ← current? with
  | some '\\' => readEscape
  | some c =>
    let span ← currentSpan
    bump
    return .literal ⟨span, c, false⟩
  | none => return .empty (.point (← here))

/-- What may stand between brackets on its own. -/
def itemOf : Tree → Reader ClassTree
  | .literal l => return .literal l
  | .shorthand span kind negated => return .shorthand span kind negated
  | .property span property => return .property span property
  | other => fail .classEscape other.span

/-- What may stand at an end of a range. -/
def boundaryOf : Tree → Reader Literal
  | .literal l => return l
  | other => fail .rangeBoundary other.span

/-- Reads an item or a range. A hyphen makes a range unless a bracket closes or
a second hyphen follows. `opened` is what to complain about at the end. -/
def readItem (opened : Span) : Reader ClassTree := do
  let first ← readMember
  skipSpace
  match ← current? with
  | none => fail .classUnclosed opened
  | some c =>
    let next ← followingSpaced?
    if c != '-' || next == some ']' || next == some '-' then itemOf first
    else
      bumpSpaced
      if (← current?).isNone then fail .classUnclosed opened
      let last ← readMember
      let span : Span := ⟨first.span.start, last.span.stop⟩
      let low ← boundaryOf first
      let high ← boundaryOf last
      if high.char < low.char then fail .rangeBackwards span
      return .range span low high

/-! ## 3. Brackets -/

/-- Reads hyphens at the front of a bracket, at most `limit` of them. -/
def readHyphens (start : Place) : Nat → ItemList → Reader ItemList
  | 0, list => return list
  | limit + 1, list => do
    if (← current?) = some '-' then
      let span ← currentSpan
      bumpSpaced
      if (← current?).isNone then fail .classUnclosed (.point start)
      readHyphens start limit (list.push (.literal ⟨span, '-', false⟩))
    else return list

/-- Reads the start of a bracket: whether it is negated, and the signs that are
literal only there. -/
def readOpening (start : Place) : Reader (Bool × ItemList) := do
  bumpSpaced
  if (← current?).isNone then fail .classUnclosed (← since start)
  let negated := (← current?) == some '^'
  if negated then
    bumpSpaced
    if (← current?).isNone then fail .classUnclosed (← since start)
  let list ← readHyphens start (← remaining) (.empty (← here))
  if list.items.isEmpty && (← current?) == some ']' then
    let span ← currentSpan
    bumpSpaced
    if (← current?).isNone then fail .classUnclosed (← since start)
    return (negated, list.push (.literal ⟨span, ']', false⟩))
  else return (negated, list)

/-- The way to join sets that a doubled sign stands for. -/
def operation? : Char → Option SetOperation
  | '&' => some .intersection
  | '-' => some .difference
  | '~' => some .symmetricDifference
  | _ => none

/-- A set joined to what stands to its left. -/
def joined (left : Option (SetOperation × ClassTree)) (right : ClassTree) : ClassTree :=
  match left with
  | none => right
  | some (kind, other) => .operation ⟨other.span.start, right.span.stop⟩ kind other right

mutual

/-- Reads a bracket from its opening sign on. At most two steps are made for
each character, so `limit` is no bound if it is more than twice their number. -/
def readBracket (limit : Nat) : Reader (Span × Bool × ClassTree) := do
  match limit with
  | 0 => fail .classUnclosed (← currentSpan)
  | limit + 1 =>
    let start ← here
    let (negated, list) ← readOpening start
    let inner ← readItems limit (← since start) none list
    bump
    return (← since start, negated, inner)

/-- Reads items up to the closing bracket. -/
def readItems (limit : Nat) (opened : Span) (left : Option (SetOperation × ClassTree))
    (list : ItemList) : Reader ClassTree := do
  match limit with
  | 0 => fail .classUnclosed opened
  | limit + 1 =>
    skipSpace
    match ← current? with
    | none => fail .classUnclosed opened
    | some ']' => return joined left list.close
    | some '[' =>
      match ← readNamedClass? with
      | some item => readItems limit opened left (list.push item)
      | none =>
        let (span, negated, inner) ← readBracket limit
        readItems limit opened left (list.push (.bracketed span negated inner))
    | some c =>
      match operation? c with
      | some kind =>
        if (← following?) = some c then
          bump
          bump
          readItems limit opened (some (kind, joined left list.close)) (.empty (← here))
        else readItems limit opened left (list.push (← readItem opened))
      | none => readItems limit opened left (list.push (← readItem opened))

end

end InputScript.Pattern
