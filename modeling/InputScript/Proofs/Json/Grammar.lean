/-
What a JSON text stands for.

The grammar relates texts to values and leaves nothing out of either: white space may
stand around every token, a character inside quotes may be spelled in several ways, and
the members of an object are listed in the order of the text, repeated names included. It
says nothing about how a text is read. A number is the one that its numeral is rounded to,
so a numeral that overflows is in no text. Values carry the number of levels that their
arrays and objects may take.
-/
import InputScript.Json.Printer
import InputScript.Json.Reader
import InputScript.Proofs.Json.Numeral

set_option autoImplicit false

namespace InputScript.Json

open InputScript.Text

/-! ## 1. White space and separators -/

/-- White space, or nothing. -/
def Gap (text : List Char) : Prop :=
  ∀ c ∈ text, isSpace c = true

theorem gap_nil : Gap [] := by
  rintro _ ⟨⟩

/-- A list of texts starts with the first of them. -/
theorem exists_separated_cons (separator item : List Char) (rest : List (List Char)) :
    ∃ tail, separated separator (item :: rest) = item ++ tail := by
  cases rest with
  | nil => exact ⟨[], (List.append_nil item).symm⟩
  | cons next more => exact ⟨_, List.append_assoc item separator _⟩

/-- The separator stands between the first text and the others, if there are others. -/
theorem separated_cons {separator item : List Char} {rest : List (List Char)} (h : rest ≠ []) :
    separated separator (item :: rest) = item ++ separator ++ separated separator rest := by
  rw [separated]
  exact h

/-! ## 2. Strings -/

/-- A piece of a text in quotes, and the character it stands for. -/
inductive SpellsChar : List Char → Char → Prop where
  /-- Any character but a control character, a quote and a backslash stands for itself. -/
  | plain {c : Char} (hcontrol : ¬c.toNat < 0x20) (hquote : c ≠ '"') (hbackslash : c ≠ '\\') :
      SpellsChar [c] c
  /-- A letter or sign behind a backslash. -/
  | short {letter c : Char} (h : unescape? letter = some c) : SpellsChar ['\\', letter] c
  /-- The four hexadecimal digits of a character that is not half of a pair. -/
  | unit {a b c d : Char} {unit : Nat} (h : hexUnit? a b c d = some unit)
      (hhigh : isHighSurrogate unit = false) (hlow : isLowSurrogate unit = false) :
      SpellsChar ['\\', 'u', a, b, c, d] (Char.ofNat unit)
  /-- Both halves of a pair. -/
  | pair {a b c d e f g h : Char} {high low : Nat} (hfirst : hexUnit? a b c d = some high)
      (hhigh : isHighSurrogate high = true) (hsecond : hexUnit? e f g h = some low)
      (hlow : isLowSurrogate low = true) :
      SpellsChar ['\\', 'u', a, b, c, d, '\\', 'u', e, f, g, h] (pairedChar high low)

/-- A text in quotes, without them, and the characters it stands for. -/
inductive SpellsChars : List Char → List Char → Prop where
  | nil : SpellsChars [] []
  | cons {piece text chars : List Char} {c : Char} (hpiece : SpellsChar piece c)
      (htext : SpellsChars text chars) : SpellsChars (piece ++ text) (c :: chars)

/-! ## 3. Values -/

/-- A value with its text and the white space around it. -/
structure Item where
  before : List Char
  text : List Char
  value : Value
  after : List Char

/-- The text of an item with the white space around it. -/
def Item.chars (item : Item) : List Char :=
  item.before ++ item.text ++ item.after

/-- Around the text there is white space only. -/
structure Item.Spaced (item : Item) : Prop where
  before : Gap item.before
  after : Gap item.after

/-- A member of an object: an item behind its name, which is spelled between quotes. -/
structure Member extends Item where
  beforeName : List Char
  spelling : List Char
  name : String
  afterName : List Char

/-- The text of a member with the white space around it. -/
def Member.chars (member : Member) : List Char :=
  member.beforeName ++ '"' :: member.spelling ++ '"' :: member.afterName
    ++ ':' :: member.toItem.chars

/-- The name and the value of a member. -/
def Member.pair (member : Member) : String × Value :=
  (member.name, member.value)

/-- The name is spelled, and around it and the value there is white space only. -/
structure Member.Spaced (member : Member) : Prop where
  item : member.toItem.Spaced
  beforeName : Gap member.beforeName
  name : SpellsChars member.spelling member.name.toList
  afterName : Gap member.afterName

/-- The texts of the values that take up to a number of levels. -/
inductive Spells : Nat → List Char → Value → Prop where
  | null {depth : Nat} : Spells depth ['n', 'u', 'l', 'l'] .null
  | boolTrue {depth : Nat} : Spells depth ['t', 'r', 'u', 'e'] (.bool true)
  | boolFalse {depth : Nat} : Spells depth ['f', 'a', 'l', 's', 'e'] (.bool false)
  | number {depth : Nat} {numeral : Numeral} {number : Number} (hstandard : numeral.Standard)
      (hvalue : numberOf? numeral = some number) : Spells depth numeral.chars (.number number)
  | string {depth : Nat} {text : List Char} {s : String} (h : SpellsChars text s.toList) :
      Spells depth ('"' :: text ++ ['"']) (.string s)
  | array {depth : Nat} {items : List Item} {gap : List Char}
      (hspaced : ∀ item ∈ items, item.Spaced)
      (hitems : ∀ item ∈ items, Spells depth item.text item.value) (hgap : Gap gap) :
      Spells (depth + 1) ('[' :: separated [','] (items.map Item.chars) ++ gap ++ [']'])
        (.array (items.map Item.value))
  | object {depth : Nat} {members : List Member} {gap : List Char}
      (hspaced : ∀ member ∈ members, member.Spaced)
      (hmembers : ∀ member ∈ members, Spells depth member.text member.value) (hgap : Gap gap) :
      Spells (depth + 1) ('\x7b' :: separated [','] (members.map Member.chars) ++ gap ++ ['\x7d'])
        (.object (members.map Member.pair))

end InputScript.Json
