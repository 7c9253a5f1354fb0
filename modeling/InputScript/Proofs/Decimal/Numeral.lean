/-
The parts of a written number.

A number is written as a sign, digits, a fraction behind a point, and an exponent, of
which all but the digits may be missing. A layout only decides which of these parts there
are and where the digits are cut; what is said here about the parts holds of all layouts.
-/
import InputScript.Decimal.Layout
import Mathlib.Data.List.Basic

set_option autoImplicit false

namespace InputScript

/-! ## 1. Numerals -/

/-- The sign in front of an exponent. -/
inductive ExponentSign where
  | unsigned
  | plus
  | minus
deriving DecidableEq, Repr

/-- The exponent of a written number. -/
structure ExponentPart where
  /-- Whether it is marked by a capital letter. -/
  capital : Bool
  sign : ExponentSign
  digits : List Char
deriving DecidableEq, Repr

/-- A written number by its parts. -/
structure Numeral where
  negative : Bool
  whole : List Char
  fraction : Option (List Char)
  exponent : Option ExponentPart
deriving DecidableEq, Repr

/-- The characters of a sign. -/
def ExponentSign.chars : ExponentSign → List Char
  | .unsigned => []
  | .plus => ['+']
  | .minus => ['-']

/-- The characters of an exponent. -/
def ExponentPart.chars (part : ExponentPart) : List Char :=
  (if part.capital then 'E' else 'e') :: part.sign.chars ++ part.digits

namespace Numeral

/-- The characters of the number without its sign. -/
def magnitudeChars (numeral : Numeral) : List Char :=
  numeral.whole ++ numeral.fraction.elim [] (fun digits => '.' :: digits)
    ++ numeral.exponent.elim [] ExponentPart.chars

/-- The characters of the number. -/
def chars (numeral : Numeral) : List Char :=
  (if numeral.negative then ['-'] else []) ++ numeral.magnitudeChars

/-! ## 2. Digits where digits belong -/

/-- At least one digit, and nothing else. -/
structure AllDigits (text : List Char) : Prop where
  ne_nil : text ≠ []
  digit : ∀ c ∈ text, c.isDigit = true

/-- The parts are there, and made of digits. -/
structure Digital (numeral : Numeral) : Prop where
  whole : AllDigits numeral.whole
  fraction : ∀ digits ∈ numeral.fraction, AllDigits digits
  exponent : ∀ part ∈ numeral.exponent, AllDigits part.digits

/-- A number is written out in digits, and zero in one of them. -/
theorem allDigits_toDigits (n : Nat) : AllDigits (Nat.toDigits 10 n) where
  ne_nil := Nat.toDigits_ne_nil
  digit := fun _ => Nat.isDigit_of_mem_toDigits (by decide) (by decide)

theorem allDigits_zero : AllDigits ['0'] := allDigits_toDigits 0

theorem AllDigits.append {front back : List Char} (hfront : AllDigits front)
    (hback : ∀ c ∈ back, c.isDigit = true) : AllDigits (front ++ back) where
  ne_nil := List.append_ne_nil_of_left_ne_nil hfront.ne_nil back
  digit := fun c hc => (List.mem_append.1 hc).elim (hfront.digit c) (hback c)

/-- The part of the digits in front of the point is not empty if it takes one of them. -/
theorem AllDigits.take {text : List Char} (h : AllDigits text) {count : Nat} (hcount : 0 < count) :
    AllDigits (text.take count) where
  ne_nil := fun hnil => h.ne_nil ((List.take_eq_nil_iff.1 hnil).resolve_left (Nat.pos_iff_ne_zero.1 hcount))
  digit := fun c hc => h.digit c (List.mem_of_mem_take hc)

/-- The part behind the point is not empty if it leaves one of them. -/
theorem AllDigits.drop {text : List Char} (h : AllDigits text) {count : Nat}
    (hcount : count < text.length) : AllDigits (text.drop count) where
  ne_nil := fun hnil => absurd (List.drop_eq_nil_iff.1 hnil) (Nat.not_le.2 hcount)
  digit := fun c hc => h.digit c (List.mem_of_mem_drop hc)

/-- What starts with digits starts with nothing else. -/
theorem AllDigits.append_ne_cons {text : List Char} (h : AllDigits text) {c : Char}
    (hc : c.isDigit = false) (rest tail : List Char) : text ++ rest ≠ c :: tail := by
  obtain ⟨first, more, rfl⟩ := List.exists_cons_of_ne_nil h.ne_nil
  intro heq
  obtain rfl : first = c := (List.cons.inj heq).1
  exact Bool.false_ne_true (hc.symm.trans (h.digit first List.mem_cons_self))

theorem isDigit_of_mem_replicate {count : Nat} : ∀ c ∈ List.replicate count '0', c.isDigit = true := by
  intro c hc
  rw [List.eq_of_mem_replicate hc]
  rfl

/-- The characters that numbers are written with. -/
def isNumeralChar (c : Char) : Bool :=
  c.isDigit || c == '.' || c == '-' || c == '+' || c == 'e' || c == 'E'

theorem AllDigits.isNumeralChar {text : List Char} (h : AllDigits text) :
    ∀ c ∈ text, isNumeralChar c = true := by
  intro c hc
  simp [Numeral.isNumeralChar, h.digit c hc]

theorem isNumeralChar_of_mem_sign (sign : ExponentSign) :
    ∀ c ∈ sign.chars, isNumeralChar c = true := by
  cases sign <;> simp [ExponentSign.chars, Numeral.isNumeralChar]

/-- A number is written with no other characters. -/
theorem Digital.isNumeralChar {numeral : Numeral} (h : numeral.Digital) :
    ∀ c ∈ numeral.chars, isNumeralChar c = true := by
  obtain ⟨negative, whole, fraction, exponent⟩ := numeral
  intro c hc
  simp only [chars, magnitudeChars, List.mem_append] at hc
  -- the character is in one of the four parts
  rcases hc with hsign | (hwhole | hfraction) | hexponent
  · cases negative with
    | false => simp at hsign
    | true =>
      rw [List.mem_singleton.1 hsign]
      rfl
  · exact h.whole.isNumeralChar c hwhole
  · cases fraction with
    | none => simp at hfraction
    | some digits =>
      rcases List.mem_cons.1 hfraction with rfl | hdigit
      · rfl
      · exact (h.fraction digits rfl).isNumeralChar c hdigit
  · cases exponent with
    | none => simp at hexponent
    | some part =>
      simp only [Option.elim_some, ExponentPart.chars, List.cons_append, List.mem_cons,
        List.mem_append] at hexponent
      rcases hexponent with rfl | hsign | hdigit
      · cases part.capital <;> rfl
      · exact isNumeralChar_of_mem_sign part.sign c hsign
      · exact (h.exponent part rfl).isNumeralChar c hdigit

end Numeral

/-! ## 3. What a layout writes -/

namespace DecimalLayout

open Numeral

/-- The parts of digits with the point by position. -/
def positionalParts (negative : Bool) (digits : List Char) (leading : Int) : Numeral :=
  if leading < 0 then
    ⟨negative, ['0'], some (List.replicate (-leading - 1).toNat '0' ++ digits), none⟩
  else
    let whole := leading.toNat + 1
    if digits.length ≤ whole then
      ⟨negative, digits ++ List.replicate (whole - digits.length) '0', some ['0'], none⟩
    else
      ⟨negative, digits.take whole, some (digits.drop whole), none⟩

/-- The parts of digits with an exponent. -/
def scientificParts (plus negative : Bool) (digits : List Char) (leading : Int) : Numeral where
  negative := negative
  whole := digits.take 1
  fraction := if digits.length ≤ 1 then none else some (digits.drop 1)
  exponent := some
    { capital := false
      sign := if leading < 0 then .minus else if plus then .plus else .unsigned
      digits := Nat.toDigits 10 leading.natAbs }

/-- The parts of a decimal that is written out. -/
def parts (layout : DecimalLayout) (negative : Bool) (decimal : Decimal) : Numeral :=
  let digits := Nat.toDigits 10 decimal.digits
  let leading := decimal.exponent + (digits.length - 1 : Nat)
  if layout.lowest ≤ leading ∧ leading ≤ layout.highest then
    positionalParts negative digits leading
  else scientificParts layout.plus negative digits leading

/-- The parts of a finite number that is written out. -/
def partsOfFinite (layout : DecimalLayout) (format : BinaryFormat) (negative : Bool)
    (significand : Nat) (exponent : Int) : Numeral :=
  if significand = 0 then ⟨negative, ['0'], some ['0'], none⟩
  else layout.parts negative (.shortest format layout.tie significand exponent)

/-- By position the sign comes first, and zeros fill up to the point. -/
theorem chars_positionalParts (negative : Bool) (digits : List Char) (leading : Int) :
    (positionalParts negative digits leading).chars =
      (if negative then ['-'] else []) ++ positional digits leading := by
  rw [positionalParts, positional]
  split
  · simp [chars, magnitudeChars]
  · dsimp only
    split <;> simp [chars, magnitudeChars]

/-- With an exponent one digit comes first, and the point only if there are more. -/
theorem chars_scientificParts (plus negative : Bool) (digits : List Char) (leading : Int) :
    (scientificParts plus negative digits leading).chars =
      (if negative then ['-'] else []) ++ scientific plus digits leading := by
  -- without a second digit there is neither a point nor a fraction
  have hfraction : (if digits.length ≤ 1 then none else some (digits.drop 1)).elim []
      (fun digits => '.' :: digits) =
        (if digits.length ≤ 1 then [] else ['.']) ++ digits.drop 1 := by
    split
    next hshort =>
      rw [List.drop_eq_nil_of_le hshort]
      rfl
    next => rfl
  have hsign : (if leading < 0 then ExponentSign.minus else if plus then .plus else .unsigned).chars
      = if leading < 0 then ['-'] else if plus then ['+'] else [] := by
    split
    · rfl
    · split <;> rfl
  simp only [chars, magnitudeChars, scientificParts, scientific, hfraction, Option.elim_some,
    ExponentPart.chars, hsign, List.append_assoc]
  rfl

/-- A decimal is written as the characters of its parts, whichever way the layout takes. -/
theorem chars_parts (layout : DecimalLayout) (negative : Bool) (decimal : Decimal) :
    (layout.parts negative decimal).chars =
      (if negative then ['-'] else []) ++ layout.write decimal := by
  simp only [parts, write]
  split
  · exact chars_positionalParts negative _ _
  · exact chars_scientificParts layout.plus negative _ _

/-- A number is written as the characters of its parts. -/
theorem chars_partsOfFinite (layout : DecimalLayout) (format : BinaryFormat) (negative : Bool)
    (significand : Nat) (exponent : Int) :
    (layout.partsOfFinite format negative significand exponent).chars =
      layout.writeFinite format negative significand exponent := by
  simp only [partsOfFinite, writeFinite]
  split
  · rfl
  · exact chars_parts layout negative _

/-- The zeros that fill up leave no part without digits. -/
theorem digital_positionalParts (negative : Bool) {digits : List Char} (h : AllDigits digits)
    (leading : Int) : (positionalParts negative digits leading).Digital := by
  rw [positionalParts]
  split
  · refine ⟨allDigits_zero, ?_, by simp⟩
    rintro _ ⟨⟩
    refine ⟨List.append_ne_nil_of_right_ne_nil _ h.ne_nil, fun c hc => ?_⟩
    exact (List.mem_append.1 hc).elim (isDigit_of_mem_replicate c) (h.digit c)
  · dsimp only
    split
    · refine ⟨h.append isDigit_of_mem_replicate, ?_, by simp⟩
      rintro _ ⟨⟩
      exact allDigits_zero
    -- the point stands inside the digits, so that there are some on either side
    next hlong =>
      refine ⟨h.take (Nat.succ_pos _), ?_, by simp⟩
      rintro _ ⟨⟩
      exact h.drop (Nat.not_le.1 hlong)

/-- The first digit stands alone, and the others are a fraction if there are any. -/
theorem digital_scientificParts (plus negative : Bool) {digits : List Char} (h : AllDigits digits)
    (leading : Int) : (scientificParts plus negative digits leading).Digital := by
  refine ⟨h.take Nat.one_pos, ?_, ?_⟩
  · intro drawn hdrawn
    rw [scientificParts] at hdrawn
    dsimp only at hdrawn
    split at hdrawn
    next => cases hdrawn
    next hlong =>
      cases hdrawn
      exact h.drop (Nat.not_le.1 hlong)
  · rintro _ ⟨⟩
    exact allDigits_toDigits _

theorem digital_parts (layout : DecimalLayout) (negative : Bool) (decimal : Decimal) :
    (layout.parts negative decimal).Digital := by
  simp only [parts]
  split
  · exact digital_positionalParts negative (allDigits_toDigits _) _
  · exact digital_scientificParts layout.plus negative (allDigits_toDigits _) _

theorem digital_zero (negative : Bool) : (Numeral.mk negative ['0'] (some ['0']) none).Digital :=
  ⟨allDigits_zero, fun _ h => Option.some_inj.1 h ▸ allDigits_zero, by simp⟩

/-- Digits are written where digits belong, whatever the number. -/
theorem digital_partsOfFinite (layout : DecimalLayout) (format : BinaryFormat) (negative : Bool)
    (significand : Nat) (exponent : Int) :
    (layout.partsOfFinite format negative significand exponent).Digital := by
  rw [partsOfFinite]
  split
  · exact digital_zero negative
  · exact digital_parts layout negative _

/-- No number is written like a whole number: what has no fraction has an exponent. -/
theorem fraction_or_exponent_partsOfFinite (layout : DecimalLayout) (format : BinaryFormat)
    (negative : Bool) (significand : Nat) (exponent : Int) :
    (layout.partsOfFinite format negative significand exponent).fraction.isSome ∨
      (layout.partsOfFinite format negative significand exponent).exponent.isSome := by
  rw [partsOfFinite]
  split
  · exact .inl rfl
  · rw [parts]
    split
    · -- by position there always is a fraction, if only of one zero
      refine .inl ?_
      rw [positionalParts]
      split
      · rfl
      · dsimp only
        split <;> rfl
    · exact .inr rfl

end DecimalLayout

end InputScript
