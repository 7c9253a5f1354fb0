/-
Reading numerals.

Decimal numerals count if a machine word holds them. Hexadecimal digits may
have either case.
-/

set_option autoImplicit false

namespace InputScript.Text

/-- The value of a run of decimal digits, if a 64-bit word holds it (`parse` to
`u64`). -/
def wordOfDigits? (digits : List Char) : Option UInt64 :=
  let value := Nat.ofDigitChars 10 digits 0
  if value < UInt64.size then some value.toUInt64 else none

/-- The word has the value of the digits. -/
theorem toNat_of_wordOfDigits? {digits : List Char} {word : UInt64}
    (h : wordOfDigits? digits = some word) : word.toNat = Nat.ofDigitChars 10 digits 0 := by
  simp only [wordOfDigits?, Option.ite_none_right_eq_some, Option.some_inj] at h
  obtain ⟨hlt, rfl⟩ := h
  exact UInt64.toNat_ofNat_of_lt' hlt

/-- Digits are read as the word that has their value. -/
theorem wordOfDigits?_eq_some_iff {digits : List Char} {value : UInt64} :
    wordOfDigits? digits = some value ↔ Nat.ofDigitChars 10 digits 0 = value.toNat := by
  constructor
  · intro h
    exact (toNat_of_wordOfDigits? h).symm
  · intro h
    rw [wordOfDigits?, h, if_pos value.toNat_lt, Option.some_inj]
    exact UInt64.ofNat_toNat

/-- The value of a hexadecimal digit of either case. -/
def hexValue? (c : Char) : Option Nat :=
  if c.isDigit then some (c.toNat - '0'.toNat)
  else if 'a' ≤ c ∧ c ≤ 'f' then some (c.toNat - 'a'.toNat + 10)
  else if 'A' ≤ c ∧ c ≤ 'F' then some (c.toNat - 'A'.toNat + 10)
  else none

/-- The value of a run of hexadecimal digits. -/
def valueOfHex (digits : List Char) : Nat :=
  digits.foldl (fun value c => 16 * value + (hexValue? c).getD 0) 0

end InputScript.Text
