/-
Which characters separate the fields of a script line.
-/

set_option autoImplicit false

namespace InputScript.Text

/-- The twenty-five code points with the Unicode property `White_Space`
(`is_whitespace`). -/
def isWhiteSpace (c : Char) : Bool :=
  let code := c.toNat
  (9 ≤ code && code ≤ 13) || code == 0x20 || code == 0x85 || code == 0xA0 || code == 0x1680
    || (0x2000 ≤ code && code ≤ 0x200A) || code == 0x2028 || code == 0x2029 || code == 0x202F
    || code == 0x205F || code == 0x3000

/-- A text of white space only, the empty one included. -/
def isBlank (text : List Char) : Bool :=
  text.all isWhiteSpace

/-- Drops white space at both ends (`trim`). -/
def trim (text : List Char) : List Char :=
  ((text.dropWhile isWhiteSpace).reverse.dropWhile isWhiteSpace).reverse

/-- No digit is white space. -/
theorem isWhiteSpace_of_isDigit {c : Char} (h : c.isDigit = true) : isWhiteSpace c = false := by
  have hbounds : 48 ≤ c.toNat ∧ c.toNat ≤ 57 := by
    simpa [Char.isDigit, UInt32.le_iff_toNat_le] using h
  unfold isWhiteSpace
  simp
  omega

end InputScript.Text
