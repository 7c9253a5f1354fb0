/-
Hexadecimal numerals that are read back.

A number that is written in hexadecimal digits has no other characters, and the value of
the digits is the number.
-/
import InputScript.Text.Numeral

set_option autoImplicit false

namespace InputScript.Text

/-- The characters that are hexadecimal digits, of either case. -/
def isHexDigit (c : Char) : Bool := (hexValue? c).isSome

/-- A hexadecimal digit is a letter if it is no decimal digit. -/
theorem isAlphanum_of_isHexDigit {c : Char} (h : isHexDigit c = true) : c.isAlphanum = true := by
  unfold isHexDigit hexValue? at h
  split at h
  next hdigit => simp [Char.isAlphanum, hdigit]
  next =>
    split at h
    next hlower =>
      have hbound : c.val ≤ 122 := UInt32.le_trans hlower.2 (by decide)
      have hletter : c.isLower = true :=
        Bool.and_eq_true_iff.2 ⟨decide_eq_true hlower.1, decide_eq_true hbound⟩
      have halpha : c.isAlpha = true := Bool.or_eq_true_iff.2 (.inr hletter)
      exact Bool.or_eq_true_iff.2 (.inl halpha)
    next =>
      split at h
      next hupper =>
        have hbound : c.val ≤ 90 := UInt32.le_trans hupper.2 (by decide)
        have hletter : c.isUpper = true := decide_eq_true ⟨hupper.1, hbound⟩
        have halpha : c.isAlpha = true := Bool.or_eq_true_iff.2 (.inl hletter)
        exact Bool.or_eq_true_iff.2 (.inl halpha)
      next => cases h

theorem hexValue?_digitChar {digit : Nat} (h : digit < 16) :
    hexValue? digit.digitChar = some digit := by
  -- sixteen digits, compared one by one
  have hall : ∀ digit < 16, hexValue? (Nat.digitChar digit) = some digit := by decide
  exact hall digit h

/-- A digit more is worth sixteen times what stands in front of it. -/
theorem valueOfHex_concat (digits : List Char) {digit : Nat} (h : digit < 16) :
    valueOfHex (digits ++ [digit.digitChar]) = 16 * valueOfHex digits + digit := by
  simp [valueOfHex, hexValue?_digitChar h]

/-- A written number has hexadecimal digits only, and they have its value. -/
theorem hexDigits_toDigits (n : Nat) :
    (∀ c ∈ Nat.toDigits 16 n, isHexDigit c = true) ∧ valueOfHex (Nat.toDigits 16 n) = n := by
  -- the digits of `n` are those of `n / 16` and one more
  induction n using Nat.strongRecOn with
  | ind n ih =>
    rw [Nat.toDigits_eq_if (by decide)]
    split
    next hlt =>
      refine ⟨?_, by simp [valueOfHex, hexValue?_digitChar hlt]⟩
      intro c hc
      rw [List.mem_singleton.1 hc, isHexDigit, hexValue?_digitChar hlt]
      rfl
    next hge =>
      obtain ⟨hdigits, hvalue⟩ := ih (n / 16) (by omega)
      have hlast : n % 16 < 16 := Nat.mod_lt n (by decide)
      refine ⟨?_, ?_⟩
      · intro c hc
        rcases List.mem_append.1 hc with hfront | hback
        · exact hdigits c hfront
        · rw [List.mem_singleton.1 hback, isHexDigit, hexValue?_digitChar hlast]
          rfl
      · rw [valueOfHex_concat _ hlast, hvalue]
        omega

end InputScript.Text
