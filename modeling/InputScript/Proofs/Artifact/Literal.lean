/-
Literals of a header.

What stands for a number in a header (`float`) is for a compiler of another language, and
there it is either one of the two infinities by their names or a floating literal: a number
with a fraction or an exponent, and the suffix of single precision. A number that is
infinite in single precision and finite in double precision is written as neither.
-/
import InputScript.Artifact.Header
import InputScript.Proofs.Decimal.Numeral
import InputScript.Proofs.Text.Lines
import InputScript.Proofs.Text.Numeral

set_option autoImplicit false

namespace InputScript.Artifact

open InputScript.Text

/-! ## 1. Components -/

/-- A floating literal of single precision, which may be negated. -/
def FloatLiteral (text : List Char) : Prop :=
  ∃ numeral : Numeral, numeral.Digital ∧
    (numeral.fraction.isSome ∨ numeral.exponent.isSome) ∧ text = numeral.chars ++ ['f']

/-- What a component of a stick may be. -/
def IsComponent (text : List Char) : Prop :=
  text = "INFINITY".toList ∨ text = "-INFINITY".toList ∨ FloatLiteral text

/-- The characters of names and numbers. -/
def isComponentChar (c : Char) : Bool := c.isAlphanum || Numeral.isNumeralChar c

/-- What starts like a name is no floating literal. -/
theorem not_floatLiteral_of_name (negative : Bool) {c : Char} (hdigit : c.isDigit = false)
    (hsign : c ≠ '-') (rest : List Char) :
    ¬FloatLiteral ((if negative then ['-'] else []) ++ c :: rest) := by
  rintro ⟨⟨sign, whole, fraction, exponent⟩, hdigital, -, htext⟩
  have hwhole := hdigital.whole.append_ne_cons (c := c) hdigit
  have hminus := hdigital.whole.append_ne_cons (c := '-') rfl
  simp only [Numeral.chars, Numeral.magnitudeChars] at htext
  -- what stands behind the signs is a digit on one side and the name on the other
  cases negative <;> cases sign <;>
    simp only [Bool.false_eq_true, if_false, if_true, List.nil_append, List.cons_append,
      List.append_assoc] at htext
  · exact hwhole _ _ htext.symm
  · exact hsign (List.cons.inj htext).1
  · exact hminus _ _ htext.symm
  · exact hwhole _ _ (List.cons.inj htext).2.symm

/-- What is written for a number that overflows starts like a name and is not one of the two
names. -/
theorem not_isComponent_inff (negative : Bool) :
    ¬IsComponent ((if negative then ['-'] else []) ++ "inff".toList) := by
  rintro (htext | htext | htext)
  · cases negative <;> exact absurd htext (by decide)
  · cases negative <;> exact absurd htext (by decide)
  · exact not_floatLiteral_of_name negative (c := 'i') rfl (by decide) _ htext

/-! ## 2. Written numbers -/

/-- A number that is finite in single precision is written by its shortest digits and the
suffix, and there is a point or an exponent between them. -/
theorem literal_finite {x : Binary} {negative : Bool} {significand : Nat} {exponent : Int}
    (hx : x.isFinite = true) (h : x.convert binary32 = .finite negative significand exponent) :
    FloatLiteral (literal x).toList := by
  refine ⟨DecimalLayout.plain.partsOfFinite binary32 negative significand exponent,
    DecimalLayout.digital_partsOfFinite _ _ _ _ _,
    DecimalLayout.fraction_or_exponent_partsOfFinite _ _ _ _ _, ?_⟩
  cases x with
  | nan => cases hx
  | infinity sign => cases hx
  | finite sign m e =>
    rw [literal, h, String.toList_append, String.toList_ofList,
      DecimalLayout.chars_partsOfFinite]
    rfl

/-- A number that overflows in single precision only is written as an infinity with the suffix. -/
theorem literal_overflow {x : Binary} (hx : x.isFinite = true)
    (h : (x.convert binary32).isFinite = false) :
    ∃ negative : Bool,
      (literal x).toList = (if negative then ['-'] else []) ++ "inff".toList := by
  cases x with
  | nan => cases hx
  | infinity sign => cases hx
  | finite sign m e =>
    rw [literal]
    split
    next heq =>
      rw [heq] at h
      cases h
    next => exact ⟨true, rfl⟩
    next => exact ⟨false, rfl⟩

/-- A number is written as a component unless it is finite in double precision only. -/
theorem isComponent_literal_iff {x : Binary} :
    IsComponent (literal x).toList ↔
      (x.isFinite = true → (x.convert binary32).isFinite = true) := by
  cases hx : x.isFinite with
  | false =>
    -- an infinity is written by its name
    refine iff_of_true ?_ (by simp)
    cases x with
    | nan => exact .inr (.inl rfl)
    | infinity negative =>
      cases negative
      · exact .inl rfl
      · exact .inr (.inl rfl)
    | finite => cases hx
  | true =>
    rw [imp_iff_right rfl]
    cases hconverted : (x.convert binary32).isFinite with
    | false =>
      refine iff_of_false ?_ Bool.false_ne_true
      -- finite in one precision only: this is the one case without a component
      obtain ⟨negative, htext⟩ := literal_overflow hx hconverted
      rw [htext]
      exact not_isComponent_inff negative
    | true =>
      refine iff_of_true (.inr (.inr ?_)) rfl
      cases hvalue : x.convert binary32 with
      | nan =>
        rw [hvalue] at hconverted
        cases hconverted
      | infinity negative =>
        rw [hvalue] at hconverted
        cases hconverted
      | finite negative significand exponent => exact literal_finite hx hvalue

/-- What is written for a number is a name or a number, with a suffix and a sign. -/
theorem literal_chars (x : Binary) :
    (literal x).toList ≠ [] ∧ (literal x).toList.all isComponentChar = true := by
  cases hx : x.isFinite with
  | false =>
    cases x with
    | nan => decide
    | infinity negative => cases negative <;> decide
    | finite => cases hx
  | true =>
    cases hvalue : x.convert binary32 with
    | finite negative significand exponent =>
      obtain ⟨numeral, hdigital, -, htext⟩ := literal_finite hx hvalue
      rw [htext, List.all_append, Bool.and_eq_true, List.all_eq_true]
      refine ⟨by simp, fun c hc => ?_, rfl⟩
      rw [isComponentChar, hdigital.isNumeralChar c hc, Bool.or_true]
    | nan | infinity =>
      -- finite in the wide format only, so it is the text for an overflow
      obtain ⟨negative, htext⟩ := literal_overflow hx (by rw [hvalue]; rfl)
      rw [htext]
      cases negative <;> decide

/-! ## 3. Plain texts -/

/-- A text of values, blanks, commas and braces, as they stand in rows. -/
def Plain (text : List Char) : Prop :=
  ∀ c ∈ text, (isComponentChar c || " ,\x7b\x7d".toList.contains c) = true

instance {text : List Char} : Decidable (Plain text) :=
  List.decidableBAll _ text

@[simp]
theorem plain_append {front back : List Char} : Plain (front ++ back) ↔ Plain front ∧ Plain back :=
  List.forall_mem_append

/-- A plain text is in one line. -/
theorem Plain.oneLine {text : List Char} (h : Plain text) : OneLine text :=
  oneLine_of_all rfl rfl h

/-- Nothing is given a value in a plain text. -/
theorem Plain.equals_notMem {text : List Char} (h : Plain text) : '=' ∉ text :=
  fun hmem => absurd (h '=' hmem) (by decide)

theorem plain_literal (x : Binary) : Plain (literal x).toList := by
  intro c hc
  rw [List.all_eq_true.1 (literal_chars x).2 c hc, Bool.true_or]

theorem plain_natRepr (n : Nat) : Plain n.repr.toList := by
  intro c hc
  rw [Nat.toList_repr] at hc
  simp [isComponentChar, (Numeral.allDigits_toDigits n).isNumeralChar c hc]

theorem plain_intRepr (n : Int) : Plain n.repr.toList := by
  cases n with
  | ofNat n => exact plain_natRepr n
  | negSucc n =>
    rw [Int.repr, String.toList_append, plain_append]
    exact ⟨by decide, plain_natRepr (n + 1)⟩

theorem plain_hexDigits (n : Nat) : Plain (Nat.toDigits 16 n) := by
  intro c hc
  have halphanum := isAlphanum_of_isHexDigit ((hexDigits_toDigits n).1 c hc)
  simp [isComponentChar, halphanum]

end InputScript.Artifact
