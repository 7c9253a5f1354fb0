/-
Numbers of JSON are read back.

The grammar of numbers is that of numerals without a superfluous zero, and the reader
takes a numeral apart into just these parts. Whether it accepts them is a question of
size: a whole number that a word holds is accepted as it stands, and any other number
unless it overflows. A power of two that leaves room for three roundings is enough for
that, since the digits the reader leaves out only make the number smaller.
-/
import InputScript.Json.Numeral
import InputScript.Proofs.Decimal.Shortest
import InputScript.Proofs.Decimal.Value
import InputScript.Proofs.Script.Grammar
import Mathlib.Data.List.Induction

set_option autoImplicit false

namespace InputScript.Json

open InputScript.Numeral InputScript.Script

/-! ## 1. Taking numerals apart -/

/-- The number that the reader takes a numeral for. -/
def numberOf? (numeral : Numeral) : Option Number :=
  let (significand, cut) := absorb 0 numeral.whole
  if numeral.fraction.isNone ∧ numeral.exponent.isNone ∧ cut.isEmpty then
    some (wholeOf numeral.negative significand)
  else
    let digits := numeral.fraction.getD []
    let (significand, cutDigits) := absorb significand digits
    let places : Int := (digits.length - cutDigits.length : Nat)
    decimalOf numeral.negative significand
      (cut.length - places + (numeral.exponent.map ExponentPart.value).getD 0)

/-- A text that does not go on with a number in front of it. -/
def EndsNumber (rest : List Char) : Prop :=
  ∀ c ∈ rest.head?, c.isDigit = false ∧ c ≠ '.' ∧ c ≠ 'e' ∧ c ≠ 'E'

/-- A run of digits is read up to the first character that is none. -/
theorem readDigits_append {digits rest : List Char} (h : AllDigits digits)
    (hrest : ∀ c ∈ rest.head?, c.isDigit = false) :
    readDigits (digits ++ rest) = some (digits, rest) := by
  have hrun : Grammar.Run Char.isDigit digits rest := ⟨h.ne_nil, h.digit, hrest⟩
  rw [readDigits, hrun.takeWhile_eq, hrun.dropWhile_eq]
  simp [h.ne_nil]

/-- Without a point there is no fraction to read. -/
theorem readFraction_of_notMem {rest : List Char} (h : ∀ c ∈ rest.head?, c ≠ '.') :
    readFraction rest = some (none, rest) := by
  cases rest with
  | nil => rfl
  | cons c rest =>
    have hc : c ≠ '.' := h c rfl
    rw [readFraction]
    intro tail heq
    exact hc (List.cons.inj heq).1

/-- Without its letter there is no exponent to read. -/
theorem readExponent_of_notMem {rest : List Char} (h : ∀ c ∈ rest.head?, c ≠ 'e' ∧ c ≠ 'E') :
    readExponent rest = some (none, rest) := by
  cases rest with
  | nil => rfl
  | cons c rest =>
    obtain ⟨hsmall, hcapital⟩ := h c rfl
    rw [readExponent]
    · intro tail heq
      exact hsmall (List.cons.inj heq).1
    · intro tail heq
      exact hcapital (List.cons.inj heq).1

/-- The value of an exponent is read, whatever its sign. -/
theorem readExponentValue_append (part : ExponentPart) (h : AllDigits part.digits)
    {rest : List Char} (hrest : ∀ c ∈ rest.head?, c.isDigit = false) :
    readExponentValue (part.sign.chars ++ (part.digits ++ rest)) = some (part.value, rest) := by
  obtain ⟨capital, sign, digits⟩ := part
  have hdigits := readDigits_append h hrest
  cases sign with
  | plus => simp [readExponentValue, ExponentSign.chars, hdigits, ExponentPart.value]
  | minus => simp [readExponentValue, ExponentSign.chars, hdigits, ExponentPart.value]
  -- without a sign the text starts with a digit, which is neither of the two
  | unsigned =>
    rw [readExponentValue]
    · simp [ExponentSign.chars, hdigits, ExponentPart.value]
    · exact h.append_ne_cons rfl rest
    · exact h.append_ne_cons rfl rest

/-- An exponent is read if there is one, behind either letter. -/
theorem readExponent_append {exponent : Option ExponentPart}
    (h : ∀ part ∈ exponent, AllDigits part.digits) {rest : List Char} (hrest : EndsNumber rest) :
    readExponent (exponent.elim [] ExponentPart.chars ++ rest) =
      some (exponent.map ExponentPart.value, rest) := by
  cases exponent with
  | none => exact readExponent_of_notMem fun c hc => (hrest c hc).2.2
  | some part =>
    have hvalue := readExponentValue_append part (h part rfl) fun c hc => (hrest c hc).1
    simp only [Option.elim_some, ExponentPart.chars, List.cons_append, List.append_assoc]
    cases part.capital <;> simp [readExponent, hvalue]

/-- A fraction is read if there is one, up to what ends it. -/
theorem readFraction_append {fraction : Option (List Char)} (h : ∀ digits ∈ fraction, AllDigits digits)
    {rest : List Char} (hrest : ∀ c ∈ rest.head?, c.isDigit = false ∧ c ≠ '.') :
    readFraction (fraction.elim [] (fun digits => '.' :: digits) ++ rest) =
      some (fraction, rest) := by
  cases fraction with
  | none => exact readFraction_of_notMem fun c hc => (hrest c hc).2
  | some digits =>
    have hdigits := readDigits_append (h digits rfl) fun c hc => (hrest c hc).1
    simp [readFraction, hdigits]

/-- What starts an exponent, or ends the number, goes on with no digits and no fraction. -/
theorem head?_exponent (exponent : Option ExponentPart) {rest : List Char} (hrest : EndsNumber rest) :
    ∀ c ∈ (exponent.elim [] ExponentPart.chars ++ rest).head?, c.isDigit = false ∧ c ≠ '.' := by
  cases exponent with
  | none => exact fun c hc => ⟨(hrest c hc).1, (hrest c hc).2.1⟩
  | some part =>
    rintro c ⟨⟩
    cases part.capital <;> decide

/-- What starts a fraction is no digit. -/
theorem head?_fraction (fraction : Option (List Char)) {rest : List Char}
    (hrest : ∀ c ∈ rest.head?, c.isDigit = false) :
    ∀ c ∈ (fraction.elim [] (fun digits => '.' :: digits) ++ rest).head?, c.isDigit = false := by
  cases fraction with
  | none => exact hrest
  | some digits =>
    rintro c ⟨⟩
    rfl

/-- The reader takes a numeral apart into its parts. -/
theorem readMagnitude_append {numeral : Numeral} (h : numeral.Standard) {rest : List Char}
    (hrest : EndsNumber rest) :
    readMagnitude numeral.negative (numeral.magnitudeChars ++ rest) =
      (numberOf? numeral).map fun number => (number, rest) := by
  have hexponent := readExponent_append h.exponent hrest
  have hends := head?_exponent numeral.exponent hrest
  have hfraction := readFraction_append h.fraction hends
  have hwhole := readDigits_append h.whole
    (head?_fraction numeral.fraction fun c hc => (hends c hc).1)
  -- the reader refuses a zero that could be left out, and there is none
  have hleading : ¬(numeral.whole.head? = some '0' ∧ 1 < numeral.whole.length) := by
    rintro ⟨hzero, hlong⟩
    exact absurd (h.leading hzero) hlong.ne'
  rw [magnitudeChars, List.append_assoc, List.append_assoc]
  simp only [readMagnitude, hwhole, hfraction, hexponent, Option.bind_eq_bind, Option.bind_some,
    if_neg hleading, numberOf?, Option.isNone_map]
  split
  next => rfl
  next => exact Option.map_eq_bind.symm

/-- A numeral is read as its number. -/
theorem readNumber_append {numeral : Numeral} (h : numeral.Standard) {rest : List Char}
    (hrest : EndsNumber rest) :
    readNumber (numeral.chars ++ rest) =
      (numberOf? numeral).map fun number => (number, rest) := by
  have hmagnitude := readMagnitude_append h hrest
  cases hnegative : numeral.negative with
  | true =>
    rw [hnegative] at hmagnitude
    simpa [chars, hnegative, readNumber] using hmagnitude
  | false =>
    rw [hnegative] at hmagnitude
    -- without a sign the text starts with a digit, so it is not taken for a negative one
    rw [chars, hnegative, if_neg Bool.false_ne_true, List.nil_append, readNumber]
    · exact hmagnitude
    · intro tail heq
      rw [magnitudeChars, List.append_assoc, List.append_assoc] at heq
      exact h.whole.append_ne_cons rfl _ _ heq

/-! ## 2. Digits that count -/

/-- More digits make a number no smaller. -/
theorem mul_le_ofDigitChars (digits : List Char) (n : Nat) :
    10 ^ digits.length * n ≤ Nat.ofDigitChars 10 digits n := by
  rw [Nat.ofDigitChars_eq_ofDigitChars_zero]
  exact Nat.le_add_right _ _

/-- Digits are taken in whole as long as a word holds their value. -/
theorem absorb_of_lt {digits : List Char} {n : Nat}
    (h : Nat.ofDigitChars 10 digits n < UInt64.size) :
    absorb n digits = (Nat.ofDigitChars 10 digits n, []) := by
  induction digits generalizing n with
  | nil => rfl
  | cons digit rest ih =>
    rw [Nat.ofDigitChars_cons] at h ⊢
    -- the value so far is no greater than the value of all digits
    have hnext : 10 * n + (digit.toNat - '0'.toNat) < UInt64.size := by
      refine lt_of_le_of_lt ?_ h
      exact (Nat.le_mul_of_pos_left _ (by positivity)).trans (mul_le_ofDigitChars rest _)
    rw [absorb, if_pos hnext]
    exact ih h

/-- What is taken is the value of the first digits, and fits a word. -/
theorem absorb_spec (digits : List Char) {n : Nat} (hn : n < UInt64.size) :
    ∃ kept, digits = kept ++ (absorb n digits).2 ∧
      (absorb n digits).1 = Nat.ofDigitChars 10 kept n ∧ (absorb n digits).1 < UInt64.size := by
  induction digits generalizing n with
  | nil => exact ⟨[], rfl, rfl, hn⟩
  | cons digit rest ih =>
    rw [absorb]
    split
    next hnext =>
      obtain ⟨kept, hdigits, hvalue, hword⟩ := ih hnext
      refine ⟨digit :: kept, by rw [List.cons_append, ← hdigits], ?_, hword⟩
      rw [hvalue, Nat.ofDigitChars_cons]
    next => exact ⟨[], rfl, rfl, hn⟩

/-! ## 3. Powers of ten that are not too large -/

theorem pow10_mono {a b : Nat} (h : a ≤ b) : pow10 a ≤ pow10 b :=
  Nat.pow_le_pow_right (by decide) h

/-- All powers of ten that the reader multiplies by are finite: below the last one there is
a power of two that is a bound, and the last one is near the greatest number. -/
theorem isFinite_powerOfTen {k : Nat} (hk : k ≤ maxPowerOfTen) :
    (powerOfTen k).isFinite = true := by
  rcases Nat.lt_or_eq_of_le hk with hlt | rfl
  · -- every power but the last one is below a power of two that is a double
    have hpower : pow10 k ≤ 2 ^ 1023 := by
      calc pow10 k ≤ pow10 307 := pow10_mono (Nat.le_of_lt_succ hlt)
        _ ≤ 2 ^ 1023 := by decide +kernel
    have hbound : (powerOfTen k).AtMost 1023 :=
      Binary.atMost_ofNat proper_binary64 false (by exact_mod_cast hpower) (by decide) (by decide)
    exact hbound.isFinite
  · decide +kernel

/-- Between a number and its double there is a power of two. -/
theorem exists_pow2_between {n : Nat} (hn : 0 < n) :
    ∃ k : Nat, (n : ℚ) ≤ 2 ^ (k : Int) ∧ (2 : ℚ) ^ (k : Int) ≤ 2 * n := by
  refine ⟨n.log2 + 1, ?_, ?_⟩
  · exact_mod_cast (Nat.lt_log2_self (n := n)).le
  · have := Nat.log2_self_le hn.ne'
    rw [zpow_natCast, pow_succ, mul_comm]
    exact_mod_cast Nat.mul_le_mul_left 2 this

/-- A product with a power of ten is finite if there is room for its factors and itself to
be rounded. -/
theorem isFinite_scaled {n k : Nat} (hk : k ≤ maxPowerOfTen)
    (h : (n : ℚ) * 10 ^ k ≤ 2 ^ (1017 : Int)) :
    ((Binary.ofNat binary64 false n).multiply binary64 (powerOfTen k)).isFinite = true := by
  rcases Nat.eq_zero_or_pos n with rfl | hn
  · have hfinite := isFinite_powerOfTen hk
    rw [Binary.ofNat_zero]
    cases hpower : powerOfTen k with
    | nan => simp [hpower, Binary.isFinite] at hfinite
    | infinity => simp [hpower, Binary.isFinite] at hfinite
    | finite s m e =>
      simp only [Binary.zero, Binary.multiply, Nat.zero_mul, Binary.roundScaled, timesPowerOfTwo,
        Nat.zero_shiftLeft, Binary.roundQuotient_zero]
      rfl
  · obtain ⟨a, hna, han⟩ := exists_pow2_between hn
    obtain ⟨b, hkb, hbk⟩ := exists_pow2_between (n := pow10 k) (pow10_pos k)
    -- two factors of two are lost to the powers between the numbers and their doubles
    have hsum : (a : Int) + b ≤ 1019 := by
      apply (zpow_le_zpow_iff_right₀ (one_lt_two (α := ℚ))).1
      rw [cast_pow10] at hbk
      calc (2 : ℚ) ^ ((a : Int) + b) = 2 ^ (a : Int) * 2 ^ (b : Int) := zpow_add₀ two_ne_zero _ _
        _ ≤ 2 * n * (2 * 10 ^ k) := mul_le_mul han hbk (by positivity) (by positivity)
        _ = 4 * (n * 10 ^ k) := by ring
        _ ≤ 4 * 2 ^ (1017 : Int) := by gcongr
        _ = 2 ^ (2 + 1017 : Int) := by rw [zpow_add₀ two_ne_zero]; norm_num
    have hmax : binary64.maxExponent + binary64.precision = 1024 := rfl
    have hmin : binary64.minExponent = -1074 := rfl
    have hx : (Binary.ofNat binary64 false n).AtMost a :=
      Binary.atMost_ofNat proper_binary64 false hna (by omega) (by omega)
    have hy : (powerOfTen k).AtMost b :=
      Binary.atMost_ofNat proper_binary64 false hkb (by omega) (by omega)
    exact (Binary.atMost_multiply proper_binary64 hx hy (by omega) (by omega)).isFinite

/-- Dividing by a power of ten never overflows. -/
theorem isSome_scaleByTens_of_neg (rounds : Nat) (x : Binary) {exponent : Int} (h : exponent < 0) :
    (scaleByTens rounds x exponent).isSome = true := by
  induction rounds generalizing x exponent with
  | zero => rfl
  | succ rounds ih =>
    rw [scaleByTens]
    have hnonneg : ¬0 ≤ exponent := by omega
    by_cases hsmall : exponent.natAbs ≤ maxPowerOfTen
    · simp [hsmall, hnonneg]
    · -- the exponent is so low that it stays negative after a division
      have hnext : exponent + maxPowerOfTen < 0 := by omega
      rw [if_neg hsmall]
      split
      · rfl
      · exact ih _ hnext

/-- A number that leaves room below the greatest one is accepted. -/
theorem isSome_decimalOf (negative : Bool) {n : Nat} {exponent : Int}
    (h : (n : ℚ) * 10 ^ exponent ≤ 2 ^ (1017 : Int)) :
    (decimalOf negative n exponent).isSome = true := by
  have hscaled : (scaleByTens 3 (.ofNat binary64 false n) exponent).isSome = true := by
    rcases lt_or_ge exponent 0 with hneg | hnonneg
    · exact isSome_scaleByTens_of_neg 3 _ hneg
    obtain ⟨k, rfl⟩ := Int.eq_ofNat_of_zero_le hnonneg
    rw [zpow_natCast] at h
    rw [scaleByTens]
    by_cases hsmall : k ≤ maxPowerOfTen
    · simp [hsmall, isFinite_scaled hsmall h]
    · -- only zero leaves room for a power of ten that is larger than any double
      have hzero : n = 0 := by
        by_contra hne
        have hpower : (10 : ℚ) ^ 309 ≤ 2 ^ (1017 : Int) := by
          calc (10 : ℚ) ^ 309 ≤ 10 ^ k := pow_le_pow_right₀ (by norm_num) (Nat.lt_of_not_le hsmall)
            _ ≤ n * 10 ^ k := le_mul_of_one_le_left (by positivity) (by
                exact_mod_cast Nat.pos_of_ne_zero hne)
            _ ≤ 2 ^ (1017 : Int) := h
        have hlimit : 2 ^ 1017 < 10 ^ 309 := by decide +kernel
        exact absurd (by exact_mod_cast hpower) (Nat.not_le.2 hlimit)
      have hfirst : Binary.ofNat binary64 false n = .zero binary64 false := by
        rw [hzero, Binary.ofNat_zero]
      simp [hsmall, hfirst]
  rw [decimalOf]
  obtain ⟨magnitude, hmagnitude⟩ := Option.isSome_iff_exists.1 hscaled
  rw [hmagnitude]
  rfl

/-! ## 4. Numbers that were written -/

/-- A number of so many digits is below the power of ten with as many zeros. -/
theorem ofDigitChars_lt {digits : List Char} (h : ∀ c ∈ digits, c.isDigit = true) :
    Nat.ofDigitChars 10 digits 0 < 10 ^ digits.length := by
  induction digits using List.reverseRecOn with
  | nil => simp
  | append_singleton front last ih =>
    have hfront := ih fun c hc => h c (List.mem_append_left _ hc)
    have hlast : last.toNat - '0'.toNat ≤ 9 := by
      have hdigit := h last (by simp)
      simp only [Char.isDigit, Bool.and_eq_true, decide_eq_true_eq, UInt32.le_iff_toNat_le] at hdigit
      exact Nat.sub_le_of_le_add hdigit.2
    rw [Nat.ofDigitChars_append, Nat.ofDigitChars_cons, Nat.ofDigitChars_nil, List.length_append,
      List.length_singleton, pow_succ]
    omega

/-- Digits of a word, with a sign or without, are read as a whole number. -/
theorem numberOf?_whole (negative : Bool) {n : Nat} (h : n < UInt64.size) :
    numberOf? ⟨negative, Nat.toDigits 10 n, none, none⟩ = some (wholeOf negative n) := by
  have habsorb : absorb 0 (Nat.toDigits 10 n) = (n, []) := by
    rw [absorb_of_lt] <;> rw [Nat.ofDigitChars_ten_toDigits]
    exact h
  simp [numberOf?, habsorb]

/-- A number with few digits in front of the point is accepted if it leaves room below the
greatest one. -/
theorem isSome_numberOf? {numeral : Numeral} (h : numeral.Digital)
    (hwhole : numeral.whole.length ≤ 19) (hsize : numeral.magnitude ≤ 2 ^ (1017 : Int)) :
    (numberOf? numeral).isSome = true := by
  have hword : Nat.ofDigitChars 10 numeral.whole 0 < UInt64.size := by
    calc Nat.ofDigitChars 10 numeral.whole 0 < 10 ^ numeral.whole.length :=
          ofDigitChars_lt h.whole.digit
      _ ≤ 10 ^ 19 := Nat.pow_le_pow_right (by decide) hwhole
      _ ≤ UInt64.size := by decide
  obtain ⟨kept, hfraction, hvalue, -⟩ := absorb_spec (numeral.fraction.getD []) hword
  rw [numberOf?, absorb_of_lt hword]
  dsimp only
  split
  next => rfl
  next =>
    generalize absorb (Nat.ofDigitChars 10 numeral.whole 0) (numeral.fraction.getD []) = absorbed at *
    obtain ⟨significand, cutDigits⟩ := absorbed
    apply isSome_decimalOf
    -- the digits that were cut off would only make the number greater
    refine le_trans ?_ hsize
    have hexponent : (numeral.exponent.map ExponentPart.value).getD 0 =
        numeral.exponent.elim 0 ExponentPart.value := by
      cases numeral.exponent <;> rfl
    have hdigits : 10 ^ cutDigits.length * significand ≤ Nat.ofDigitChars 10 numeral.digits 0 := by
      rw [Numeral.digits, hfraction, Nat.ofDigitChars_append, Nat.ofDigitChars_append, ← hvalue]
      exact mul_le_ofDigitChars cutDigits significand
    have hlength : (numeral.fraction.getD []).length = kept.length + cutDigits.length := by
      rw [hfraction, List.length_append]
    have hscale : numeral.scale + cutDigits.length =
        ([] : List Char).length
          - (((numeral.fraction.getD []).length - cutDigits.length : Nat) : Int)
          + (numeral.exponent.map ExponentPart.value).getD 0 := by
      rw [hexponent, scale, List.length_nil]
      omega
    rw [← hscale, zpow_add₀ (by norm_num), zpow_natCast]
    have hdigitsQ : (10 : ℚ) ^ cutDigits.length * significand ≤
        (Nat.ofDigitChars 10 numeral.digits 0 : Nat) := by
      exact_mod_cast hdigits
    calc (significand : ℚ) * (10 ^ numeral.scale * 10 ^ cutDigits.length)
        = 10 ^ cutDigits.length * significand * 10 ^ numeral.scale := by ring
      _ ≤ (Nat.ofDigitChars 10 numeral.digits 0 : Nat) * 10 ^ numeral.scale :=
        mul_le_mul_of_nonneg_right hdigitsQ (by positivity)

/-- A bounded number is written as a numeral of the grammar, and the reader accepts it. -/
theorem numeral_of_bounded {layout : DecimalLayout} (hlayout : layout.highest ≤ 18)
    {negative : Bool} {significand : Nat} {exponent : Int}
    (h : (Binary.finite negative significand exponent).Bounded) :
    (layout.partsOfFinite binary64 negative significand exponent).Standard ∧
      (numberOf? (layout.partsOfFinite binary64 negative significand exponent)).isSome = true := by
  obtain ⟨hatMost, hlt, hmax, hmin⟩ := h
  rw [DecimalLayout.partsOfFinite]
  split
  -- zero is written with a zero on either side of the point
  next hzero =>
    have hdigital := DecimalLayout.digital_zero negative
    have hvalue : (Numeral.mk negative ['0'] (some ['0']) none).magnitude = 0 := by
      simp [Numeral.magnitude, Numeral.digits, Nat.ofDigitChars_cons]
    refine ⟨⟨hdigital, fun _ => rfl⟩, isSome_numberOf? hdigital ?_ ?_⟩
    · change 1 ≤ 19
      decide
    · rw [hvalue]
      positivity
  next hne =>
    -- the exponents of double precision, in numbers
    have hexponents : -1074 ≤ exponent ∧ exponent ≤ 971 := by
      have hleast : binary64.minExponent = -1074 := rfl
      have hgreatest : binary64.maxExponent = 971 := rfl
      omega
    obtain ⟨hpos, hsize⟩ := Decimal.shortest_spec layout.tie (Nat.pos_of_ne_zero hne) hlt
      hexponents.1 hexponents.2
    generalize Decimal.shortest binary64 layout.tie significand exponent = decimal at *
    have hstandard := layout.standard_parts negative hpos
    refine ⟨hstandard, isSome_numberOf? hstandard.toDigital ?_ ?_⟩
    · rcases layout.whole_parts negative decimal with hwhole | ⟨-, hwhole | hwhole⟩
      · rw [hwhole]
        decide
      · omega
      · omega
    · -- the shortest decimal is at most twice the number, and there is room for that
      rw [layout.magnitude_parts negative decimal]
      refine hsize.trans ?_
      calc 2 * ((significand : ℚ) * 2 ^ exponent) ≤ 2 * 2 ^ (1016 : Int) := by
            exact mul_le_mul_of_nonneg_left hatMost (by norm_num)
        _ = 2 ^ (1 + 1016 : Int) := by rw [zpow_add₀ two_ne_zero, zpow_one]

end InputScript.Json
