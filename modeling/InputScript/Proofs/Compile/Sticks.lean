/-
Sticks hold numbers.

A script may write any run of digits for a stick, and a run that is long enough is
infinite. No state on a timeline has a NaN for all that: the length of a stick is capped,
and its direction is a number if only that of two numbers always is. Nothing else is relied
on of how lengths and directions are computed. Nor does anything but zeros become zero, and
the zero that there is has no sign.
-/
import InputScript.Proofs.Compile.Origin
import InputScript.Proofs.Decimal.Numeral
import InputScript.Proofs.Pad.Axis

set_option autoImplicit false

namespace InputScript.Script

open InputScript.Binary InputScript.Pad

/-! ## 1. Written digits -/

/-- The digits have the value of the numeral, whose sign stands in front of them. -/
def SignedNumeral.WrittenWith (numeral : SignedNumeral) (digits : List Char) : Prop :=
  Numeral.AllDigits digits ∧ Nat.ofDigitChars 10 digits 0 = numeral.magnitude

/-- Digits have the value zero if they are all zeros. -/
theorem ofDigitChars_eq_zero_iff {digits : List Char} (h : ∀ c ∈ digits, c.isDigit = true) :
    Nat.ofDigitChars 10 digits 0 = 0 ↔ ∀ c ∈ digits, c = '0' := by
  -- the value grows at the last digit, so the digits are taken from behind
  induction digits using List.reverseRecOn with
  | nil => simp
  | append_singleton digits last ih =>
    rw [List.forall_mem_append, List.forall_mem_singleton] at h
    have hlast : last.toNat - '0'.toNat = 0 ↔ last = '0' := by
      have hdigit := h.2
      simp only [Char.isDigit, Bool.and_eq_true, decide_eq_true_eq, UInt32.le_iff_toNat_le] at hdigit
      rw [Nat.sub_eq_zero_iff_le, ← Char.toNat_inj]
      exact ⟨fun hle => Nat.le_antisymm hle hdigit.1, Nat.le_of_eq⟩
    rw [Nat.ofDigitChars_append, Nat.ofDigitChars_cons, Nat.ofDigitChars_nil,
      List.forall_mem_append, List.forall_mem_singleton, ← ih h.1, ← hlast]
    omega

/-- A numeral has the value zero if it is written with zeros, however many. -/
theorem SignedNumeral.magnitude_eq_zero_iff (numeral : SignedNumeral) :
    numeral.magnitude = 0 ↔ ∀ digits, numeral.WrittenWith digits → ∀ c ∈ digits, c = '0' := by
  constructor
  · rintro hzero digits ⟨hdigits, hvalue⟩
    exact (ofDigitChars_eq_zero_iff hdigits.digit).1 (hvalue.trans hzero)
  · intro hall
    -- one way to write the numeral is enough, and every numeral has one
    have hdigits := Numeral.allDigits_toDigits numeral.magnitude
    have hvalue := Nat.ofDigitChars_ten_toDigits (n := numeral.magnitude)
    rw [← hvalue]
    exact (ofDigitChars_eq_zero_iff hdigits.digit).2 (hall _ ⟨hdigits, hvalue⟩)

/-! ## 2. Sticks -/

/-- What an axis is like that is given by a numeral or, without one, at rest: a number, no
negative zero, and zero exactly if no other digit than zero is written for it. -/
structure AxisOf (numeral : Option SignedNumeral) (x : Binary) : Prop where
  ne_nan : x ≠ .nan
  ne_negative_zero : ∀ exponent, x ≠ .finite true 0 exponent
  isZero_iff : x.IsZero ↔
    ∀ given ∈ numeral, ∀ digits, given.WrittenWith digits → ∀ c ∈ digits, c = '0'

/-- What a stick is like that is given by a pair of numerals or, without one, at rest: its
axes are those of the pair, its power is finite and from 0 to 100, and its angle is a
number. -/
structure StickOf (pair : Option StickPair) (stick : Stick) : Prop where
  x : AxisOf (pair.map StickPair.x) stick.x
  y : AxisOf (pair.map StickPair.y) stick.y
  power : ∃ significand exponent, stick.power = .finite false significand exponent ∧
    (significand : ℚ) * 2 ^ exponent ≤ 100
  angle : stick.angle ≠ .nan

/-- The axis that a numeral gives, and the one at rest. -/
theorem axisOf_value (numeral : Option SignedNumeral) :
    AxisOf numeral (axis (numeral.getD ⟨false, 0⟩).value) where
  ne_nan := (axisInRange_axis _ _).ne_nan
  ne_negative_zero := axis_ne_negative_zero _
  isZero_iff := by
    rw [SignedNumeral.value, isZero_axis_iff]
    cases numeral with
    | none => simp
    | some numeral => simp [numeral.magnitude_eq_zero_iff]

section

variable {polar : PolarForm}

/-- The axes are those of the pair and the power is a number by the cap alone, so the angle is
what the polar form is asked for. -/
theorem stickOf_ofAxes (hpolar : polar.HasAngles) {pair : Option StickPair} {x y : Binary}
    (hx : AxisOf (pair.map StickPair.x) x) (hy : AxisOf (pair.map StickPair.y) y) :
    StickOf pair (Stick.ofAxes x y) := by
  obtain ⟨significand, exponent, hpower, -, hvalue⟩ := power_cases (polar.length x y)
  exact ⟨hx, hy, ⟨significand, exponent, hpower, hvalue⟩, hpolar hx.ne_nan hy.ne_nan⟩

/-- Every pair that can be written gives such a stick. -/
theorem stickOf_spec (hpolar : polar.HasAngles) (pair : Option StickPair) :
    StickOf pair (stickOf pair) := by
  rw [stickOf_eq]
  exact stickOf_ofAxes hpolar (axisOf_value _) (axisOf_value _)

end

end InputScript.Script

namespace InputScript.Compile

open InputScript.Pad InputScript.Script InputScript.Text

/-! ## 3. Timelines -/

/-- **Sticks hold numbers.** Every state on the timeline of a script comes from one of its
instruction lines, and whichever instruction that is, both sticks are what its pairs say:
none of their components is a NaN, neither axis is a negative zero, an axis is zero exactly
if the pair is absent or nothing but zeros is written there, and the power is a finite
number from 0 to 100. There is no bound on the number of digits. Lengths and directions may
be computed by any two functions as long as directions of numbers are numbers. -/
theorem sticks_of_stateAt {layout : Layout} (hpolar : layout.polar.HasAngles) {script : String}
    {frame : UInt64} {state : PadState}
    (h : (compile layout script).timeline.stateAt frame = some state) :
    (∃ line ∈ lines script.toList, ∃ written,
      Statement.ofLine line = .instruction written ∧ written.state layout = state) ∧
    ∀ written : Instruction, written.state layout = state →
      StickOf written.left state.left ∧ StickOf written.right state.right := by
  refine ⟨exists_line_of_stateAt h, ?_⟩
  rintro written rfl
  exact ⟨stickOf_spec hpolar written.left, stickOf_spec hpolar written.right⟩

/-- A negative zero and a long run of digits in a loop, and a stick at rest. -/
theorem sticks_of_stateAt_of_loop :
    let script := "2x\x7b\n+0 a -000;90000000000000000000\n\x7d"
    ∃ state, (compile (.standard .builtIn) script).timeline.stateAt 1 = some state ∧
      (∃ line ∈ lines script.toList, ∃ written, Statement.ofLine line = .instruction written ∧
        written.state (.standard .builtIn) = state) ∧
      ∀ written : Instruction, written.state (.standard .builtIn) = state →
        StickOf written.left state.left ∧ StickOf written.right state.right := by
  intro script
  have hsome : ((compile (.standard .builtIn) script).timeline.stateAt 1).isSome = true := by
    decide +kernel
  obtain ⟨state, hstate⟩ := Option.isSome_iff_exists.1 hsome
  exact ⟨state, hstate, sticks_of_stateAt inRange_rounded.hasAngles hstate⟩

end InputScript.Compile
