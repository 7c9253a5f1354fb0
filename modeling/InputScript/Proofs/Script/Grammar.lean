/-
The grammar of script lines, over characters.

What a line says is fixed here without tokens and without an order in which things
are tried. Each form is a relation between a text, what is read at its front, and
the rest behind that; white space in it is any run of white space, whereas digits
and fields are maximal runs, which neither end early nor are cut off. The texts
are upper-cased ones.
-/
import InputScript.Script.Statement

set_option autoImplicit false

namespace InputScript.Script.Grammar

open InputScript.Text InputScript.Timeline

/-! ## 1. Runs of characters -/

/-- A run of characters of a class, not empty, that the rest does not go on with. -/
structure Run (belongs : Char → Bool) (run rest : List Char) : Prop where
  ne_nil : run ≠ []
  all : ∀ c ∈ run, belongs c = true
  maximal : ∀ c ∈ rest.head?, belongs c = false

/-- White space, if there is any. -/
def Blank (text rest : List Char) : Prop :=
  ∃ blank, text = blank ++ rest ∧ ∀ c ∈ blank, isWhiteSpace c = true

/-- White space, at least one character of it. -/
def Gap (text rest : List Char) : Prop :=
  ∃ gap, text = gap ++ rest ∧ gap ≠ [] ∧ ∀ c ∈ gap, isWhiteSpace c = true

/-! ## 2. Numbers -/

/-- `NUMBER`: digits whose value is that of a word. -/
def Number (text : List Char) (value : UInt64) (rest : List Char) : Prop :=
  ∃ digits, text = digits ++ rest ∧ Run Char.isDigit digits rest ∧
    Nat.ofDigitChars 10 digits 0 = value.toNat

/-- `[-] NUMBER`, of any size. -/
inductive Signed : List Char → SignedNumeral → List Char → Prop
  | unsigned {digits rest : List Char} (hdigits : Run Char.isDigit digits rest) :
    Signed (digits ++ rest) ⟨false, Nat.ofDigitChars 10 digits 0⟩ rest
  | negative {digits rest : List Char} (hdigits : Run Char.isDigit digits rest) :
    Signed ('-' :: (digits ++ rest)) ⟨true, Nat.ofDigitChars 10 digits 0⟩ rest

/-! ## 3. The parts of an instruction -/

/-- `[- NUMBER]`. -/
inductive UpTo : List Char → Option UInt64 → List Char → Prop
  | absent {rest : List Char} : UpTo rest none rest
  | present {text rest : List Char} {number : UInt64} (hnumber : Number text number rest) :
    UpTo ('-' :: text) (some number) rest

/-- `[+] NUMBER [- NUMBER]`. -/
inductive Frames : List Char → FrameAddress → List Char → Prop
  | absolute {text middle rest : List Char} {first : UInt64} {second : Option UInt64}
    (hfirst : Number text first middle) (hsecond : UpTo middle second rest) :
    Frames text (.absolute first second) rest
  | relative {text middle rest : List Char} {first : UInt64} {second : Option UInt64}
    (hfirst : Number text first middle) (hsecond : UpTo middle second rest) :
    Frames ('+' :: text) (.relative first second) rest

/-- White space and `[-] NUMBER ; [-] NUMBER`. -/
def StickField (text : List Char) (pair : StickPair) (rest : List Char) : Prop :=
  ∃ first second, Gap text first ∧ Signed first pair.x (';' :: second) ∧ Signed second pair.y rest

/-- The sticks that are given behind the buttons. -/
inductive Sticks : List Char → Option StickPair → Option StickPair → Prop
  | neither {text : List Char} (hnone : ∀ pair rest, ¬StickField text pair rest) :
    Sticks text none none
  | leftOnly {text rest : List Char} {left : StickPair} (hleft : StickField text left rest)
    (hnone : ∀ pair tail, ¬StickField rest pair tail) : Sticks text (some left) none
  | both {text rest tail : List Char} {left right : StickPair}
    (hleft : StickField text left rest) (hright : StickField rest right tail) :
    Sticks text (some left) (some right)

/-- The names of the buttons in a field, which stand between semicolons. -/
def names (field : List Char) : List String :=
  ((field.splitOn ';').filter fun name => !name.isEmpty).map String.ofList

/-! ## 4. Lines -/

/-- `_ NUMBER _ X _ {`. -/
def LoopStartLine (text : List Char) (repetitions : UInt64) : Prop :=
  ∃ number behind brace rest, Blank text number ∧ Number number repetitions behind ∧
    Blank behind ('X' :: brace) ∧ Blank brace ('{' :: rest)

/-- `_ }`. -/
def LoopEndLine (text : List Char) : Prop :=
  ∃ rest, Blank text ('}' :: rest)

/-- `_ frames SPACE buttons [SPACE stick [SPACE stick]]`. -/
def InstructionLine (text : List Char) (written : Instruction) : Prop :=
  ∃ frames behind field rest, Blank text frames ∧ Frames frames written.frames behind ∧
    Gap behind (field ++ rest) ∧ Run (fun c => !isWhiteSpace c) field rest ∧
    written.buttons = names field ∧ Sticks rest written.left written.right

/-! ## 5. Where runs end

A maximal run is what there is of its class. White space need not be maximal, but
the grammar always asks for something solid behind it. -/

/-- Behind a maximal run is the rest. -/
theorem Run.dropWhile_eq {belongs : Char → Bool} {run rest : List Char} (h : Run belongs run rest) :
    (run ++ rest).dropWhile belongs = rest := by
  rw [List.dropWhile_append_of_pos h.all]
  cases rest with
  | nil => rfl
  | cons c rest => exact List.dropWhile_cons_of_neg (by simp [h.maximal c rfl])

/-- In front of the rest is the whole of the run. -/
theorem Run.takeWhile_eq {belongs : Char → Bool} {run rest : List Char} (h : Run belongs run rest) :
    (run ++ rest).takeWhile belongs = run := by
  have hline := List.takeWhile_append_dropWhile (p := belongs) (l := run ++ rest)
  rw [h.dropWhile_eq] at hline
  exact List.append_cancel_right hline

/-- A run starts with a character of its class. -/
theorem Run.head?_mem {belongs : Char → Bool} {run rest : List Char} (h : Run belongs run rest) :
    ∀ c ∈ (run ++ rest).head?, belongs c = true := by
  obtain ⟨first, more, rfl⟩ := List.exists_cons_of_ne_nil h.ne_nil
  intro c hc
  cases hc
  exact h.all first List.mem_cons_self

/-- What is left of a text does not go on with the class that was taken off. -/
theorem head?_dropWhile (belongs : Char → Bool) (text : List Char) :
    ∀ c ∈ (text.dropWhile belongs).head?, belongs c = false := by
  intro c hc
  have hnot := List.head?_dropWhile_not belongs text
  rw [hc] at hnot
  simpa using hnot

/-- What a text starts with is a run, unless there is nothing of its class. -/
theorem run_takeWhile {belongs : Char → Bool} {text : List Char}
    (h : text.takeWhile belongs ≠ []) :
    Run belongs (text.takeWhile belongs) (text.dropWhile belongs) :=
  ⟨h, List.all_eq_true.1 List.all_takeWhile, head?_dropWhile belongs text⟩

/-- A text that does not start with white space. -/
def Solid (text : List Char) : Prop :=
  ∀ c ∈ text.head?, isWhiteSpace c = false

theorem solid_cons {c : Char} (h : isWhiteSpace c = false) (rest : List Char) : Solid (c :: rest) := by
  intro d hd
  cases hd
  exact h

/-- All white space in front of a text can be skipped. -/
theorem exists_blank (text : List Char) : ∃ rest, Blank text rest ∧ Solid rest :=
  ⟨text.dropWhile isWhiteSpace,
    ⟨text.takeWhile isWhiteSpace, List.takeWhile_append_dropWhile.symm,
      List.all_eq_true.1 List.all_takeWhile⟩,
    head?_dropWhile isWhiteSpace text⟩

theorem Gap.isWhiteSpace_head? {text rest : List Char} (h : Gap text rest) :
    ∀ c ∈ text.head?, isWhiteSpace c = true := by
  obtain ⟨gap, rfl, hnil, hall⟩ := h
  obtain ⟨first, more, rfl⟩ := List.exists_cons_of_ne_nil hnil
  intro c hc
  cases hc
  exact hall first List.mem_cons_self

theorem Number.isDigit_head? {text rest : List Char} {value : UInt64} (h : Number text value rest) :
    ∀ c ∈ text.head?, c.isDigit = true := by
  obtain ⟨digits, rfl, hrun, -⟩ := h
  exact hrun.head?_mem

theorem Number.solid {text rest : List Char} {value : UInt64} (h : Number text value rest) :
    Solid text :=
  fun c hc => isWhiteSpace_of_isDigit (h.isDigit_head? c hc)

theorem Signed.solid {text rest : List Char} {numeral : SignedNumeral}
    (h : Signed text numeral rest) : Solid text := by
  cases h with
  | unsigned hrun => exact fun c hc => isWhiteSpace_of_isDigit (hrun.head?_mem c hc)
  | negative => exact solid_cons (by decide) _

theorem Frames.solid {text rest : List Char} {address : FrameAddress}
    (h : Frames text address rest) : Solid text := by
  cases h with
  | absolute hfirst => exact hfirst.solid
  | relative => exact solid_cons (by decide) _

end InputScript.Script.Grammar
