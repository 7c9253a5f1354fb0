/-
Upper-casing of whole texts.

A script is matched without regard to case by upper-casing both the script
line and the key names, letter by letter and without looking at the language.
A letter may become several characters (`ß` becomes `SS`), so upper-casing
works on lists of characters and not on single ones.
-/
import InputScript.Text.CaseTable

set_option autoImplicit false

namespace InputScript.Text

/-! ## 1. One character -/

/-- The upper-case code point a run gives to `code`, if the run holds it. -/
def CaseRun.upper? (run : CaseRun) (code : Nat) : Option Nat :=
  if run.first ≤ code ∧ code ≤ run.last ∧ (code - run.first) % run.stride = 0 then
    some (run.image + (code - run.first))
  else
    none

/-- Searches ascending runs, giving up at the first one above `code`. -/
def upperInRuns? (code : Nat) : List CaseRun → Option Nat
  | [] => none
  | run :: runs =>
    if code < run.first then none
    else (run.upper? code).or (upperInRuns? code runs)

/-- The upper-case form of one character; a character without one is its own. -/
def upperChar (c : Char) : List Char :=
  match upperInRuns? c.toNat caseRuns with
  | some image => [Char.ofNat image]
  | none =>
    match caseExpansions.lookup c.toNat with
    | some images => images.map Char.ofNat
    | none => [c]

/-! ## 2. Texts -/

/-- Upper-cases a list of characters. -/
def upperChars (text : List Char) : List Char :=
  text.flatMap upperChar

/-- Upper-cases a text (`to_uppercase`). -/
def upperCase (text : String) : String :=
  String.ofList (upperChars text.toList)

/-- Upper-casing works on each part of a text alone. -/
theorem upperChars_append (a b : List Char) :
    upperChars (a ++ b) = upperChars a ++ upperChars b := by
  simp [upperChars]

@[simp]
theorem upperChars_nil : upperChars [] = [] := rfl

@[simp]
theorem toList_upperCase (text : String) :
    (upperCase text).toList = upperChars text.toList := by
  simp [upperCase]

end InputScript.Text
