/-
From text to expression.

A pattern is refused if it cannot be read, if it makes no sense where it stands,
if its machine would be too large, or if it asks for words beyond ASCII.
-/
import InputScript.Pattern.Meaning
import InputScript.Pattern.Parse

set_option autoImplicit false

namespace InputScript.Pattern

/-- Why a pattern is refused. -/
inductive Refusal where
  /-- The text of the pattern and what is wrong with it. -/
  | misread (source : List Char) (complaint : Complaint)
  | tooLarge
  | wordsUnknown
deriving DecidableEq, Repr

/-- The greatest size of a machine in bytes. -/
def maxSize : Nat := 10485760

/-- The refusal in words. -/
def Refusal.message : Refusal → String
  | .misread source complaint => complaint.report source
  | .tooLarge => "Compiled regex exceeds size limit of " ++ maxSize.repr ++ " bytes."
  | .wordsUnknown => "error building NFA"

/-- What the text of a pattern matches. -/
def Expression.read (source : List Char) : Except Refusal Expression :=
  match Tree.parse source with
  | .error complaint => .error (.misread source complaint)
  | .ok tree =>
    match tree.meaning .initial with
    | .error complaint => .error (.misread source complaint)
    | .ok (expression, _) =>
      if maxSize < expression.size then .error .tooLarge
      else if expression.needsWords then .error .wordsUnknown
      else .ok expression

end InputScript.Pattern
