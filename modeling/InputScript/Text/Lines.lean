/-
Cutting a text into lines.

A line ends at a line feed, and one carriage return directly before that line
feed belongs to the ending. A text that ends with a line feed has no empty
line after it, and a carriage return at the end of an unfinished last line
stays part of that line.
-/

set_option autoImplicit false

namespace InputScript.Text

/-- The lines of a text, without their endings (`lines`). -/
def lines : List Char → List (List Char)
  | [] => []
  | '\n' :: rest => [] :: lines rest
  | '\r' :: '\n' :: rest => [] :: lines rest
  | c :: rest =>
    match lines rest with
    | [] => [[c]]
    | line :: more => (c :: line) :: more

@[simp]
theorem lines_nil : lines [] = [] := rfl

/-- A line feed closes an empty line. -/
@[simp]
theorem lines_newline (rest : List Char) : lines ('\n' :: rest) = [] :: lines rest := rfl

end InputScript.Text
