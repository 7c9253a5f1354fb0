/-
Sets of held buttons.

A set is the strictly ascending list of its codes, so two sets with the same
codes are equal whatever order the buttons were added in.
-/

set_option autoImplicit false

namespace InputScript.Pad

/-- Puts a code into an ascending list, at its place and at most once. -/
def insertCode (code : UInt8) : List UInt8 → List UInt8
  | [] => [code]
  | first :: rest =>
    if code < first then code :: first :: rest
    else if code = first then first :: rest
    else first :: insertCode code rest

/-- Insertion adds the code and nothing else. -/
@[simp]
theorem mem_insertCode {code other : UInt8} {codes : List UInt8} :
    other ∈ insertCode code codes ↔ other = code ∨ other ∈ codes := by
  induction codes with
  | nil => simp [insertCode]
  | cons first rest ih =>
    rw [insertCode]
    split
    · simp
    · split
      · rename_i h
        simp [h]
      · simp [ih, or_left_comm]

/-- Insertion keeps a list strictly ascending. -/
theorem pairwise_insertCode {code : UInt8} {codes : List UInt8}
    (h : codes.Pairwise (· < ·)) : (insertCode code codes).Pairwise (· < ·) := by
  induction codes with
  | nil => simp [insertCode]
  | cons first rest ih =>
    rw [List.pairwise_cons] at h
    rw [insertCode]
    split
    · rename_i hlt
      refine List.pairwise_cons.2 ⟨fun other hmem => ?_, List.pairwise_cons.2 h⟩
      rcases List.mem_cons.1 hmem with rfl | hmem
      · exact hlt
      · exact UInt8.lt_trans hlt (h.1 other hmem)
    · split
      · exact List.pairwise_cons.2 h
      · rename_i hge hne
        refine List.pairwise_cons.2 ⟨fun other hmem => ?_, ih h.2⟩
        rcases mem_insertCode.1 hmem with rfl | hmem
        · exact UInt8.lt_of_le_of_ne (UInt8.not_lt.1 hge) (Ne.symm hne)
        · exact h.1 other hmem

/-- A set of button codes. -/
structure ButtonSet where
  codes : List UInt8
  ascending : codes.Pairwise (· < ·)
deriving DecidableEq

namespace ButtonSet

/-- No button. -/
def empty : ButtonSet := ⟨[], .nil⟩

/-- The set with one more code. -/
def insert (code : UInt8) (buttons : ButtonSet) : ButtonSet :=
  ⟨insertCode code buttons.codes, pairwise_insertCode buttons.ascending⟩

/-- The set of the codes in a list. -/
def ofList (codes : List UInt8) : ButtonSet :=
  codes.foldr insert empty

/-- The set of a list has the codes of the list. -/
@[simp]
theorem mem_codes_ofList {code : UInt8} {codes : List UInt8} :
    code ∈ (ofList codes).codes ↔ code ∈ codes := by
  induction codes with
  | nil => simp [ofList, empty]
  | cons first rest ih =>
    rw [ofList] at ih
    simp [ofList, insert, ih]

end ButtonSet

end InputScript.Pad
