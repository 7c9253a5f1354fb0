/-
Names of buttons and their codes (`KeyTable`, `Resolver`).

A key table gives each of its names one code; several names may share a code,
and every code from 0 to 255 is usable. A layout is a table together with the
spellings it accepts for a name, tried in order, and with the polar form of its
sticks.
-/
import InputScript.Pad.Stick

set_option autoImplicit false

namespace InputScript

/-- Leaving out one key does not change where the others are found. -/
theorem lookup_filter_ne {Key Value : Type} [BEq Key] [LawfulBEq Key] [DecidableEq Key]
    {pairs : List (Key × Value)} {key other : Key} (h : other ≠ key) :
    (pairs.filter fun pair => pair.1 ≠ key).lookup other = pairs.lookup other := by
  induction pairs with
  | nil => rfl
  | cons pair rest ih =>
    obtain ⟨first, value⟩ := pair
    by_cases hfirst : first = key
    · have hother : (other == first) = false := by simpa [hfirst] using h
      rw [List.filter_cons_of_neg (by simpa using hfirst), List.lookup_cons, hother]
      exact ih
    · rw [List.filter_cons_of_pos (by simpa using hfirst), List.lookup_cons, List.lookup_cons, ih]

end InputScript

namespace InputScript.Pad

/-! ## 1. Key tables -/

/-- Names with their codes, each name once. The order of the pairs carries no
meaning: tables are looked up by name and listed in an order of their own. -/
structure KeyTable where
  pairs : List (String × UInt8)
  distinct : (pairs.map Prod.fst).Nodup
deriving DecidableEq

namespace KeyTable

/-- The table without names. -/
def empty : KeyTable := ⟨[], by simp⟩

/-- The code of a name (`KeyTable::code`). -/
def code? (keys : KeyTable) (name : String) : Option UInt8 :=
  keys.pairs.lookup name

/-- The table with a name bound to a code, in place of any earlier binding. -/
def insert (keys : KeyTable) (name : String) (code : UInt8) : KeyTable where
  pairs := (name, code) :: keys.pairs.filter fun pair => pair.1 ≠ name
  distinct := by
    rw [List.map_cons, List.nodup_cons]
    refine ⟨?_, ?_⟩
    · simp
    · exact keys.distinct.sublist (List.filter_sublist.map _)

@[simp]
theorem code?_empty (name : String) : empty.code? name = none := rfl

/-- An inserted name has its new code, and the other names keep theirs. -/
theorem code?_insert {keys : KeyTable} {name other : String} {code : UInt8} :
    (keys.insert name code).code? other =
      if other = name then some code else keys.code? other := by
  rw [code?, insert, List.lookup_cons]
  by_cases h : other = name
  · simp [h]
  · have hne : (other == name) = false := by simpa using h
    rw [hne, if_neg h]
    exact lookup_filter_ne h

/-- Names are listed by code, and names of one code by their characters. -/
def comesBefore (a b : String × UInt8) : Bool :=
  a.2 < b.2 || a.2 == b.2 && !decide (b.1 < a.1)

/-- All names with their codes, by code and then by name (`entries`). -/
def entries (keys : KeyTable) : List (String × UInt8) :=
  keys.pairs.mergeSort comesBefore

/-- All names with their codes, by name. -/
def byName (keys : KeyTable) : List (String × UInt8) :=
  keys.pairs.mergeSort fun a b => !decide (b.1 < a.1)

/-- The controller's own buttons (`KeyDict::KEYS`). Code 0 and the codes from 15
to 18 belong to the frame counter and the stick axes and name no button. -/
def builtIn : KeyTable where
  pairs :=
    [("KEY_A", 1), ("KEY_B", 2), ("KEY_X", 3), ("KEY_Y", 4), ("KEY_L", 5), ("KEY_R", 6),
      ("KEY_ZL", 7), ("KEY_ZR", 8), ("KEY_PLUS", 9), ("KEY_MINUS", 10), ("KEY_DLEFT", 11),
      ("KEY_DUP", 12), ("KEY_DRIGHT", 13), ("KEY_DDOWN", 14), ("KEY_HOME", 19)]
  distinct := by decide

end KeyTable

/-! ## 2. Layouts -/

/-- A spelling a layout accepts (`Lookup`). -/
inductive Spelling where
  /-- The token is the name. -/
  | literal
  /-- The name is a fixed text followed by the token. -/
  | prefixed (leading : String)
deriving DecidableEq, Repr

/-- The table name that a token stands for under a spelling (`Lookup::apply`).
-/
def Spelling.name (spelling : Spelling) (token : String) : String :=
  match spelling with
  | .literal => token
  | .prefixed leading => leading ++ token

/-- What the state of an instruction depends on besides the instruction: a key
table, the spellings of its names in order of preference, and how the polar form
of a stick is computed. -/
structure Layout where
  keys : KeyTable
  spellings : List Spelling
  [polar : PolarForm]

/-- The layout of scripts (`Resolver::new`): a token is a name as it stands, or
else what follows `KEY_` in a name. Sticks are correctly rounded. -/
def Layout.standard (keys : KeyTable) : Layout :=
  ⟨keys, [.literal, .prefixed "KEY_"]⟩

/-- The code of a token (`resolve`): the one that the first matching spelling
finds. -/
def Layout.code? (layout : Layout) (token : String) : Option UInt8 :=
  layout.spellings.findSome? fun spelling => layout.keys.code? (spelling.name token)

end InputScript.Pad
