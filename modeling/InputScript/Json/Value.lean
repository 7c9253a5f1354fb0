/-
JSON values.

Key tables are read from JSON and frame tables are written to it. An object is
the list of its members: a written object keeps their order, and a reader gives
them sorted by name, each name once.
-/
import InputScript.Binary.Basic

set_option autoImplicit false

namespace InputScript.Json

/-- A number: a whole one that a 64-bit word holds, signed or not, or a
double-precision one. -/
inductive Number where
  | whole (n : Int)
  | decimal (x : Binary)
deriving DecidableEq, Repr

/-- A JSON value. -/
inductive Value where
  | null
  | bool (b : Bool)
  | number (n : Number)
  | string (s : String)
  | array (items : List Value)
  | object (members : List (String × Value))
deriving Repr

/-- A double-precision number, or null in place of one that JSON cannot write. -/
def Value.ofBinary (x : Binary) : Value :=
  if x.isFinite then .number (.decimal x) else .null

/-- A natural number. -/
def Value.ofNat (n : Nat) : Value := .number (.whole n)

/-! ## Sorted members -/

/-- Puts a member in its place by name, instead of an earlier one of that name. -/
def insertMember (name : String) (value : Value) :
    List (String × Value) → List (String × Value)
  | [] => [(name, value)]
  | first :: rest =>
    if name < first.1 then (name, value) :: first :: rest
    else if name = first.1 then (name, value) :: rest
    else first :: insertMember name value rest

/-- Members in ascending order of their names; the last one of a name counts. -/
def sortMembers (members : List (String × Value)) : List (String × Value) :=
  members.foldl (fun sorted member => insertMember member.1 member.2 sorted) []

end InputScript.Json
