/-
Key tables as files (`load_keys_from_json`).

A key file is a JSON object of names and codes. Scripts are matched without
regard to case, so the names are upper-cased, and two names that become equal
are an error rather than a choice. Members are taken in the order of their
names, and the first one that is not usable decides the error.
-/
import InputScript.Json.Printer
import InputScript.Json.Reader
import InputScript.Pad.Keys
import InputScript.Text.UpperCase

set_option autoImplicit false

namespace InputScript.Project

open InputScript.Pad InputScript.Text
open InputScript.Json (Value)

/-- Why a text is not a key table. -/
inductive KeyFileError where
  | notJson
  | notAnObject
  | noKeys
  /-- A name whose value is not a code. -/
  | badCode (name : String) (value : Value)
  /-- An upper-cased name that an earlier member already has. -/
  | definedTwice (name : String)
deriving Repr

/-- The error in words. -/
def KeyFileError.message : KeyFileError → String
  | .notJson => "the text is not valid JSON"
  | .notAnObject => "key table must be a JSON object"
  | .noKeys => "key table is empty"
  | .badCode name value =>
    "key `" ++ name ++ "` has code " ++ value.compact ++ ", expected 0..=255"
  | .definedTwice name => "key `" ++ name ++ "` defined twice"

/-- The code a value stands for: a whole number of one byte. -/
def codeOf? : Value → Option UInt8
  | .number (.whole n) => if 0 ≤ n ∧ n < 256 then some n.toNat.toUInt8 else none
  | _ => none

/-- What reading a key file gives: the keys taken before it ended, upper-cased
and in order, and how it ended. -/
structure KeyReading where
  taken : List (String × UInt8)
  result : Except KeyFileError KeyTable

/-- Adds members to a table one after the other (the loop of
`load_keys_from_json`), up to the first that is not usable. A value that is no
code counts before a name that is taken. -/
def readMembers (keys : KeyTable) : List (String × Value) → KeyReading
  | [] => ⟨[], .ok keys⟩
  | (name, value) :: rest =>
    match codeOf? value with
    | none => ⟨[], .error (.badCode name value)⟩
    | some code =>
      let folded := upperCase name
      if (keys.code? folded).isSome then ⟨[], .error (.definedTwice folded)⟩
      else
        let later := readMembers (keys.insert folded code) rest
        ⟨(folded, code) :: later.taken, later.result⟩

/-- The key table of a JSON value. -/
def readKeyValue : Value → KeyReading
  | .object [] => ⟨[], .error .noKeys⟩
  | .object members => readMembers .empty members
  | _ => ⟨[], .error .notAnObject⟩

/-- The key table of a JSON text (`load_keys_from_json`). -/
def readKeys (text : String) : KeyReading :=
  match Value.parse? text with
  | none => ⟨[], .error .notJson⟩
  | some value => readKeyValue value

end InputScript.Project
