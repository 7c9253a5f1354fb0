/-
The frame table as a C++ header (`c::write`).

The header declares an enumerator for every key, the types of a frame, and the
table with one row per frame for firmware that replays it without reading
scripts. Held buttons are a 32-bit mask, so a frame that uses a key code of 32
or more cannot be written: the header then breaks off in front of that frame's
row. The lines in front of it are kept.
-/
import InputScript.Compile.Script
import InputScript.Decimal.Layout

set_option autoImplicit false

namespace InputScript.Artifact

open InputScript.Compile InputScript.Pad

/-! ## 1. Identifiers -/

/-- A name as an identifier (`c_ident`): every character that may not stand in
one becomes an underscore, and an underscore is put in front of a leading digit
and stands for the empty name. -/
def identifierChars (name : List Char) : List Char :=
  let plain := name.map fun c => if c.isAlphanum then c else '_'
  match plain with
  | [] => ['_']
  | first :: _ => if first.isDigit then '_' :: plain else plain

/-- A name as an identifier. -/
def identifier (name : String) : String :=
  String.ofList (identifierChars name.toList)

/-! ## 2. Literals -/

/-- A number as a literal (`float`), with the shortest digits of its
single-precision value. A number that is finite in double precision only has no
digits there, and whatever is neither finite nor positive infinity is written as
negative infinity. -/
def literal (x : Binary) : String :=
  match x with
  | .infinity false => "INFINITY"
  | .infinity true | .nan => "-INFINITY"
  | .finite .. =>
    match x.convert binary32 with
    | .finite negative significand exponent =>
      String.ofList (DecimalLayout.plain.writeFinite binary32 negative significand exponent) ++ "f"
    | .infinity true => "-inff"
    | _ => "inff"

/-- A stick as an initialiser (`stick`). -/
def stickInitialiser (stick : Stick) : String :=
  "\x7b " ++ literal stick.x ++ ", " ++ literal stick.y ++ ", " ++ literal stick.power ++ ", "
    ++ literal stick.angle ++ " \x7d"

/-! ## 3. Rows -/

/-- A frame uses a key code that the mask has no bit for. -/
structure MaskOverflow where
  code : UInt8
deriving DecidableEq, Repr

/-- What the failure says. -/
def MaskOverflow.message (failure : MaskOverflow) : String :=
  "key code " ++ failure.code.toNat.repr ++ " does not fit the 32-bit button mask"

/-- The mask of a set of buttons (`mask`), one bit for each code. -/
def buttonMask (buttons : ButtonSet) : Except MaskOverflow Nat :=
  match buttons.codes.find? (32 ≤ ·) with
  | some code => .error ⟨code⟩
  | none => .ok (buttons.codes.foldl (fun mask code => mask ||| pow2 code.toNat) 0)

/-- The row of a frame (a turn of the loop in `c::write`). -/
def row (frame : UInt64) (state : PadState) : Except MaskOverflow String := do
  let mask ← buttonMask state.buttons
  return "    \x7b " ++ frame.toNat.repr ++ "ull, 0x" ++ String.ofList (Nat.toDigits 16 mask)
    ++ "u, " ++ stickInitialiser state.left ++ ", " ++ stickInitialiser state.right ++ " \x7d,"

/-! ## 4. The header -/

/-- Lines of a header, and why they break off if they do. -/
structure Written where
  lines : List String
  failure : Option MaskOverflow

/-- The rows of frames up to the first one that cannot be written. -/
def rows : List (UInt64 × PadState) → Written
  | [] => ⟨[], none⟩
  | (frame, state) :: rest =>
    match row frame state with
    | .error failure => ⟨[], some failure⟩
    | .ok line =>
      let later := rows rest
      ⟨line :: later.lines, later.failure⟩

/-- The enumerator of a key. -/
def enumerator (key : String × UInt8) : String :=
  "    " ++ identifier key.1 ++ " = " ++ key.2.toNat.repr ++ ","

/-- The lines in front of the table: the enumeration of the keys and the types
of a frame. -/
def declarations (keys : List (String × UInt8)) : List String :=
  ["#pragma once", "#include <cmath>", "#include <cstdint>",
    "// Auto-generated – DO NOT EDIT", "", "enum class PadKey : uint8_t \x7b"]
  ++ keys.map enumerator
  ++ ["\x7d;", "", "struct PadStick \x7b float x, y, power, angle; \x7d;",
    "struct PadFrame \x7b uint64_t frame; uint32_t buttons; PadStick left; PadStick right; \x7d;",
    ""]

/-- The cursor and the number of frames. -/
def sizes (symbol : String) (timeline : Timeline) : List String :=
  ["static const int64_t  " ++ symbol ++ "_last_frame = " ++ timeline.lastFrame.toInt.repr ++ ";",
    "static const uint32_t " ++ symbol ++ "_frame_count = " ++ timeline.size.repr ++ ";"]

/-- The lines of the header of a named, compiled script (`c::write`). An empty
table is a null pointer, since there are no arrays without elements. -/
def headerLines (name : String) (keys : List (String × UInt8)) (timeline : Timeline) :
    Written :=
  let symbol := identifier name
  let opening := declarations keys ++ sizes symbol timeline
  if timeline.frames.isEmpty then
    ⟨opening ++ ["static const PadFrame* const " ++ symbol ++ "_frames = nullptr;"], none⟩
  else
    let body := rows timeline.frames
    ⟨opening ++ ["static const PadFrame " ++ symbol ++ "_frames[] = \x7b"] ++ body.lines
      ++ (if body.failure.isNone then ["\x7d;"] else []), body.failure⟩

/-- Lines as a text, each with a line feed behind it. -/
def unlines (lines : List String) : String :=
  lines.foldr (fun line text => line ++ "\n" ++ text) ""

/-- The text of what was written. -/
def Written.text (written : Written) : String :=
  unlines written.lines

end InputScript.Artifact
