/-
Projects: a named script with the keys it is compiled for (`RawProject`).

Processing a project compiles its script and lists the keys the compiled frames
refer to, which are those of the built-in table when the project brings none.
What happened is logged: every diagnostic, the compiled frames in full, and a
summary.
-/
import InputScript.Artifact.FrameDocument
import InputScript.Artifact.Header
import InputScript.Log.Record

set_option autoImplicit false

namespace InputScript

open InputScript.Artifact InputScript.Compile InputScript.Log InputScript.Pad

/-! ## 1. Projects -/

/-- Everything a script is compiled from (`RawProject`). Without keys the
built-in ones are used. -/
structure Project where
  name : String
  script : String
  keys : Option KeyTable

/-- A compiled project with its keys in the order they are listed. -/
structure ProcessedProject where
  name : String
  compiled : Compilation
  keys : List (String × UInt8)

namespace Project

/-- The keys the script is compiled for. -/
def keyTable (project : Project) : KeyTable :=
  project.keys.getD .builtIn

/-- Compiles the project (`run`). -/
def process (project : Project) : ProcessedProject where
  name := project.name
  compiled := compile (.standard project.keyTable) project.script
  keys := project.keyTable.entries

end Project

/-! ## 2. Artifacts -/

namespace ProcessedProject

/-- The text of the JSON frame table (`json::write`). -/
def json (project : ProcessedProject) : String :=
  (frameDocument project.name project.compiled).pretty

/-- The C++ header (`c::write`), or as much of it as can be written. -/
def header (project : ProcessedProject) : Written :=
  headerLines project.name project.keys project.compiled.timeline

/-! ## 3. The log -/

/-- How grave a remark is: an ignored line may well be a comment. -/
def remarkLevel : Remark → Level
  | .ignoredLine => .debug
  | _ => .warn

/-- The record of a diagnostic. -/
def diagnosticRecord (diagnostic : Diagnostic) : Record :=
  ⟨remarkLevel diagnostic.remark, .compiling, diagnostic.message⟩

/-- The record of the compiled frames. -/
def framesRecord (timeline : Timeline) : Record :=
  ⟨.debug, .compiling,
    "compiled frames:\n" ++ (timelineValue timeline).pretty⟩

/-- The summary of a compiled project. -/
def summaryRecord (project : ProcessedProject) : Record :=
  ⟨.info, .processing,
    "compiled `" ++ project.name ++ "`: " ++ project.compiled.timeline.size.repr
      ++ " frames, last frame " ++ project.compiled.timeline.lastFrame.toInt.repr ++ ", "
      ++ project.compiled.diagnostics.length.repr ++ " diagnostics"⟩

/-- The records of processing, in order. -/
def records (project : ProcessedProject) : List Record :=
  project.compiled.diagnostics.map diagnosticRecord
    ++ [framesRecord project.compiled.timeline, project.summaryRecord]

end ProcessedProject

end InputScript
