/-
Running the command (`run`).

The command loads a project, compiles it, and writes two files into the output
directory: the JSON frame table and then the C++ header. It ends with exit code
0, with 1 when a step fails, and with 2 when the arguments make no sense. A
step that fails is reported together with its causes, and a header that breaks
off leaves its beginning behind.
-/
import InputScript.Artifact.StateLine
import InputScript.Command.Arguments
import InputScript.Log.Filter
import InputScript.Project.Load

set_option autoImplicit false

namespace InputScript.Command

open InputScript.Artifact InputScript.Disk InputScript.Log InputScript.Project InputScript.Text

/-! ## 1. Outcomes -/

/-- Something on the error stream: a log record or lines of plain text. -/
inductive Message where
  | record (record : Record)
  | text (line : String)
deriving DecidableEq, Repr

/-- How a run ends. -/
structure Outcome where
  exitCode : Nat
  output : List String
  messages : List Message

/-- The lines of a text, with one lead for the first line and one for the rest. -/
def indentedLines (first later text : String) : List String :=
  (pieces '\n' text.toList).zipIdx.map fun (line, number) =>
    (if number = 0 then first else later) ++ String.ofList line

/-- The lead of a numbered cause, whose numbers end in the fifth column. -/
def numberLead (number : Nat) : String :=
  "".pushn ' ' (5 - number.repr.length) ++ number.repr ++ ": "

/-- The report of a step that failed, from what it was to its last cause. The
causes are numbered if there are several. -/
def failureLines : List String → List String
  | [] => []
  | [only] => ["Error: " ++ only]
  | [outer, cause] => ["Error: " ++ outer, "", "Caused by:"] ++ indentedLines "    " "    " cause
  | outer :: causes =>
    ["Error: " ++ outer, "", "Caused by:"] ++
      causes.zipIdx.flatMap fun (cause, number) =>
        indentedLines (numberLead number) "       " cause

/-- The lines of a message. The lead of a record is printed in front of its
message, whose further lines are indented. -/
def Message.lines (lead : Record → String) : Message → List String
  | .text line => indentedLines "" "" line
  | .record entry => indentedLines (lead entry) "    " entry.message

/-! ## 2. Logging -/

/-- The filter in force when nothing else is asked for. -/
def defaultSpecification : String := "info"

/-- The filter of a run (`init_logging`): the inherited specification, with that
of the command line on top. -/
def filterFor (inherited : Option String) (asked : Option String) : Filter × List String :=
  let (base, complaints) := Filter.empty.add (inherited.getD defaultSpecification)
  match asked with
  | none => (base, complaints)
  | some specification =>
    let (filter, more) := base.add specification
    (filter, complaints ++ more)

/-- The record that shows one frame. -/
def frameRecord (timeline : Timeline) (frame : UInt64) : Record :=
  ⟨.info, .command, "frame " ++ frame.toNat.repr ++ ": " ++
    match timeline.stateAt frame with
    | some state => stateLine state
    | none => "unspecified"⟩

/-! ## 3. Steps -/

variable {m : Type → Type} [Monad m]

/-- Writes the artifacts of a project into a directory (`emit`). The result is
the chain of causes of the step that failed, if one did. -/
def writeArtifacts (disk : Access m) (project : ProcessedProject) (output : String) :
    m (Option (List String)) := do
  match ← disk.makeDirectories output with
  | .error e => return some ["Creating " ++ output, e.message]
  | .ok () =>
  match ← disk.writeFile (join output (project.name ++ "_frames.json")) project.json.toUTF8 with
  | .error e => return some ["Writing JSON frame table", e.message]
  | .ok () =>
  let header := project.header
  match ← disk.writeFile (join output (project.name ++ "_frames.h")) header.text.toUTF8 with
  | .error e => return some ["Writing C header", e.message]
  | .ok () =>
  match header.failure with
  | some failure => return some ["Writing C header", failure.message]
  | none => return none

/-- Loads, compiles and writes. The result holds the records of all steps and
the chain of causes of the step that failed, if one did. -/
def compileProject (disk : Access m) (options : Options) :
    m (List Record × Option (List String)) := do
  let loading ← load disk options.input options.keys options.name
  match loading.result with
  | .error e => return (loading.records, some ("Loading inputs" :: e.causes))
  | .ok project =>
    let processed := project.process
    let shown := options.frame.toList.map (frameRecord processed.compiled.timeline)
    let failed ← writeArtifacts disk processed options.output
    return (loading.records ++ processed.records ++ shown, failed)

/-! ## 4. The command -/

/-- How the command is used. -/
def usage : List String :=
  ["Compiles a gamepad input script into a frame table", "",
    "Usage: [OPTIONS] <INPUT> <OUTPUT>", "",
    "Arguments:",
    "  <INPUT>   Input script",
    "  <OUTPUT>  Output directory", "",
    "Options:",
    "      --keys <KEYS>            JSON object of button names and codes",
    "      --name <NAME>            Base name of the written files",
    "      --frame <FRAME>          Log the controller state of this frame",
    "      --log-level <LOG_LEVEL>  Log filter",
    "  -h, --help                   Print help",
    "  -V, --version                Print version"]

/-- The version of the command. -/
def version : String := "0.1.0"

/-- Runs the command (`run`). `inherited` is the log filter of the environment.
-/
def run (disk : Access m) (inherited : Option String) (arguments : List String) :
    m Outcome := do
  match Invocation.parse arguments with
  | .error e => return ⟨2, [], [.text ("error: " ++ e.message)]⟩
  | .ok .help => return ⟨0, usage, []⟩
  | .ok .version => return ⟨0, [version], []⟩
  | .ok (.compile options) =>
    let (filter, complaints) := filterFor inherited options.logLevel
    let (records, failed) ← compileProject disk options
    let messages := complaints.map Message.text ++
      (records.filter filter.passes).map Message.record
    match failed with
    | none => return ⟨0, [], messages⟩
    | some causes => return ⟨1, [], messages ++ (failureLines causes).map Message.text⟩

end InputScript.Command
