/-
Compiling a script (`ScriptCompiler`): one pass over its lines that fills the
timeline.

Outside a loop an instruction goes straight onto the timeline. Inside a loop it
is collected in the open body, which reaches the timeline when the loop closes.
Loops do not nest: opening a second one drops the first, and a loop that is
still open at the end is dropped as well. Each line is one `step`, which gives
the next state and what it has to remark, so the diagnostics of a script are
those of its steps in order.
-/
import InputScript.Compile.Diagnostic
import InputScript.Script.Cue
import InputScript.Text.Lines
import InputScript.Timeline.Loop

set_option autoImplicit false

namespace InputScript.Compile

open InputScript.Pad InputScript.Script InputScript.Text InputScript.Timeline

/-! ## 1. The state between two lines -/

/-- What has been compiled so far (`Session`). -/
structure Progress where
  timeline : Timeline
  openLoop : Option OpenLoop

namespace Progress

/-- The state in front of the first line. -/
def start : Progress := ⟨.empty, none⟩

/-- Where relative frames count from (`offset_base`): the loop's own cursor
inside a loop, the first frame behind the timeline's outside. -/
def base (progress : Progress) : UInt64 :=
  match progress.openLoop with
  | some loop => loop.cursor
  | none => progress.timeline.nextFrame

/-! ## 2. The four kinds of lines -/

/-- Opens a loop (`open_loop`). -/
def enterLoop (progress : Progress) (repetitions : UInt64) : Progress × List Remark :=
  ({ progress with openLoop := some (.start repetitions) },
    if progress.openLoop.isSome then [.nestedLoop] else [])

/-- Closes a loop (`close_loop`). -/
def leaveLoop (progress : Progress) : Progress × List Remark :=
  match progress.openLoop with
  | none => (progress, [.strayLoopEnd])
  | some loop =>
    let (timeline, complete) := loop.replay progress.timeline
    (⟨timeline, none⟩, if complete then [] else [.frameOverflow])

/-- Writes a range that holds a frame, into the open loop if there is one. -/
def write (progress : Progress) (range : FrameRange) (state : PadState) : Progress :=
  match progress.openLoop with
  | some loop => { progress with openLoop := some (loop.write range state) }
  | none => { progress with timeline := progress.timeline.write range state }

/-- Plays a resolved instruction (`emit`). Unknown buttons are remarked on even
when the instruction itself is dropped. -/
def play (progress : Progress) (cue : Cue) : Progress × List Remark :=
  let unknown := cue.unknown.map Remark.unknownButton
  match cue.range with
  | none => (progress, unknown ++ [.frameOverflow])
  | some range =>
    if range.isEmpty then
      ({ progress with openLoop := progress.openLoop.map fun loop => loop.skipTo range },
        unknown ++ [.emptyRange])
    else
      (progress.write range cue.state, unknown)

/-- Compiles one line (a turn of `compile`). -/
def step (layout : Layout) (progress : Progress) (line : List Char) :
    Progress × List Remark :=
  match Statement.ofLine line with
  | .loopStart repetitions => progress.enterLoop repetitions
  | .loopEnd => progress.leaveLoop
  | .instruction written => progress.play (written.resolve progress.base layout)
  | .ignored => (progress, if isBlank line then [] else [.ignoredLine])

/-! ## 3. Lists of lines -/

/-- Compiles lines one after the other, the first of them being line `number`. -/
def steps (layout : Layout) (progress : Progress) (number : Nat) :
    List (List Char) → Progress × List Diagnostic
  | [] => (progress, [])
  | line :: rest =>
    let (next, remarks) := progress.step layout line
    let (last, later) := next.steps layout (number + 1) rest
    (last, remarks.map (Diagnostic.mk number) ++ later)

end Progress

/-! ## 4. Scripts -/

/-- A compiled script. -/
structure Compilation where
  timeline : Timeline
  diagnostics : List Diagnostic

/-- Compiles the lines of a script. A loop that is open behind the last line is
remarked on under that line's number (`finish`). -/
def compileLines (layout : Layout) (lines : List (List Char)) : Compilation :=
  let (last, diagnostics) := Progress.start.steps layout 1 lines
  { timeline := last.timeline
    diagnostics := diagnostics ++
      if last.openLoop.isSome then [⟨lines.length, .unterminatedLoop⟩] else [] }

/-- Compiles a script (`ScriptCompiler::compile`). -/
def compile (layout : Layout) (script : String) : Compilation :=
  compileLines layout (lines script.toList)

/-- Compiles a script with the controller's own buttons (`compile`), leaving the
diagnostics aside. -/
def compileTimeline (script : String) : Timeline :=
  (compile (.standard .builtIn) script).timeline

end InputScript.Compile
