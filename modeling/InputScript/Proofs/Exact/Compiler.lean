/-
The compiler on unbounded integers.

Scripts are compiled here without words: frame numbers, offsets and cursors are
integers of any size, and there is one bound, the highest frame, with which numbers
are compared where a range is placed and where a pass begins. Nothing can wrap around
and nothing is cast. What a line says, and which controller state an instruction gives
its frames, does not depend on numbers of frames and is taken over as it is.
-/
import InputScript.Compile.Script

set_option autoImplicit false

namespace InputScript.Exact

open InputScript.Pad InputScript.Script InputScript.Text
open InputScript.Timeline (FrameAddress)
open InputScript.Compile (Remark Diagnostic)

/-! ## 1. Ranges -/

/-- The highest frame an instruction can be placed on. -/
def maxFrame : Int := 9223372036854775807

/-- A half-open range of frames. -/
structure Range where
  start : Int
  stop : Int

/-- The frames of the range in ascending order. -/
def Range.frames (range : Range) : List Int :=
  (List.range (range.stop - range.start).toNat).map fun (i : Nat) => range.start + i

/-- The range an address names. -/
def rangeOf (address : FrameAddress) (base : Int) : Range :=
  match address with
  | .absolute first last => ⟨first.toNat, (last.getD first).toNat + 1⟩
  | .relative distance count =>
    ⟨base + distance.toNat, base + distance.toNat + (count.getD 1).toNat⟩

/-- Places an address on the timeline, unless a bound passes the highest frame. -/
def place (address : FrameAddress) (base : Int) : Option Range :=
  let range := rangeOf address base
  if range.start ≤ maxFrame ∧ range.stop ≤ maxFrame + 1 then some range else none

/-! ## 2. Timelines -/

/-- Controller states by frame, or by offset within a loop. -/
abbrev States := Std.ExtTreeMap Int PadState

/-- Puts one state on every frame of a range, over what was there. -/
def writeRange (range : Range) (state : PadState) (states : States) : States :=
  range.frames.foldl (fun written frame => written.insert frame state) states

/-- Controller states by frame, with the cursor behind them. -/
structure Timeline where
  lastFrame : Int
  states : States

namespace Timeline

/-- The timeline on which nothing is written. -/
def empty : Timeline := ⟨-1, ∅⟩

/-- Writes a state on a range that holds a frame. The cursor never moves back. -/
def write (timeline : Timeline) (range : Range) (state : PadState) : Timeline :=
  let last := range.stop - 1
  { lastFrame := if timeline.lastFrame < last then last else timeline.lastFrame
    states := writeRange range state timeline.states }

end Timeline

/-! ## 3. Loops -/

/-- A loop whose end has not been read yet. -/
structure OpenLoop where
  repetitions : Nat
  /-- States by offset from the start of the body. -/
  states : States
  /-- The offset from which relative lines of the body count. -/
  cursor : Int
  /-- The highest offset written, if there is one. -/
  highest : Option Int

namespace OpenLoop

/-- A loop whose body is still empty. -/
def start (repetitions : Nat) : OpenLoop :=
  ⟨repetitions, ∅, 0, none⟩

/-- Writes a state on a range of offsets that holds one. -/
def write (loop : OpenLoop) (range : Range) (state : PadState) : OpenLoop :=
  let last := range.stop - 1
  { loop with
    states := writeRange range state loop.states
    cursor := last
    highest := some (loop.highest.elim last (max last)) }

/-- Moves the cursor in front of the stop of a range that holds no offset, and not
below 0. -/
def skipTo (loop : OpenLoop) (range : Range) : OpenLoop :=
  { loop with cursor := max (range.stop - 1) 0 }

/-- One pass of a body behind the cursor, unless it would pass the highest frame. -/
def pass (states : States) (highest : Int) (timeline : Timeline) : Option Timeline :=
  let anchor := timeline.lastFrame + 1
  let last := anchor + highest
  if anchor ≤ maxFrame ∧ last ≤ maxFrame then
    some
      { lastFrame := last
        states := states.toList.foldl
          (fun written (offset, state) => written.insert (anchor + offset) state)
          timeline.states }
  else none

/-- Up to `count` passes one after the other, and whether all of them fitted. -/
def passes (states : States) (highest : Int) : Nat → Timeline → Timeline × Bool
  | 0, timeline => (timeline, true)
  | count + 1, timeline =>
    match pass states highest timeline with
    | none => (timeline, false)
    | some written => passes states highest count written

/-- Closes the loop: replays its body as often as it asks. -/
def replay (loop : OpenLoop) (timeline : Timeline) : Timeline × Bool :=
  match loop.highest with
  | none => (timeline, true)
  | some highest => passes loop.states highest loop.repetitions timeline

end OpenLoop

/-! ## 4. Lines -/

/-- What has been compiled so far. -/
structure Progress where
  timeline : Timeline
  openLoop : Option OpenLoop

namespace Progress

/-- The state in front of the first line. -/
def start : Progress := ⟨.empty, none⟩

/-- Where relative frames count from. -/
def base (progress : Progress) : Int :=
  match progress.openLoop with
  | some loop => loop.cursor
  | none => progress.timeline.lastFrame + 1

/-- Opens a loop. -/
def enterLoop (progress : Progress) (repetitions : Nat) : Progress × List Remark :=
  ({ progress with openLoop := some (.start repetitions) },
    if progress.openLoop.isSome then [.nestedLoop] else [])

/-- Closes a loop. -/
def leaveLoop (progress : Progress) : Progress × List Remark :=
  match progress.openLoop with
  | none => (progress, [.strayLoopEnd])
  | some loop =>
    let (timeline, complete) := loop.replay progress.timeline
    (⟨timeline, none⟩, if complete then [] else [.frameOverflow])

/-- Writes a range that holds a frame, into the open loop if there is one. -/
def write (progress : Progress) (range : Range) (state : PadState) : Progress :=
  match progress.openLoop with
  | some loop => { progress with openLoop := some (loop.write range state) }
  | none => { progress with timeline := progress.timeline.write range state }

/-- Plays an instruction whose range, if it has a place, is given. -/
def play (progress : Progress) (placed : Option Range) (state : PadState)
    (unknown : List String) : Progress × List Remark :=
  let unknown := unknown.map Remark.unknownButton
  match placed with
  | none => (progress, unknown ++ [.frameOverflow])
  | some range =>
    if range.stop ≤ range.start then
      ({ progress with openLoop := progress.openLoop.map fun loop => loop.skipTo range },
        unknown ++ [.emptyRange])
    else
      (progress.write range state, unknown)

/-- Compiles one line. -/
def step (layout : Layout) (progress : Progress) (line : List Char) :
    Progress × List Remark :=
  match Statement.ofLine line with
  | .loopStart repetitions => progress.enterLoop repetitions.toNat
  | .loopEnd => progress.leaveLoop
  | .instruction written =>
    -- neither the state nor the unknown names depend on where frames are
    let cue := written.resolve 0 layout
    progress.play (place written.frames progress.base) cue.state cue.unknown
  | .ignored => (progress, if isBlank line then [] else [.ignoredLine])

/-- Compiles lines one after the other, the first of them being line `number`. -/
def steps (layout : Layout) (progress : Progress) (number : Nat) :
    List (List Char) → Progress × List Diagnostic
  | [] => (progress, [])
  | line :: rest =>
    let (next, remarks) := progress.step layout line
    let (last, later) := next.steps layout (number + 1) rest
    (last, remarks.map (Diagnostic.mk number) ++ later)

end Progress

/-! ## 5. Scripts -/

/-- A compiled script. -/
structure Compilation where
  timeline : Timeline
  diagnostics : List Diagnostic

/-- Compiles a script. -/
def compile (layout : Layout) (script : String) : Compilation :=
  let (last, diagnostics) := Progress.start.steps layout 1 (lines script.toList)
  { timeline := last.timeline
    diagnostics := diagnostics ++
      if last.openLoop.isSome then [⟨(lines script.toList).length, .unterminatedLoop⟩] else [] }

end InputScript.Exact
