/-
The timeline: which controller state each frame has (`FrameTable`).

Frames that no line has touched are absent. The cursor is the last frame that
was ever written, and -1 while there is none; it is signed, and steps that
could leave the signed range are checked.
-/
import InputScript.Pad.State
import InputScript.Timeline.Placement
import Std.Data.ExtTreeMap

set_option autoImplicit false

namespace InputScript

open InputScript.Pad

namespace Timeline

/-! ## 1. States by frame -/

/-- Controller states by frame, or by offset within a loop. -/
abbrev States := Std.ExtTreeMap UInt64 PadState

/-- Puts one state on every frame of a range, over what was there. -/
def writeRange (range : FrameRange) (state : PadState) (states : States) : States :=
  range.frames.foldl (fun written frame => written.insert frame state) states

/-- Writing a range gives its frames the state and leaves the others alone. -/
theorem getElem?_writeRange {range : FrameRange} {state : PadState} {states : States}
    {frame : UInt64} :
    (writeRange range state states)[frame]? =
      if range.start ≤ frame ∧ frame < range.stop then some state else states[frame]? := by
  have key : ∀ (frames : List UInt64) (states : States),
      (frames.foldl (fun written frame => written.insert frame state) states)[frame]? =
        if frame ∈ frames then some state else states[frame]? := by
    intro frames
    induction frames with
    | nil => simp
    | cons first rest ih =>
      intro states
      rw [List.foldl_cons, ih, Std.ExtTreeMap.getElem?_insert]
      by_cases hrest : frame ∈ rest
      · simp [hrest]
      · by_cases hfirst : first = frame
        · simp [hfirst]
        · simp [hrest, hfirst, Ne.symm hfirst]
  rw [writeRange, key]
  simp only [FrameRange.mem_frames]

/-- The last frame of a range that holds one. -/
def FrameRange.last (range : FrameRange) : UInt64 :=
  range.stop - 1

/-! ## 2. The signed cursor -/

/-- The sum of two signed words (`checked_add`), unless it leaves their range.
-/
def addCursors? (a b : Int64) : Option Int64 :=
  let sum := a.toInt + b.toInt
  if Int64.minValue.toInt ≤ sum ∧ sum ≤ Int64.maxValue.toInt then some (a + b) else none

end Timeline

/-! ## 3. Timelines -/

/-- Controller states by frame (`FrameTable`), with the cursor behind them. -/
structure Timeline where
  lastFrame : Int64
  states : Timeline.States

namespace Timeline

/-- The timeline on which nothing is written (`FrameTable::new`). -/
def empty : Timeline := ⟨-1, ∅⟩

/-- The state of a frame (`frame_at`), if any line has touched it. -/
def stateAt (timeline : Timeline) (frame : UInt64) : Option PadState :=
  timeline.states[frame]?

/-- All written frames in ascending order (`iter`). -/
def frames (timeline : Timeline) : List (UInt64 × PadState) :=
  timeline.states.toList

/-- The number of written frames (`len`). -/
def size (timeline : Timeline) : Nat :=
  timeline.states.size

/-- The first frame behind the cursor (`offset_base` outside a loop), from which
relative frames count. The word sum turns the cursor -1 of an empty timeline
into frame 0. -/
def nextFrame (timeline : Timeline) : UInt64 :=
  timeline.lastFrame.toUInt64 + 1

/-- Writes a state on a range that holds a frame (the last branch of `emit`).
The cursor never moves back. -/
def write (timeline : Timeline) (range : FrameRange) (state : PadState) : Timeline :=
  let last := range.last.toInt64
  { lastFrame := if timeline.lastFrame < last then last else timeline.lastFrame
    states := writeRange range state timeline.states }

/-- A write changes the frames of its range and no others. -/
theorem stateAt_write {timeline : Timeline} {range : FrameRange} {state : PadState}
    {frame : UInt64} :
    (timeline.write range state).stateAt frame =
      if range.start ≤ frame ∧ frame < range.stop then some state
      else timeline.stateAt frame :=
  getElem?_writeRange

/-- The empty timeline has no frames. -/
@[simp]
theorem stateAt_empty (frame : UInt64) : empty.stateAt frame = none := by
  simp [stateAt, empty]

end Timeline

end InputScript
