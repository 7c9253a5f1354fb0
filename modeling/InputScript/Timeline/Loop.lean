/-
Loops (`LoopBody`): a body of states at offsets, replayed behind the cursor.

While a loop is open its instructions are collected at offsets from the start
of the body. When it closes, each pass lays the body out right behind the last
frame of the pass before it, and spans the offsets from 0 to the highest one
written, gaps included.
-/
import InputScript.Timeline.Table

set_option autoImplicit false

namespace InputScript.Timeline

open InputScript.Pad

/-! ## 1. The body -/

/-- A loop whose end has not been read yet (`LoopBody`). -/
structure OpenLoop where
  repetitions : UInt64
  /-- States by offset from the start of the body. -/
  states : States
  /-- The offset from which relative lines of the body count. -/
  cursor : UInt64
  /-- The highest offset written, if there is one. -/
  highest : Option UInt64

namespace OpenLoop

/-- A loop whose body is still empty (`LoopBody::new`). -/
def start (repetitions : UInt64) : OpenLoop :=
  ⟨repetitions, ∅, 0, none⟩

/-- Writes a state on a range of offsets that holds one (`LoopBody::insert`). -/
def write (loop : OpenLoop) (range : FrameRange) (state : PadState) : OpenLoop :=
  let last := range.last
  { loop with
    states := writeRange range state loop.states
    cursor := last
    highest := some (loop.highest.elim last (max last)) }

/-- Moves the cursor to the last offset of a range that holds none (`emit` on an
empty range), and to 0 when the range stops there. -/
def skipTo (loop : OpenLoop) (range : FrameRange) : OpenLoop :=
  { loop with cursor := if range.stop = 0 then 0 else range.last }

/-! ## 2. Replay -/

/-- One pass of a body behind the cursor (a turn of `expand_into`), unless it
would pass the highest frame. -/
def pass (states : States) (highest : UInt64) (timeline : Timeline) : Option Timeline := do
  let anchor ← addCursors? timeline.lastFrame 1
  let last ← addCursors? anchor highest.toInt64
  return {
    lastFrame := last
    states := states.toList.foldl
      (fun written (offset, state) => written.insert (anchor.toUInt64 + offset) state)
      timeline.states }

/-- Up to `count` passes one after the other, and whether all of them fitted.
The first pass that does not fit ends the replay. -/
def passes (states : States) (highest : UInt64) : Nat → Timeline → Timeline × Bool
  | 0, timeline => (timeline, true)
  | count + 1, timeline =>
    match pass states highest timeline with
    | none => (timeline, false)
    | some written => passes states highest count written

/-- Closes the loop (`expand_into`): replays its body as often as it asks, and
says whether every pass fitted. A body that wrote nothing has no passes. -/
def replay (loop : OpenLoop) (timeline : Timeline) : Timeline × Bool :=
  match loop.highest with
  | none => (timeline, true)
  | some highest => passes loop.states highest loop.repetitions.toNat timeline

end OpenLoop

end InputScript.Timeline
