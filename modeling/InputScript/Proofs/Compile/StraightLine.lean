/-
Scripts without loops.

Such a script means what its instructions say one after the other: every line has
a range, counted from behind all frames of the lines before it if it is relative,
and a frame shows the last line whose range holds it. The compiler keeps a table
and a cursor instead of the lines. The proof carries along that the table shows
the ranges of the lines read so far; where the cursor stands follows from that,
because the cursor is the greatest key of the table.
-/
import InputScript.Proofs.Compile.Placed

set_option autoImplicit false

namespace InputScript.Compile

open InputScript.Pad InputScript.Script InputScript.Text InputScript.Timeline

namespace Progress

/-! ## 1. What the state stands for -/

/-- A state outside all loops whose timeline shows the given ranges. -/
structure Follows (progress : Progress) (placed : List Placed) : Prop where
  anchored : progress.Anchored
  openLoop : progress.openLoop = none
  shows_placed : Shows progress.timeline.states placed

theorem follows_start : start.Follows [] := ⟨anchored_start, rfl, Shows.empty⟩

namespace Follows

variable {progress : Progress} {placed : List Placed} (h : progress.Follows placed)
include h

/-- The cursor stands on the greatest frame of the ranges. -/
theorem lastFrame_eq : progress.timeline.lastFrame.toInt =
    (Placed.greatest? placed).elim (-1) fun frame => (frame : Int) := by
  rw [h.anchored.timeline.lastFrame_eq, h.shows_placed.greatest?_eq]
  cases progress.timeline.states.maxKey? <;> rfl

/-- Relative frames count from behind the ranges, also when there are none. -/
theorem toNat_base : progress.base.toNat = Placed.behindAll placed := by
  have hcursor := h.lastFrame_eq
  have hextent := h.anchored.timeline.lastFrame_eq_extent
  rw [base, h.openLoop, h.anchored.timeline.toNat_nextFrame, Placed.behindAll]
  cases hgreatest : Placed.greatest? placed with
  -- no range holds a frame, so the cursor is at -1 and counting starts from 0
  | none =>
    rw [hgreatest, Option.elim_none] at hcursor
    rw [Option.elim_none]
    omega
  | some frame =>
    rw [hgreatest, Option.elim_some] at hcursor
    rw [Option.elim_some]
    omega

/-! ## 2. One instruction -/

/-- An instruction line adds its range, if there is room for it. -/
theorem play (written : Instruction) (layout : Layout) :
    (progress.play (written.resolve progress.base layout)).1.Follows
      (Placed.add Placed.behindAll layout placed written) := by
  have hanchored := h.anchored.play written layout
  rw [Placed.add, ← h.toNat_base, ← written.state_resolve progress.base layout]
  rcases play_cases progress written layout with
    ⟨hfits, hplay⟩ | ⟨range, hspan, hfits, ⟨hrange, hplay⟩ | ⟨hrange, hplay⟩⟩
  · rw [hplay, if_neg hfits]
    exact h
  · rw [hplay] at hanchored ⊢
    rw [hspan, if_pos hfits]
    -- the range is placed although it holds nothing
    refine ⟨hanchored, ?_, h.shows_placed.concat_of_isEmpty hfits hrange _⟩
    rw [h.openLoop]
    rfl
  · rw [hplay] at hanchored ⊢
    rw [hspan, if_pos hfits]
    rw [write, h.openLoop] at hanchored ⊢
    exact ⟨hanchored, rfl, h.shows_placed.writeRange hfits _⟩

end Follows

end Progress

/-! ## 3. Whole scripts -/

/-- **The last line wins.** In a script without loop markers a frame has the state
of the last instruction whose range holds it, and no state if there is none; the
cursor ends on the greatest frame of any range, or on -1. -/
theorem stateAt_compile_straight (layout : Layout) (script : String)
    (hstraight : ∀ line ∈ lines script.toList, (Statement.ofLine line).isLoopMarker = false) :
    let placed := Placed.ofInstructions Placed.behindAll layout
      (instructionsOf (lines script.toList))
    let timeline := (compile layout script).timeline
    (∀ frame : UInt64, timeline.stateAt frame = Placed.stateIn placed frame.toNat) ∧
      timeline.lastFrame.toInt = (Placed.greatest? placed).elim (-1) fun frame => (frame : Int) := by
  intro placed timeline
  -- what one instruction keeps, a script without markers keeps
  have hfollows : (Progress.start.run layout (lines script.toList)).Follows placed :=
    run_induction Progress.Follows (fun h written => h.play written layout) hstraight Progress.follows_start
  have htimeline : timeline = (Progress.start.run layout (lines script.toList)).timeline := by
    rw [← Progress.steps_fst layout Progress.start 1]
    rfl
  rw [htimeline]
  exact ⟨hfollows.shows_placed.getElem?_eq, hfollows.lastFrame_eq⟩

/-- A later line takes a frame over, and lines without room or without frames
leave nothing. -/
theorem stateAt_compile_overlapping :
    let script := "9-10 A\n2 B\n+0-2 X\n10 Y\n7-5 A\n9223372036854775808 B"
    let timeline := (compile (.standard .builtIn) script).timeline
    (∀ line ∈ lines script.toList, (Statement.ofLine line).isLoopMarker = false) ∧
      timeline.lastFrame.toInt = 12 ∧
      (timeline.stateAt 10).map (fun state => state.buttons.codes) = some [4] ∧
      timeline.stateAt 7 = none := by
  intro script timeline
  have hstraight : ∀ line ∈ lines script.toList, (Statement.ofLine line).isLoopMarker = false := by
    decide +kernel
  obtain ⟨hstates, hlast⟩ := stateAt_compile_straight (.standard .builtIn) script hstraight
  refine ⟨hstraight, ?_, ?_, ?_⟩
  · rw [hlast]
    decide +kernel
  · rw [hstates]
    decide +kernel
  · rw [hstates]
    decide +kernel

end InputScript.Compile
