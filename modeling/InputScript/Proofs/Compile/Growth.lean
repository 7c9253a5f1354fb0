/-
What further lines can change.

The timeline only grows: its cursor never moves back and no frame is ever taken
away. Almost everything that is written lands behind the cursor. Relative lines
count from there, and so does every pass of a loop, wherever the loop was opened.
Only a line that names its frames directly, outside all loops, can put a state in
front of the cursor. So if more lines are compiled and a frame shows something
else, there is such a line among them, and it names that frame.
-/
import InputScript.Proofs.Compile.Run
import InputScript.Proofs.Text.Lines
import InputScript.Proofs.Timeline.Replay

set_option autoImplicit false

namespace InputScript.Timeline

open InputScript.Pad

/-! ## 1. Timelines that only grow -/

/-- A timeline on which the cursor has not moved back and the frames up to the old
cursor are what they were. -/
structure Keeps (earlier later : Timeline) : Prop where
  extent_le : earlier.extent ≤ later.extent
  stateAt_eq : ∀ frame : UInt64, frame.toNat < earlier.extent →
    later.stateAt frame = earlier.stateAt frame

theorem Keeps.refl (timeline : Timeline) : timeline.Keeps timeline :=
  ⟨Nat.le_refl _, fun _ _ => rfl⟩

/-- A frame with a state stands in front of the first one behind the cursor. -/
theorem Anchored.lt_extent_of_stateAt {timeline : Timeline} (h : timeline.Anchored)
    {frame : UInt64} {state : PadState} (hstate : timeline.stateAt frame = some state) :
    frame.toNat < timeline.extent := by
  refine Nat.lt_of_not_le fun hle => ?_
  rw [h.stateAt_of_extent_le hle] at hstate
  cases hstate

/-- The number of frames up to the cursor grows to the stop of the range, if that is more. -/
theorem extent_write {timeline : Timeline} (h : timeline.Anchored) {range : FrameRange}
    (state : PadState) (hrange : range.isEmpty = false) (hfits : range.span.Fits) :
    (timeline.write range state).extent = max timeline.extent range.stop.toNat := by
  have hlast := @lastFrame_write timeline range state hrange hfits
  have hcursor := h.lastFrame_eq_extent
  rw [FrameRange.isEmpty_eq_false_iff] at hrange
  rw [range.toNat_last (by omega)] at hlast
  rw [extent, hlast]
  omega

/-- A write behind the cursor changes nothing in front of it. -/
theorem keeps_write {timeline : Timeline} (h : timeline.Anchored) {range : FrameRange}
    (state : PadState) (hrange : range.isEmpty = false) (hfits : range.span.Fits)
    (hbehind : timeline.extent ≤ range.start.toNat) :
    timeline.Keeps (timeline.write range state) where
  extent_le := by
    rw [extent_write h state hrange hfits]
    exact Nat.le_max_left _ _
  stateAt_eq := by
    intro frame hframe
    -- the range starts behind the cursor, the frame stands in front of it
    rw [stateAt_write, if_neg]
    rw [UInt64.le_iff_toNat_le]
    omega

/-- Every pass of a loop lands behind the cursor. -/
theorem OpenLoop.Anchored.keeps_replay {loop : OpenLoop} (h : loop.Anchored) {timeline : Timeline}
    (htimeline : timeline.Anchored) : timeline.Keeps (loop.replay timeline).1 := by
  rw [OpenLoop.replay]
  cases hhighest : loop.highest with
  | none => exact .refl timeline
  | some highest =>
    obtain ⟨hextent, -, hstates⟩ := OpenLoop.passes_closed_form htimeline
      (h.highest_eq ▸ hhighest) (h.highest_le hhighest) loop.repetitions.toNat
    refine ⟨?_, ?_⟩
    · -- behind the passes the cursor is further along by a multiple of the span
      dsimp only
      omega
    · intro frame hframe
      dsimp only
      rw [hstates frame, if_pos hframe]

end InputScript.Timeline

namespace InputScript.Script

open InputScript.Timeline

/-- The first frame and the last one, if it is written, of an instruction that
names its frames directly. -/
def Statement.absolute? : Statement → Option (UInt64 × Option UInt64)
  | .instruction written =>
    match written.frames with
    | .absolute first last => some (first, last)
    | .relative _ _ => none
  | _ => none

end InputScript.Script

namespace InputScript.Compile

open InputScript.Pad InputScript.Script InputScript.Text InputScript.Timeline

namespace Progress

/-! ## 2. One line -/

/-- A line that is compiled outside all loops and names a range directly in which
the frame lies. -/
def Overwrites (visit : Progress × List Char) (frame : UInt64) : Prop :=
  visit.1.openLoop = none ∧
    ∃ first last, (Statement.ofLine visit.2).absolute? = some (first, last) ∧
      first ≤ frame ∧ frame ≤ last.getD first

/-- What one line does to the timeline: it keeps what is in front of the cursor,
or it writes a range that it names directly. -/
theorem step_keeps_or_writes {progress : Progress} (h : progress.Anchored) (layout : Layout)
    (line : List Char) :
    progress.timeline.Keeps (progress.step layout line).1.timeline ∨
      ∃ (range : FrameRange) (state : PadState), range.isEmpty = false ∧ range.span.Fits ∧
        (progress.step layout line).1.timeline = progress.timeline.write range state ∧
        ∀ frame : UInt64, frame.toNat ∈ range.span → Overwrites (progress, line) frame := by
  rw [step]
  cases hstatement : Statement.ofLine line with
  | loopStart repetitions => exact .inl (.refl _)
  | loopEnd =>
    left
    dsimp only
    rw [leaveLoop]
    cases hopen : progress.openLoop with
    | none => exact .refl _
    | some loop => exact (h.openLoop loop hopen).keeps_replay h.timeline
  | instruction written =>
    dsimp only
    rcases play_cases progress written layout with
      ⟨-, hplay⟩ | ⟨range, hspan, hfits, ⟨-, hplay⟩ | ⟨hrange, hplay⟩⟩
    · rw [hplay]
      exact .inl (.refl _)
    · rw [hplay]
      exact .inl (.refl _)
    · rw [hplay, write]
      cases hopen : progress.openLoop with
      | some loop => exact .inl (.refl _)
      | none =>
        cases hframes : written.frames with
        | relative distance count =>
          -- outside a loop distances count from behind the cursor
          left
          refine keeps_write h.timeline _ hrange hfits ?_
          have hbase : progress.base.toNat = progress.timeline.extent := by
            rw [base, hopen, h.timeline.toNat_nextFrame]
          rw [hframes, FrameAddress.span, hbase, FrameRange.span, Span.mk.injEq] at hspan
          omega
        | absolute first last =>
          right
          refine ⟨range, _, hrange, hfits, rfl, ?_⟩
          intro frame hframe
          rw [← hspan, hframes] at hframe
          refine ⟨hopen, first, last, by rw [hstatement, Statement.absolute?, hframes], ?_, ?_⟩
          · exact UInt64.le_iff_toNat_le.2 hframe.1
          · exact UInt64.le_iff_toNat_le.2 (Nat.lt_succ_iff.1 hframe.2)
  | ignored => exact .inl (.refl _)

/-- A line that overwrites frames does not move the cursor back either. -/
theorem extent_le_step {progress : Progress} (h : progress.Anchored) (layout : Layout)
    (line : List Char) :
    progress.timeline.extent ≤ (progress.step layout line).1.timeline.extent := by
  rcases step_keeps_or_writes h layout line with hkeeps | ⟨range, state, hrange, hfits, hwrite, -⟩
  · exact hkeeps.extent_le
  · rw [hwrite, extent_write h.timeline state hrange hfits]
    exact Nat.le_max_left _ _

/-- A line leaves a frame in front of the cursor alone, or names it and gives it a state. -/
theorem stateAt_step {progress : Progress} (h : progress.Anchored) (layout : Layout)
    (line : List Char) {frame : UInt64} (hframe : frame.toNat < progress.timeline.extent) :
    (progress.step layout line).1.timeline.stateAt frame = progress.timeline.stateAt frame ∨
      ((progress.step layout line).1.timeline.stateAt frame).isSome ∧
        Overwrites (progress, line) frame := by
  -- the two things that a line can do
  rcases step_keeps_or_writes h layout line with hkeeps | ⟨range, state, -, -, hwrite, hnames⟩
  · exact .inl (hkeeps.stateAt_eq frame hframe)
  · rw [hwrite, stateAt_write]
    by_cases hmem : range.start ≤ frame ∧ frame < range.stop
    · rw [if_pos hmem]
      exact .inr ⟨rfl, hnames frame (FrameRange.mem_span.2 hmem)⟩
    · rw [if_neg hmem]
      exact .inl rfl

/-! ## 3. Further lines -/

/-- The cursor never moves back. -/
theorem extent_le_run {progress : Progress} (h : progress.Anchored) (layout : Layout)
    (lines : List (List Char)) :
    progress.timeline.extent ≤ (progress.run layout lines).timeline.extent := by
  induction lines generalizing progress with
  | nil => exact Nat.le_refl _
  | cons line rest ih =>
    rw [run_cons]
    exact Nat.le_trans (extent_le_step h layout line) (ih (h.step layout line))

/-- A frame in front of the cursor stays as it is, or one of the lines names it and
gives it a state. -/
theorem stateAt_run {progress : Progress} (h : progress.Anchored) (layout : Layout)
    (lines : List (List Char)) {frame : UInt64} (hframe : frame.toNat < progress.timeline.extent) :
    (progress.run layout lines).timeline.stateAt frame = progress.timeline.stateAt frame ∨
      ((progress.run layout lines).timeline.stateAt frame).isSome ∧
        ∃ visit ∈ progress.visits layout lines, Overwrites visit frame := by
  induction lines generalizing progress with
  | nil => exact .inl rfl
  | cons line rest ih =>
    -- the frame stays in front of the cursor, which never moves back
    have hnext := Nat.lt_of_lt_of_le hframe (extent_le_step h layout line)
    rw [run_cons, visits]
    rcases ih (h.step layout line) hnext with hsame | ⟨hsome, visit, hvisit, hover⟩
    · rw [hsame]
      -- the later lines leave the frame alone, so it is this line or none
      rcases stateAt_step h layout line hframe with hstep | ⟨hsome, hover⟩
      · exact .inl hstep
      · exact .inr ⟨hsome, _, List.mem_cons_self, hover⟩
    · exact .inr ⟨hsome, visit, List.mem_cons_of_mem _ hvisit, hover⟩

end Progress

/-! ## 4. Longer scripts -/

/-- The diagnostics of a compilation, without a last one about a loop that is
still open. -/
def Compilation.settled (compilation : Compilation) : List Diagnostic :=
  if compilation.diagnostics.getLast?.map Diagnostic.remark = some .unterminatedLoop then
    compilation.diagnostics.dropLast
  else compilation.diagnostics

/-- Nothing but the diagnostics of the single lines is left. -/
theorem settled_prefix_steps (layout : Layout) (lines : List (List Char)) :
    (compileLines layout lines).settled <+: (Progress.start.steps layout 1 lines).2 := by
  rw [Compilation.settled, Progress.diagnostics_compileLines]
  -- only the end of a script is remarked on for an open loop, so what is dropped is that
  by_cases hopen : (Progress.start.run layout lines).openLoop.isSome = true
  · rw [if_pos hopen, List.getLast?_concat, Option.map_some, if_pos rfl]
    exact ⟨[], by rw [List.append_nil, List.dropLast_concat]⟩
  · rw [if_neg hopen, List.append_nil]
    split
    · exact List.dropLast_prefix _
    · exact List.prefix_refl _

/-- **More lines keep what is compiled.** A script whose lines are all closed is
continued by any text. Every frame it has a state for has one afterwards, the
cursor does not move back, and its diagnostics come first, apart from one about a
loop that the text may still close. A frame shows something else only if the text
has a line that names this frame directly and is compiled outside all loops. -/
theorem compile_append (layout : Layout) (script continuation : String)
    (hclosed : Closed script.toList) :
    let before := compile layout script
    let after := compile layout (script ++ continuation)
    let reached := Progress.start.run layout (lines script.toList)
    (∀ frame, (before.timeline.stateAt frame).isSome → (after.timeline.stateAt frame).isSome) ∧
      before.timeline.lastFrame ≤ after.timeline.lastFrame ∧
      before.settled <+: after.diagnostics ∧
      ∀ frame state, before.timeline.stateAt frame = some state →
        after.timeline.stateAt frame ≠ some state →
        ∃ visit ∈ reached.visits layout (lines continuation.toList),
          Progress.Overwrites visit frame := by
  intro before after reached
  have hlines : lines (script ++ continuation).toList =
      lines script.toList ++ lines continuation.toList := by
    rw [String.toList_append, lines_append hclosed]
  have hbefore : before.timeline = reached.timeline := Progress.timeline_compileLines layout _
  have hafter : after.timeline = (reached.run layout (lines continuation.toList)).timeline := by
    rw [← Progress.run_append, ← hlines]
    exact Progress.timeline_compileLines layout _
  have hreached : reached.Anchored := Progress.anchored_start.run layout _
  have hend := hreached.run layout (lines continuation.toList)
  rw [hbefore, hafter]
  refine ⟨?_, ?_, ?_, ?_⟩
  · intro frame hsome
    obtain ⟨state, hstate⟩ := Option.isSome_iff_exists.1 hsome
    have hfront := hreached.timeline.lt_extent_of_stateAt hstate
    rcases Progress.stateAt_run hreached layout _ hfront with hsame | ⟨hsome', -⟩
    · rw [hsame]
      exact hsome
    · exact hsome'
  · -- cursors are compared by the number of frames in front of them
    have hle := Progress.extent_le_run hreached layout (lines continuation.toList)
    rw [Int64.le_iff_toInt_le, hreached.timeline.lastFrame_eq_extent,
      hend.timeline.lastFrame_eq_extent]
    omega
  · -- the steps of the script are the first steps of the longer one
    refine (settled_prefix_steps layout _).trans ?_
    rw [show after.diagnostics = _ from Progress.diagnostics_compileLines layout _, hlines,
      Progress.steps_snd_append, List.append_assoc]
    exact List.prefix_append _ _
  · intro frame state hstate hchanged
    have hfront := hreached.timeline.lt_extent_of_stateAt hstate
    rcases Progress.stateAt_run hreached layout _ hfront with hsame | ⟨-, hvisit⟩
    · exact absurd (hsame.trans hstate) hchanged
    · exact hvisit

/-- The loop is opened by the script and closed by the text behind it, where a line
of its own takes frame 2 over. -/
theorem compile_append_closing_loop :
    let layout := Layout.standard .builtIn
    let script := "0-3 A\n2x\x7b\n+0 B\n"
    let continuation := "\x7d\n+0 X\n2 Y"
    let before := compile layout script
    let after := compile layout (script ++ continuation)
    Closed script.toList ∧ before.settled = [] ∧
      before.diagnostics = [⟨3, .unterminatedLoop⟩] ∧ after.diagnostics = [] ∧
      before.timeline.lastFrame = 3 ∧ after.timeline.lastFrame = 6 ∧
      (before.timeline.stateAt 2).map (fun state => state.buttons.codes) = some [1] ∧
      (after.timeline.stateAt 2).map (fun state => state.buttons.codes) = some [4] ∧
      ∃ visit ∈ (Progress.start.run layout (lines script.toList)).visits layout
          (lines continuation.toList), Progress.Overwrites visit 2 := by
  intro layout script continuation before after
  have hclosed : Closed script.toList := by decide +kernel
  obtain ⟨-, -, -, hchanged⟩ := compile_append layout script continuation hclosed
  have hbefore : (before.timeline.stateAt 2).map (fun state => state.buttons.codes) = some [1] := by
    decide +kernel
  have hafter : (after.timeline.stateAt 2).map (fun state => state.buttons.codes) = some [4] := by
    decide +kernel
  refine ⟨hclosed, by decide +kernel, by decide +kernel, by decide +kernel, by decide +kernel,
    by decide +kernel, hbefore, hafter, ?_⟩
  obtain ⟨state, hstate, hcodes⟩ := Option.map_eq_some_iff.1 hbefore
  refine hchanged 2 state hstate ?_
  intro hsame
  rw [hsame, Option.map_some, hcodes] at hafter
  exact absurd hafter (by decide)

end InputScript.Compile
