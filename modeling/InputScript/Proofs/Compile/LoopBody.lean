/-
One loop from its start to its end.

Inside a loop the instructions have ranges as well, of offsets instead of frames.
They are counted from the latest line's last offset, and they are shown by the
states of the open loop (`LoopBody`). When the loop closes, these ranges say
everything about the frames that are written: how many passes fit, and which
offset a frame shows.
-/
import InputScript.Proofs.Compile.Placed
import InputScript.Proofs.Timeline.Replay

set_option autoImplicit false

namespace InputScript.Compile

open InputScript.Pad InputScript.Script InputScript.Text InputScript.Timeline

/-! ## 1. What an open loop stands for -/

/-- An open loop whose states show the given ranges of offsets, and whose cursor
stands where the latest of them ends. -/
structure Collects (loop : OpenLoop) (placed : List Placed) : Prop where
  anchored : loop.Anchored
  shows_placed : Shows loop.states placed
  toNat_cursor : loop.cursor.toNat = Placed.endOfLatest placed

theorem collects_start (repetitions : UInt64) : Collects (.start repetitions) [] :=
  ⟨OpenLoop.anchored_start repetitions, Shows.empty, rfl⟩

namespace Collects

variable {loop : OpenLoop} {placed : List Placed} (h : Collects loop placed)
include h

/-- The highest offset of the loop is the greatest one of the ranges. -/
theorem highest_eq : loop.highest.map UInt64.toNat = Placed.greatest? placed := by
  rw [h.anchored.highest_eq, h.shows_placed.greatest?_eq]

/-- A range with offsets in it becomes the latest one. -/
theorem write {range : FrameRange} (hrange : range.isEmpty = false) (hfits : range.span.Fits)
    (state : PadState) :
    Collects (loop.write range state) (placed ++ [⟨range.span, state⟩]) := by
  refine ⟨h.anchored.write state hrange hfits, h.shows_placed.writeRange hfits state, ?_⟩
  rw [Placed.endOfLatest_concat]
  exact range.toNat_last (by rw [FrameRange.isEmpty_eq_false_iff] at hrange; omega)

/-- A range without offsets still ends somewhere, and offset 0 is as far back as
it can end. -/
theorem skipTo {range : FrameRange} (hrange : range.isEmpty = true) (hfits : range.span.Fits)
    (state : PadState) : Collects (loop.skipTo range) (placed ++ [⟨range.span, state⟩]) := by
  refine ⟨h.anchored.skipTo hfits, h.shows_placed.concat_of_isEmpty hfits hrange state, ?_⟩
  rw [Placed.endOfLatest_concat, OpenLoop.skipTo]
  dsimp only
  change _ = range.stop.toNat - 1
  by_cases hstop : range.stop = 0
  · -- the range ends in front of offset 0, and the cursor stays on it
    rw [if_pos hstop, hstop]
    rfl
  · have hpos : range.stop.toNat ≠ 0 := fun hzero => hstop (UInt64.toNat_inj.1 hzero)
    rw [if_neg hstop, range.toNat_last (by omega)]

end Collects

/-! ## 2. The body of a loop -/

/-- A state inside a loop that has collected the given ranges, in front of which
the timeline was `outer`. -/
def Inside (outer : Timeline) (repetitions : UInt64) (progress : Progress)
    (placed : List Placed) : Prop :=
  ∃ loop, progress = ⟨outer, some loop⟩ ∧ loop.repetitions = repetitions ∧ Collects loop placed

/-- An instruction inside a loop adds its range of offsets, and the timeline
stays as it is. -/
theorem Inside.play {outer : Timeline} {repetitions : UInt64} {progress : Progress}
    {placed : List Placed} (h : Inside outer repetitions progress placed)
    (written : Instruction) (layout : Layout) :
    Inside outer repetitions (progress.play (written.resolve progress.base layout)).1
      (Placed.add Placed.endOfLatest layout placed written) := by
  -- inside a loop the base is the loop's cursor, whatever the timeline is
  obtain ⟨loop, rfl, hrepetitions, hcollects⟩ := h
  have hbase : (Progress.base ⟨outer, some loop⟩).toNat = Placed.endOfLatest placed :=
    hcollects.toNat_cursor
  rw [Placed.add, ← hbase, ← written.state_resolve (Progress.base ⟨outer, some loop⟩) layout]
  rcases Progress.play_cases ⟨outer, some loop⟩ written layout with
    ⟨hfits, hplay⟩ | ⟨range, hspan, hfits, ⟨hrange, hplay⟩ | ⟨hrange, hplay⟩⟩
  · rw [hplay, if_neg hfits]
    exact ⟨loop, rfl, hrepetitions, hcollects⟩
  · rw [hplay, hspan, if_pos hfits]
    exact ⟨loop.skipTo range, rfl, hrepetitions, hcollects.skipTo hrange hfits _⟩
  · rw [hplay, hspan, if_pos hfits]
    exact ⟨loop.write range _, rfl, hrepetitions, hcollects.write hrange hfits _⟩

/-- From a loop start in front of a body to the end of the body. -/
theorem inside_of_body (layout : Layout) (outer : Progress)
    {opening : List Char} {repetitions : UInt64}
    (hopening : Statement.ofLine opening = .loopStart repetitions) {body : List (List Char)}
    (hbody : ∀ line ∈ body, (Statement.ofLine line).isLoopMarker = false) :
    Inside outer.timeline repetitions (outer.run layout (opening :: body))
      (Placed.ofInstructions Placed.endOfLatest layout (instructionsOf body)) := by
  have hstart : (outer.step layout opening).1 = ⟨outer.timeline, some (.start repetitions)⟩ := by
    rw [Progress.step, hopening]
    rfl
  rw [Progress.run_cons, hstart]
  exact run_induction (Inside outer.timeline repetitions) (fun h written => h.play written layout) hbody
    ⟨_, rfl, rfl, collects_start repetitions⟩

/-! ## 3. The end of the loop -/

section

variable {loop : OpenLoop} {placed : List Placed} (h : Collects loop placed)
  (timeline : Timeline)
include h

/-- A body without offsets leaves nothing behind. -/
theorem Collects.replay_of_nothing (hnothing : Placed.greatest? placed = none) :
    loop.replay timeline = (timeline, true) := by
  have hhighest := h.highest_eq
  rw [hnothing, Option.map_eq_none_iff] at hhighest
  rw [OpenLoop.replay, hhighest]

/-- What the body shows at an offset is what its ranges place there. -/
theorem Collects.bodyAt_eq {offset : Nat} (hoffset : offset < UInt64.size) :
    OpenLoop.bodyAt loop.states offset = Placed.stateIn placed offset := by
  rw [OpenLoop.bodyAt, h.shows_placed.getElem?_eq, UInt64.toNat_ofNat_of_lt' hoffset]

/-- The replay of a body in terms of the ranges it consists of. -/
theorem Collects.replay_closed_form (htimeline : timeline.Anchored) {highest : Nat}
    (hgreatest : Placed.greatest? placed = some highest) :
    let last := timeline.lastFrame.toInt
    let passes : Int := min loop.repetitions.toNat ((maxFrame.toNat - last) / (highest + 1))
    (loop.replay timeline).1.lastFrame.toInt = last + passes * (highest + 1) ∧
      (loop.replay timeline).2 = decide (passes = loop.repetitions.toNat) ∧
      ∀ frame : UInt64, (loop.replay timeline).1.stateAt frame =
        if (frame.toNat : Int) ≤ last then timeline.stateAt frame
        else if frame.toNat ≤ last + passes * (highest + 1) then
          Placed.stateIn placed ((frame.toNat - (last + 1)).toNat % (highest + 1))
        else none := by
  intro last passes
  obtain ⟨word, hword, rfl⟩ : ∃ word, loop.highest = some word ∧ word.toNat = highest := by
    rw [← h.highest_eq, Option.map_eq_some_iff] at hgreatest
    exact hgreatest
  have hle := h.anchored.highest_le hword
  have hmax := h.anchored.highest_eq ▸ hword
  -- the closed form of the passes counts frames, the one here starts from the cursor
  obtain ⟨hextent, hcomplete, hstates⟩ :=
    OpenLoop.passes_closed_form htimeline hmax hle loop.repetitions.toNat
  have hafter := OpenLoop.anchored_passes hmax hle loop.repetitions.toNat htimeline
  have hpasses := OpenLoop.fittingPasses_eq htimeline loop.repetitions.toNat word
  have hlast := htimeline.lastFrame_eq_extent
  rw [OpenLoop.replay, hword, show passes = _ from hpasses.symm]
  generalize OpenLoop.fittingPasses loop.repetitions.toNat timeline.extent word = fitting at *
  -- the first frame behind all passes, counted from the old cursor
  have hend : (timeline.extent + fitting * OpenLoop.bodySpan word : Nat) =
      last + 1 + fitting * (word.toNat + 1) := by
    rw [show last = timeline.extent - 1 from hlast, OpenLoop.bodySpan]
    push_cast
    omega
  dsimp only
  refine ⟨?_, ?_, ?_⟩
  · rw [hafter.lastFrame_eq_extent, hextent, hend]
    omega
  · rw [hcomplete, decide_eq_decide]
    omega
  · -- three kinds of frames: old ones, those of a pass, and those behind all passes
    intro frame
    have hsize : frame.toNat < UInt64.size := frame.toNat_lt
    have hdistance : (frame.toNat - (last + 1)).toNat = frame.toNat - timeline.extent := by omega
    rw [hstates frame, hdistance]
    by_cases hold : frame.toNat < timeline.extent
    · rw [if_pos hold, if_pos (by omega)]
    · rw [if_neg hold, if_neg (by omega : ¬(frame.toNat : Int) ≤ last)]
      by_cases hnew : frame.toNat < timeline.extent + fitting * OpenLoop.bodySpan word
      · rw [if_pos hnew, if_pos (by omega)]
        exact h.bodyAt_eq (Nat.lt_of_le_of_lt (Nat.mod_le _ _) (by omega))
      · rw [if_neg hnew, if_neg (by omega)]

end

/-- A script that ends by closing a loop ends with the replay of that loop, and
its last line remarks on nothing but passes that did not fit. -/
theorem compileLines_of_loopEnd (layout : Layout) {before : List (List Char)}
    {outer : Timeline} {loop : OpenLoop}
    (hbefore : Progress.start.run layout before = ⟨outer, some loop⟩) {closing : List Char}
    (hclosing : Statement.ofLine closing = .loopEnd) :
    (compileLines layout (before ++ [closing])).timeline = (loop.replay outer).1 ∧
      (compileLines layout (before ++ [closing])).diagnostics.filter
          (fun diagnostic => diagnostic.line = before.length + 1) =
        if (loop.replay outer).2 then [] else [⟨before.length + 1, .frameOverflow⟩] := by
  have hstep : (Progress.start.run layout before).step layout closing =
      (⟨(loop.replay outer).1, none⟩,
        if (loop.replay outer).2 then [] else [.frameOverflow]) := by
    rw [hbefore, Progress.step, hclosing]
    rfl
  have hlast : Progress.start.run layout (before ++ [closing]) = ⟨(loop.replay outer).1, none⟩ := by
    rw [Progress.run_append, Progress.run_cons, Progress.run_nil, hstep]
  -- the loop is gone behind the last line, so nothing is added about an open one
  constructor
  · rw [Progress.timeline_compileLines, hlast]
  · rw [Progress.diagnostics_of_last_line, hlast, hstep]
    cases (loop.replay outer).2 <;> rfl

/-- **The closed form of a loop.** A script ends with one loop. If the body places
no offset, the timeline stays as it was in front of the loop and the loop end has
nothing to remark. Otherwise as many passes are written as the loop asks for and
as fit, each spanning the offsets up to the greatest one: frames up to the old
cursor keep their states, those behind it repeat the states of the body, and the
loop end remarks on an overflow exactly when a pass is missing. A loop that the
lines in front leave open is dropped, so nothing is asked of them. -/
theorem compile_loop_closed_form (layout : Layout) (script : String)
    (before body : List (List Char)) (opening closing : List Char) (repetitions : UInt64)
    (hlines : lines script.toList = before ++ opening :: body ++ [closing])
    (hopening : Statement.ofLine opening = .loopStart repetitions)
    (hbody : ∀ line ∈ body, (Statement.ofLine line).isLoopMarker = false)
    (hclosing : Statement.ofLine closing = .loopEnd) :
    let earlier := (compileLines layout before).timeline
    let placed := Placed.ofInstructions Placed.endOfLatest layout (instructionsOf body)
    let whole := compile layout script
    let number := (lines script.toList).length
    let atEnd := whole.diagnostics.filter fun diagnostic => diagnostic.line = number
    (Placed.greatest? placed = none → whole.timeline = earlier ∧ atEnd = []) ∧
      ∀ highest, Placed.greatest? placed = some highest →
        let last := earlier.lastFrame.toInt
        let passes : Int := min repetitions.toNat ((maxFrame.toNat - last) / (highest + 1))
        (∀ frame : UInt64, frame.toNat ≤ last →
          whole.timeline.stateAt frame = earlier.stateAt frame) ∧
        (∀ (frame : UInt64) (distance : Nat), frame.toNat = last + 1 + distance →
          distance < passes * (highest + 1) →
          whole.timeline.stateAt frame = Placed.stateIn placed (distance % (highest + 1))) ∧
        (∀ frame : UInt64, last + passes * (highest + 1) < frame.toNat →
          whole.timeline.stateAt frame = none) ∧
        whole.timeline.lastFrame.toInt = last + passes * (highest + 1) ∧
        atEnd = if passes < repetitions.toNat then [⟨number, .frameOverflow⟩] else [] := by
  intro earlier placed whole number atEnd
  have hearlier : earlier = (Progress.start.run layout before).timeline := by
    rw [← Progress.steps_fst layout Progress.start 1]
    rfl
  have hanchored : earlier.Anchored := hearlier ▸ (Progress.anchored_start.run layout before).timeline
  obtain ⟨loop, hrun, rfl, hcollects⟩ :=
    inside_of_body layout (Progress.start.run layout before) hopening hbody
  rw [← Progress.run_append, ← hearlier] at hrun
  have hnumber : number = (before ++ opening :: body).length + 1 := by
    rw [show number = (lines script.toList).length from rfl, hlines, List.length_append]
    rfl
  obtain ⟨htimeline, hatEnd⟩ := compileLines_of_loopEnd layout hrun hclosing
  rw [← hlines, ← hnumber] at hatEnd
  rw [← hlines] at htimeline
  have hwhole : whole.timeline = (loop.replay earlier).1 := htimeline
  have hend : atEnd = if (loop.replay earlier).2 then [] else [⟨number, .frameOverflow⟩] := hatEnd
  constructor
  · intro hnothing
    rw [hwhole, hend, hcollects.replay_of_nothing earlier hnothing]
    exact ⟨rfl, rfl⟩
  · intro highest hgreatest
    obtain ⟨hcursor, hcomplete, hstates⟩ :=
      hcollects.replay_closed_form earlier hanchored hgreatest
    have hquotient := OpenLoop.room_ediv_nonneg hanchored highest
    dsimp only
    have hpasses : 0 ≤ min (loop.repetitions.toNat : Int)
        ((maxFrame.toNat - earlier.lastFrame.toInt) / (highest + 1)) := by omega
    have hatMost : min (loop.repetitions.toNat : Int)
        ((maxFrame.toNat - earlier.lastFrame.toInt) / (highest + 1)) ≤ loop.repetitions.toNat := by
      omega
    generalize min (loop.repetitions.toNat : Int) _ = passes at *
    have hwritten : 0 ≤ passes * (highest + 1) := Int.mul_nonneg hpasses (by omega)
    rw [hwhole, hend, hcomplete]
    refine ⟨?_, ?_, ?_, hcursor, ?_⟩
    · -- frames up to the old cursor
      intro frame hframe
      rw [hstates frame, if_pos hframe]
    · -- frames of a pass
      intro frame distance hframe hdistance
      have hback : ((frame.toNat : Int) - (earlier.lastFrame.toInt + 1)).toNat = distance := by
        omega
      rw [hstates frame, if_neg (by omega), if_pos (by omega), hback]
    · -- frames behind all passes
      intro frame hframe
      rw [hstates frame, if_neg (by omega), if_neg (by omega)]
    · by_cases hall : passes = loop.repetitions.toNat
      · rw [if_pos (decide_eq_true hall), if_neg (by omega)]
      · rw [if_neg (by simpa using hall), if_pos (by omega)]

/-- Seven frames are left and a pass spans three of them, so two of nine passes
fit. The body ends on its lowest offset and leaves offset 1 out. -/
theorem compile_loop_until_full :
    let layout := Layout.standard .builtIn
    let script := "9223372036854775800 A\n9x\x7b\n2 B\n+0 X\n0 A\n\x7d"
    let whole := compile layout script
    lines script.toList = ["9223372036854775800 A".toList] ++
        "9x\x7b".toList :: ["2 B".toList, "+0 X".toList, "0 A".toList] ++ ["\x7d".toList] ∧
      Statement.ofLine "9x\x7b".toList = .loopStart 9 ∧
      (∀ line ∈ ["2 B".toList, "+0 X".toList, "0 A".toList],
        (Statement.ofLine line).isLoopMarker = false) ∧
      Statement.ofLine "\x7d".toList = .loopEnd ∧
      whole.timeline.lastFrame.toInt = 9223372036854775806 ∧
      (whole.timeline.stateAt 9223372036854775806).map (fun state => state.buttons.codes) =
        some [3] ∧
      whole.timeline.stateAt 9223372036854775805 = none ∧
      (whole.diagnostics.filter fun diagnostic => diagnostic.line = 6) = [⟨6, .frameOverflow⟩] := by
  intro layout script whole
  have hlines : lines script.toList = ["9223372036854775800 A".toList] ++
      "9x\x7b".toList :: ["2 B".toList, "+0 X".toList, "0 A".toList] ++ ["\x7d".toList] := by
    decide +kernel
  have hopening : Statement.ofLine "9x\x7b".toList = .loopStart 9 := by decide +kernel
  have hbody : ∀ line ∈ ["2 B".toList, "+0 X".toList, "0 A".toList],
      (Statement.ofLine line).isLoopMarker = false := by decide +kernel
  have hclosing : Statement.ofLine "\x7d".toList = .loopEnd := by decide +kernel
  obtain ⟨-, hclosed⟩ :=
    compile_loop_closed_form layout script _ _ _ _ 9 hlines hopening hbody hclosing
  obtain ⟨-, hnew, -, hcursor, hend⟩ := hclosed 2 (by decide +kernel)
  have hlast : (compileLines layout ["9223372036854775800 A".toList]).timeline.lastFrame.toInt =
      9223372036854775800 := by
    decide +kernel
  rw [hlast] at hnew hcursor hend
  refine ⟨hlines, hopening, hbody, hclosing, ?_, ?_, ?_, ?_⟩
  · rw [hcursor]
    decide +kernel
  · rw [hnew 9223372036854775806 5 (by decide +kernel) (by decide +kernel)]
    decide +kernel
  · rw [hnew 9223372036854775805 4 (by decide +kernel) (by decide +kernel)]
    decide +kernel
  · have hnumber : (lines script.toList).length = 6 := by decide +kernel
    rw [hnumber] at hend
    exact hend

end InputScript.Compile
