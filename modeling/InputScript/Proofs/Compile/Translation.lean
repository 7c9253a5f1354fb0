/-
One script behind another.

A script whose lines outside loops are all relative does not say where it starts:
its first line counts from wherever the timeline ends. Behind another script it
therefore leaves the frames that it leaves by itself, all moved on by the number
of frames in front of it. The bounds are the one thing that does not move. They
decide which lines are dropped and how many passes a loop has, so the whole has to
fit; then whatever is dropped near the highest frame in one of the two runs is
dropped in the other as well, or leaves nothing there.
-/
import InputScript.Proofs.Compile.Growth
import InputScript.Proofs.Script.Spacing
import InputScript.Proofs.Timeline.Listing

set_option autoImplicit false

namespace InputScript.Timeline

open InputScript.Pad

/-! ## 1. One timeline behind another -/

/-- A timeline that is made up of a first one and, behind its last frame, a second
one. -/
structure Joins (first second whole : Timeline) : Prop where
  extent_eq : whole.extent = first.extent + second.extent
  stateAt_eq : ∀ frame : UInt64, whole.stateAt frame =
    if frame.toNat < first.extent then first.stateAt frame
    else second.stateAt (.ofNat (frame.toNat - first.extent))

/-- An empty timeline behind another one adds nothing to it. -/
theorem joins_empty {timeline : Timeline} (h : timeline.Anchored) :
    timeline.Joins .empty timeline where
  extent_eq := rfl
  stateAt_eq := by
    intro frame
    rw [stateAt_empty]
    split
    · rfl
    · exact h.stateAt_of_extent_le (by omega)

/-- A difference of two frame numbers is a word. -/
theorem toNat_ofNat_sub (frame : UInt64) (distance : Nat) :
    (UInt64.ofNat (frame.toNat - distance)).toNat = frame.toNat - distance := by
  have hsize : frame.toNat < UInt64.size := frame.toNat_lt
  exact UInt64.toNat_ofNat_of_lt' (by omega)

/-- As many passes fit further behind, if those that fit have room there. -/
theorem OpenLoop.fittingPasses_of_room {count extent distance : Nat} {highest : UInt64}
    (hroom : distance + (extent + fittingPasses count extent highest * bodySpan highest) ≤
      maxFrame.toNat + 1) :
    fittingPasses count (distance + extent) highest = fittingPasses count extent highest := by
  have hfewer : (maxFrame.toNat + 1 - (distance + extent)) / bodySpan highest ≤
      (maxFrame.toNat + 1 - extent) / bodySpan highest := Nat.div_le_div_right (by omega)
  have hfit : fittingPasses count extent highest ≤
      (maxFrame.toNat + 1 - (distance + extent)) / bodySpan highest :=
    (Nat.le_div_iff_mul_le (bodySpan_pos highest)).2 (by omega)
  unfold fittingPasses at hfit ⊢
  omega

namespace Joins

variable {first second whole : Timeline} (h : Joins first second whole)
  (hsecond : second.Anchored) (hwhole : whole.Anchored)
include h hsecond hwhole

/-- Writing the same on both, at ranges that are as far apart as the timelines. -/
theorem write {near far : FrameRange} (state : PadState) (hnear : near.isEmpty = false)
    (hfits : far.span.Fits) (hstart : far.start.toNat = first.extent + near.start.toNat)
    (hstop : far.stop.toNat = first.extent + near.stop.toNat) :
    Joins first (second.write near state) (whole.write far state) := by
  have hrange := FrameRange.isEmpty_eq_false_iff.1 hnear
  -- the far range has room, and the near one stands in front of it
  have hfarStop : far.stop.toNat ≤ maxFrame.toNat + 1 := hfits.2
  have hnearFits : near.span.Fits :=
    ⟨show near.start.toNat ≤ _ by omega, show near.stop.toNat ≤ _ by omega⟩
  have hfar : far.isEmpty = false := FrameRange.isEmpty_eq_false_iff.2 (by omega)
  constructor
  · rw [extent_write hwhole state hfar hfits, extent_write hsecond state hnear hnearFits,
      h.extent_eq]
    omega
  · intro frame
    rw [stateAt_write, stateAt_write, h.stateAt_eq frame]
    simp only [UInt64.le_iff_toNat_le, UInt64.lt_iff_toNat_lt, toNat_ofNat_sub]
    by_cases hfront : frame.toNat < first.extent
    · rw [if_pos hfront, if_pos hfront, if_neg (by omega)]
    · rw [if_neg hfront, if_neg hfront]
      by_cases hmem : near.start.toNat ≤ frame.toNat - first.extent ∧
          frame.toNat - first.extent < near.stop.toNat
      · rw [if_pos hmem, if_pos (by omega)]
      · rw [if_neg hmem, if_neg (by omega)]

/-- Closing the same loop on both. As many passes fit on the second timeline alone
as behind the first one, because all that are written have room there. -/
theorem replay {loop : OpenLoop} (hloop : loop.Anchored)
    (hroom : first.extent + (loop.replay second).1.extent ≤ maxFrame.toNat + 1) :
    Joins first (loop.replay second).1 (loop.replay whole).1 := by
  rw [OpenLoop.replay] at hroom ⊢
  rw [OpenLoop.replay]
  cases hhighest : loop.highest with
  | none => exact h
  | some highest =>
    have hmax := hloop.highest_eq ▸ hhighest
    have hle := hloop.highest_le hhighest
    rw [hhighest] at hroom
    dsimp only at hroom ⊢
    -- both replays have the same number of passes, so their closed forms can be compared
    obtain ⟨halone, -, hnear⟩ := OpenLoop.passes_closed_form hsecond hmax hle loop.repetitions.toNat
    obtain ⟨hbehind, -, hfar⟩ := OpenLoop.passes_closed_form hwhole hmax hle loop.repetitions.toNat
    rw [halone] at hroom
    rw [h.extent_eq, OpenLoop.fittingPasses_of_room hroom] at hbehind hfar
    generalize OpenLoop.fittingPasses loop.repetitions.toNat second.extent highest = fitting at *
    constructor
    · rw [hbehind, halone]
      omega
    · intro frame
      rw [hfar frame, hnear, toNat_ofNat_sub, h.stateAt_eq frame]
      by_cases hfront : frame.toNat < first.extent
      · rw [if_pos hfront, if_pos hfront, if_pos (by omega)]
      · rw [if_neg hfront, if_neg hfront, Nat.sub_sub]
        by_cases hold : frame.toNat < first.extent + second.extent
        · rw [if_pos hold, if_pos (by omega)]
        · rw [if_neg hold, if_neg (by omega : ¬frame.toNat - first.extent < second.extent)]
          by_cases hnew : frame.toNat - first.extent <
              second.extent + fitting * OpenLoop.bodySpan highest
          · rw [if_pos hnew, if_pos (by omega)]
          · rw [if_neg hnew, if_neg (by omega)]

end Joins

/-! ## 2. The frames of a joined timeline -/

/-- The frames of a joined timeline are those of the first one, and then those of
the second one moved behind them. -/
theorem Joins.movedBy_eq {first second whole : Timeline} (h : Joins first second whole)
    (hfirst : first.Anchored) (hsecond : second.Anchored) (hwhole : whole.Anchored) :
    whole.movedBy 0 = first.movedBy 0 ++ second.movedBy first.extent := by
  have hroom := hwhole.extent_le
  rw [h.extent_eq, toNat_maxFrame] at hroom
  refine Ascending.eq_of_mem_iff (whole.ascending_movedBy 0)
    (List.pairwise_append.2 ⟨first.ascending_movedBy 0, second.ascending_movedBy _, ?_⟩) ?_
  · -- everything in the first timeline stands in front of its extent
    rintro ⟨a, _⟩ ha ⟨b, _⟩ hb
    obtain ⟨frame, hstate, rfl⟩ := mem_movedBy.1 ha
    obtain ⟨other, -, rfl⟩ := mem_movedBy.1 hb
    have hlt := hfirst.lt_extent_of_stateAt hstate
    dsimp only
    omega
  · rintro ⟨number, state⟩
    rw [List.mem_append, mem_movedBy, mem_movedBy, mem_movedBy]
    constructor
    · rintro ⟨frame, hstate, rfl⟩
      rw [h.stateAt_eq frame] at hstate
      by_cases hfront : frame.toNat < first.extent
      · rw [if_pos hfront] at hstate
        exact .inl ⟨frame, hstate, rfl⟩
      · rw [if_neg hfront] at hstate
        refine .inr ⟨_, hstate, ?_⟩
        rw [toNat_ofNat_sub]
        omega
    · rintro (⟨frame, hstate, rfl⟩ | ⟨frame, hstate, rfl⟩)
      · refine ⟨frame, ?_, rfl⟩
        rw [h.stateAt_eq frame, if_pos (hfirst.lt_extent_of_stateAt hstate)]
        exact hstate
      · have hlt := hsecond.lt_extent_of_stateAt hstate
        have hword : (UInt64.ofNat (frame.toNat + first.extent)).toNat =
            frame.toNat + first.extent := UInt64.toNat_ofNat_of_lt' (by
          change _ < 18446744073709551616
          omega)
        refine ⟨.ofNat (frame.toNat + first.extent), ?_, by rw [hword]; omega⟩
        rw [h.stateAt_eq, hword, if_neg (by omega), Nat.add_sub_cancel, UInt64.ofNat_toNat]
        exact hstate

end InputScript.Timeline

namespace InputScript.Compile

open InputScript.Pad InputScript.Script InputScript.Text InputScript.Timeline

namespace Progress

/-! ## 3. Two runs side by side -/

/-- A run by itself and the same run behind a timeline: both have the same loop
open, and the one has behind that timeline what the other has. -/
structure Alongside (first : Timeline) (alone behind : Progress) : Prop where
  joins : Joins first alone.timeline behind.timeline
  openLoop : behind.openLoop = alone.openLoop
  anchored_alone : alone.Anchored
  anchored_behind : behind.Anchored

namespace Alongside

variable {first : Timeline} {alone behind : Progress} (h : Alongside first alone behind)
include h

/-- An instruction line inside a loop, or a relative one outside. -/
theorem play (written : Instruction) (layout : Layout)
    (hrelative : alone.openLoop = none →
      ∃ distance count, written.frames = .relative distance count)
    (hroom : first.extent + (alone.play (written.resolve alone.base layout)).1.timeline.extent ≤
      maxFrame.toNat + 1) :
    Alongside first (alone.play (written.resolve alone.base layout)).1
      (behind.play (written.resolve behind.base layout)).1 := by
  have hanchored := h.anchored_alone.play written layout
  have hanchored' := h.anchored_behind.play written layout
  obtain ⟨second, openLoop⟩ := alone
  obtain ⟨whole, other⟩ := behind
  have hsame : other = openLoop := h.openLoop
  subst hsame
  cases other with
  | some loop =>
    -- both count from the cursor of the same loop
    obtain ⟨next, hplay⟩ := play_inside loop (written.resolve loop.cursor layout)
    have halone := hplay second
    have hbehind := hplay whole
    refine ⟨?_, ?_, hanchored, hanchored'⟩
    · change Joins first (Progress.play _ (written.resolve loop.cursor layout)).1.timeline
        (Progress.play _ (written.resolve loop.cursor layout)).1.timeline
      rw [halone, hbehind]
      exact h.joins
    · change (Progress.play _ (written.resolve loop.cursor layout)).1.openLoop =
        (Progress.play _ (written.resolve loop.cursor layout)).1.openLoop
      rw [halone, hbehind]
  | none =>
    obtain ⟨distance, count, hframes⟩ := hrelative rfl
    have hnear : (Progress.base ⟨second, none⟩).toNat = second.extent :=
      h.anchored_alone.timeline.toNat_nextFrame
    have hfar : (Progress.base ⟨whole, none⟩).toNat = first.extent + second.extent :=
      h.anchored_behind.timeline.toNat_nextFrame.trans h.joins.extent_eq
    have halone := play_outside (show (Progress.mk second none).openLoop = none from rfl)
      written layout
    have hbehind := play_outside (show (Progress.mk whole none).openLoop = none from rfl)
      written layout
    rw [hframes, hnear] at halone
    rw [hframes, hfar] at hbehind
    dsimp only [FrameAddress.span, Span.Fits] at halone hbehind
    -- each run writes or does not, and the mixed cases cannot happen
    rcases halone with ⟨hnone, halone⟩ | ⟨near, hspan, hfits, hrange, halone⟩ <;>
      rcases hbehind with ⟨hnone', hbehind⟩ | ⟨far, hspan', hfits', hrange', hbehind⟩
    · rw [halone, hbehind]
      exact h
    · -- what has room behind the timeline has room without it
      rw [FrameRange.isEmpty_eq_false_iff] at hrange'
      rw [FrameRange.span, Span.mk.injEq] at hspan'
      dsimp only [FrameRange.span] at hfits'
      exact absurd ⟨⟨by omega, by omega⟩, by omega⟩ hnone
    · -- and what is written has room behind it, because the whole has
      rw [halone, extent_write h.anchored_alone.timeline _ hrange hfits] at hroom
      rw [FrameRange.isEmpty_eq_false_iff] at hrange
      rw [FrameRange.span, Span.mk.injEq] at hspan
      dsimp only at hroom
      exact absurd ⟨⟨by omega, by omega⟩, by omega⟩ hnone'
    · rw [halone] at hanchored ⊢
      rw [hbehind] at hanchored' ⊢
      rw [FrameRange.span, Span.mk.injEq] at hspan hspan'
      refine ⟨?_, rfl, hanchored, hanchored'⟩
      exact h.joins.write h.anchored_alone.timeline h.anchored_behind.timeline _ hrange hfits'
        (by omega) (by omega)

/-- The end of a loop, which has the same body in both runs. -/
theorem leaveLoop
    (hroom : first.extent + alone.leaveLoop.1.timeline.extent ≤ maxFrame.toNat + 1) :
    Alongside first alone.leaveLoop.1 behind.leaveLoop.1 := by
  have hanchored := h.anchored_alone.leaveLoop
  have hanchored' := h.anchored_behind.leaveLoop
  obtain ⟨second, openLoop⟩ := alone
  obtain ⟨whole, other⟩ := behind
  have hsame : other = openLoop := h.openLoop
  subst hsame
  cases other with
  | none => exact h
  | some loop =>
    have hloop := h.anchored_alone.openLoop loop rfl
    exact ⟨h.joins.replay h.anchored_alone.timeline h.anchored_behind.timeline hloop hroom, rfl,
      hanchored, hanchored'⟩

/-- One line, which is relative unless a loop is open. -/
theorem step (layout : Layout) (line : List Char)
    (hrelative : alone.openLoop = none → (Statement.ofLine line).absolute? = none)
    (hroom : first.extent + (alone.step layout line).1.timeline.extent ≤ maxFrame.toNat + 1) :
    Alongside first (alone.step layout line).1 (behind.step layout line).1 := by
  rw [Progress.step] at hroom ⊢
  rw [Progress.step]
  cases hstatement : Statement.ofLine line with
  | loopStart repetitions =>
    exact ⟨h.joins, rfl, h.anchored_alone.enterLoop repetitions,
      h.anchored_behind.enterLoop repetitions⟩
  | loopEnd =>
    rw [hstatement] at hroom
    exact h.leaveLoop hroom
  | instruction written =>
    rw [hstatement] at hroom hrelative
    refine h.play written layout (fun hopen => ?_) hroom
    -- outside loops the line is not absolute, so its distance is written
    have habsolute := hrelative hopen
    rw [Statement.absolute?] at habsolute
    cases hframes : written.frames with
    | absolute first last =>
      rw [hframes] at habsolute
      cases habsolute
    | relative distance count => exact ⟨distance, count, rfl⟩
  | ignored => exact h

/-- All lines, as long as the whole has room. -/
theorem run (layout : Layout) (lines : List (List Char))
    (hrelative : ∀ visit ∈ alone.visits layout lines,
      visit.1.openLoop = none → (Statement.ofLine visit.2).absolute? = none)
    (hroom : first.extent + (alone.run layout lines).timeline.extent ≤ maxFrame.toNat + 1) :
    Alongside first (alone.run layout lines) (behind.run layout lines) := by
  induction lines generalizing alone behind with
  | nil => exact h
  | cons line rest ih =>
    rw [run_cons] at hroom
    rw [visits, List.forall_mem_cons] at hrelative
    -- room for the whole is room for what is compiled so far
    have hgrowth := extent_le_run (h.anchored_alone.step layout line) layout rest
    exact ih (h.step layout line hrelative.1 (by omega)) hrelative.2 hroom

end Alongside

/-! ## 4. Scripts one after the other -/

/-- Closing the last line of a text with a line feed changes nothing that the lines
do. -/
theorem run_of_closes {before after : List (List Char)} (h : Closes before after) (layout : Layout)
    (progress : Progress) : progress.run layout after = progress.run layout before := by
  cases h with
  | added => rw [run_append, run_cons, run_nil]; rfl
  | kept => rfl
  | shortened front last =>
    rw [run_append, run_append, run_cons, run_cons, run_nil, run_nil, step, step,
      ofLine_concat (by decide : isWhiteSpace '\r' = true)]
    cases Statement.ofLine last <;> rfl

end Progress

/-- **One script behind another.** The first script leaves no loop open, and outside
its loops the second one, compiled by itself, has relative lines only. If the frames
of both have room one behind the other, the two scripts together leave the frames of
the first, unchanged, and behind them those of the second, each moved on by the
number of frames in front. -/
theorem compile_behind (layout : Layout) (first second : String)
    (hclosed : (Progress.start.run layout (lines first.toList)).openLoop = none)
    (hrelative : ∀ visit ∈ Progress.start.visits layout (lines second.toList),
      visit.1.openLoop = none → (Statement.ofLine visit.2).absolute? = none)
    (hroom : (compile layout first).timeline.lastFrame.toInt + 1 +
      (compile layout second).timeline.lastFrame.toInt ≤ maxFrame.toNat) :
    let earlier := (compile layout first).timeline
    let alone := (compile layout second).timeline
    let whole := (compile layout (first ++ "\n" ++ second)).timeline
    whole.movedBy 0 = earlier.movedBy 0 ++ alone.movedBy (earlier.lastFrame.toInt + 1) ∧
      whole.lastFrame.toInt = earlier.lastFrame.toInt + 1 + alone.lastFrame.toInt := by
  intro earlier alone whole
  have hearlier : earlier = _ := Progress.timeline_compileLines layout (lines first.toList)
  have halone : alone = _ := Progress.timeline_compileLines layout (lines second.toList)
  have hwhole : whole = ((Progress.start.run layout (lines first.toList)).run layout
      (lines second.toList)).timeline := by
    rw [← Progress.run_of_closes (closes_lines first.toList), ← Progress.run_append,
      ← lines_append (closed_concat_newline _)]
    refine (Progress.timeline_compileLines layout _).trans ?_
    rw [String.toList_append, String.toList_append]
    rfl
  have hreached : (Progress.start.run layout (lines first.toList)).Anchored :=
    Progress.anchored_start.run layout _
  -- behind the first script nothing of the second has been compiled yet
  have hstart : Progress.Alongside earlier .start
      (Progress.start.run layout (lines first.toList)) := by
    rw [hearlier]
    exact ⟨joins_empty hreached.timeline, hclosed, Progress.anchored_start, hreached⟩
  have hfirst : earlier.Anchored := hearlier ▸ hreached.timeline
  have hsecond : alone.Anchored := halone ▸ (Progress.anchored_start.run layout _).timeline
  have hlast := hfirst.lastFrame_eq_extent
  have hlast' := hsecond.lastFrame_eq_extent
  change earlier.lastFrame.toInt + 1 + alone.lastFrame.toInt ≤ _ at hroom
  have hboth := hstart.run layout (lines second.toList) hrelative (by rw [← halone]; omega)
  have hjoins : Joins earlier alone whole := halone ▸ hwhole ▸ hboth.joins
  have hend : whole.Anchored := hwhole ▸ hboth.anchored_behind.timeline
  have hextent := hjoins.extent_eq
  have hlast'' := hend.lastFrame_eq_extent
  constructor
  · rw [hjoins.movedBy_eq hfirst hsecond hend, hlast, Int.sub_add_cancel]
  · omega

/-- The first script ends with a carriage return. The second one has absolute lines
in its loops, a loop end without a loop, an empty range and an open loop. -/
theorem compile_behind_loops :
    let layout := Layout.standard .builtIn
    let first := "0 A\n2x\x7b\n+0 B\n\x7d\r"
    let second := "+1 X\n2x\x7b\n1 A\n0 B\n\x7d\n\x7d\n+0-0 Y\n5x\x7b\n9 B"
    let whole := (compile layout (first ++ "\n" ++ second)).timeline
    (Progress.start.run layout (lines first.toList)).openLoop.isNone ∧
      (∀ visit ∈ Progress.start.visits layout (lines second.toList),
        visit.1.openLoop = none → (Statement.ofLine visit.2).absolute? = none) ∧
      whole.lastFrame.toInt = 8 ∧
      (whole.movedBy 0).map (fun entry => (entry.1, entry.2.buttons.codes)) =
        [(0, [1]), (1, [2]), (2, [2]), (4, [3]), (5, [2]), (6, [1]), (7, [2]), (8, [1])] := by
  intro layout first second whole
  have hclosed : (Progress.start.run layout (lines first.toList)).openLoop.isNone := by
    decide +kernel
  have hrelative : ∀ visit ∈ Progress.start.visits layout (lines second.toList),
      visit.1.openLoop = none → (Statement.ofLine visit.2).absolute? = none := by
    decide +kernel
  have hlast : (compile layout first).timeline.lastFrame.toInt = 2 := by decide +kernel
  have hlast' : (compile layout second).timeline.lastFrame.toInt = 5 := by decide +kernel
  obtain ⟨hframes, hend⟩ := compile_behind layout first second (Option.isNone_iff_eq_none.1 hclosed)
    hrelative (by rw [hlast, hlast']; decide)
  refine ⟨hclosed, hrelative, ?_, ?_⟩
  · rw [hend, hlast, hlast']
    rfl
  · rw [hframes, hlast, List.map_append]
    decide +kernel

end InputScript.Compile
