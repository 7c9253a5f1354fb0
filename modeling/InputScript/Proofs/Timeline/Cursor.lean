/-
Where the cursors stand.

A timeline carries its cursor (`last_frame`) beside the frames, and an open loop
carries the highest offset (`max_offset`) beside its states. Neither is ever
computed from the map it belongs to: each write moves the one and fills the
other. This file states the link between them, that the stored number is always
the greatest key of the map, and proves that writes, skips, passes and replays
keep it.

The link is what makes the unchecked sums of a pass exact: every offset is at
most the highest one, so the checked sum for the last frame of a pass bounds the
unchecked sums for all the others.
-/
import InputScript.Proofs.Timeline.Span
import InputScript.Timeline.Loop

set_option autoImplicit false

namespace InputScript.Timeline

open InputScript.Pad

/-! ## 1. The greatest key of a map -/

/-- The greatest key is a key, and no other is greater. -/
theorem States.maxKey?_eq_some_iff {states : States} {frame : UInt64} :
    states.maxKey? = some frame ↔ frame ∈ states ∧ ∀ other ∈ states, other ≤ frame := by
  simp only [Std.ExtTreeMap.maxKey?_eq_some_iff_mem_and_forall, Std.isLE_compare]

/-- With a range written the keys are its frames and the old ones. -/
theorem mem_writeRange {range : FrameRange} {state : PadState} {states : States}
    {frame : UInt64} :
    frame ∈ writeRange range state states ↔ frame.toNat ∈ range.span ∨ frame ∈ states := by
  rw [Std.ExtTreeMap.mem_iff_isSome_getElem?, getElem?_writeRange,
    Std.ExtTreeMap.mem_iff_isSome_getElem?, FrameRange.mem_span]
  by_cases h : range.start ≤ frame ∧ frame < range.stop
  · simp [h]
  · rw [if_neg h]
    simp [h]

/-- A range that holds a frame raises the greatest key to its last frame. -/
theorem maxKey?_writeRange {range : FrameRange} (h : range.isEmpty = false) (state : PadState)
    (states : States) :
    (writeRange range state states).maxKey? =
      some (states.maxKey?.elim range.last (max range.last)) := by
  have hlast := range.mem_span_last h
  have hle : ∀ frame : UInt64, frame.toNat ∈ range.span → frame ≤ range.last :=
    fun frame => range.le_last_of_mem_span h
  rw [States.maxKey?_eq_some_iff]
  cases hmax : states.maxKey? with
  -- all keys are frames of the range
  | none =>
    rw [Std.ExtTreeMap.maxKey?_eq_none_iff] at hmax
    subst hmax
    refine ⟨mem_writeRange.2 (.inl hlast), ?_⟩
    intro other hother
    rcases mem_writeRange.1 hother with hspan | hnone
    · exact hle other hspan
    · exact absurd hnone Std.ExtTreeMap.not_mem_empty
  | some greatest =>
    obtain ⟨hgreatest, hbound⟩ := States.maxKey?_eq_some_iff.1 hmax
    have hmaxNat := toNat_max range.last greatest
    simp only [Option.elim_some]
    constructor
    · -- the greater one of the two is a key, whichever it is
      rcases Nat.le_total greatest.toNat range.last.toNat with hge | hlt
      · rw [Nat.max_eq_left hge, UInt64.toNat_inj] at hmaxNat
        rw [hmaxNat]
        exact mem_writeRange.2 (.inl hlast)
      · rw [Nat.max_eq_right hlt, UInt64.toNat_inj] at hmaxNat
        rw [hmaxNat]
        exact mem_writeRange.2 (.inr hgreatest)
    · intro other hother
      rw [UInt64.le_iff_toNat_le, hmaxNat]
      rcases mem_writeRange.1 hother with hspan | hstates
      · have := UInt64.le_iff_toNat_le.1 (hle other hspan)
        omega
      · have := UInt64.le_iff_toNat_le.1 (hbound other hstates)
        omega

/-! ## 2. Anchored timelines -/

/-- The cursor stands on the greatest written frame, or on -1 as long as there
is none, and every written frame is a usable one. -/
structure Anchored (timeline : Timeline) : Prop where
  lastFrame_eq : timeline.lastFrame.toInt =
    timeline.states.maxKey?.elim (-1) fun frame => (frame.toNat : Int)
  frames_le : ∀ frame ∈ timeline.states, frame ≤ maxFrame

/-- The number of frames up to the cursor. -/
def extent (timeline : Timeline) : Nat :=
  (timeline.lastFrame.toInt + 1).toNat

theorem anchored_empty : empty.Anchored where
  lastFrame_eq := by
    rw [empty, Std.ExtTreeMap.maxKey?_empty]
    rfl
  frames_le := fun frame hframe => absurd hframe Std.ExtTreeMap.not_mem_empty

/-- A write moves the cursor on to the last frame of its range, never back. -/
theorem lastFrame_write {timeline : Timeline} {range : FrameRange} (state : PadState)
    (hrange : range.isEmpty = false) (hfits : range.span.Fits) :
    (timeline.write range state).lastFrame.toInt
      = max timeline.lastFrame.toInt range.last.toNat := by
  have hlast := range.toNat_last (by rw [FrameRange.isEmpty_eq_false_iff] at hrange; omega)
  have hstop : range.stop.toNat ≤ maxFrame.toNat + 1 := hfits.2
  have hle : range.last ≤ maxFrame := by
    rw [UInt64.le_iff_toNat_le]
    omega
  have hcast := toInt_toInt64 hle
  simp only [write, Int64.lt_iff_toInt_lt, hcast]
  split
  · rw [hcast]
    omega
  · omega

namespace Anchored

variable {timeline : Timeline} (h : timeline.Anchored)
include h

/-- The cursor stands on the last of the frames up to it. -/
theorem lastFrame_eq_extent : timeline.lastFrame.toInt = timeline.extent - 1 := by
  have hlast := h.lastFrame_eq
  rw [extent]
  cases hmax : timeline.states.maxKey? with
  | none =>
    rw [hmax, Option.elim_none] at hlast
    omega
  | some frame =>
    rw [hmax, Option.elim_some] at hlast
    omega

/-- There is one frame more than the number of the highest one. -/
theorem extent_le : timeline.extent ≤ maxFrame.toNat + 1 := by
  have hlast := h.lastFrame_eq_extent
  have hbound := timeline.lastFrame.toInt_lt
  rw [toNat_maxFrame]
  omega

/-- All written frames lie in front of the first frame behind the cursor. -/
theorem lt_extent {frame : UInt64} (hframe : frame ∈ timeline.states) :
    frame.toNat < timeline.extent := by
  have hlast := h.lastFrame_eq
  cases hmax : timeline.states.maxKey? with
  | none =>
    rw [Std.ExtTreeMap.maxKey?_eq_none_iff] at hmax
    rw [hmax] at hframe
    exact absurd hframe Std.ExtTreeMap.not_mem_empty
  | some greatest =>
    have hle := UInt64.le_iff_toNat_le.1 ((States.maxKey?_eq_some_iff.1 hmax).2 frame hframe)
    rw [hmax, Option.elim_some] at hlast
    rw [extent]
    omega

/-- Behind the cursor no frame has a state. -/
theorem stateAt_of_extent_le {frame : UInt64} (hframe : timeline.extent ≤ frame.toNat) :
    timeline.stateAt frame = none :=
  Std.ExtTreeMap.getElem?_eq_none fun hmem => absurd (h.lt_extent hmem) (Nat.not_lt.2 hframe)

/-- The word sum that moves a cursor one frame on is exact, also from -1. -/
theorem toNat_nextFrame : timeline.nextFrame.toNat = timeline.extent := by
  have hlast := h.lastFrame_eq_extent
  have hle := h.extent_le
  rw [toNat_maxFrame] at hle
  have hone : (1 : UInt64).toNat = 1 := rfl
  rw [nextFrame, UInt64.toNat_add, hone]
  rcases Nat.eq_zero_or_pos timeline.extent with hzero | hpos
  · have hminus : timeline.lastFrame = -1 := by
      rw [← Int64.toInt_inj, hlast, hzero]
      rfl
    rw [hminus, hzero]
    rfl
  · -- in front of the highest word, so the sum does not wrap around
    have hcast := toNat_toUInt64 timeline.lastFrame (by omega)
    rw [Nat.mod_eq_of_lt (by omega)]
    omega

/-- The cursor is -1 on the timelines without a frame and on no others. -/
theorem lastFrame_eq_neg_one_iff : timeline.lastFrame = -1 ↔ timeline.states = ∅ := by
  have hlast := h.lastFrame_eq
  have hminus : (-1 : Int64).toInt = -1 := rfl
  rw [← Int64.toInt_inj, hminus, hlast, ← Std.ExtTreeMap.maxKey?_eq_none_iff]
  cases timeline.states.maxKey? with
  | none => simp
  | some frame =>
    simp only [Option.elim_some, reduceCtorEq]

/-- The cursor is the last of the listed frames. -/
theorem lastFrame_eq_getLast? : timeline.lastFrame.toInt =
    (timeline.frames.map fun entry => entry.1.toNat).getLast?.elim (-1) fun frame => (frame : Int) := by
  have hkeys : timeline.states.toList.map Prod.fst = timeline.states.keys :=
    Std.ExtTreeMap.map_fst_toList_eq_keys
  have hnumbers : (timeline.frames.map fun entry => entry.1.toNat) =
      timeline.states.keys.map UInt64.toNat := by
    rw [← hkeys, List.map_map]
    rfl
  rw [h.lastFrame_eq, hnumbers, List.getLast?_map, Std.ExtTreeMap.maxKey?_eq_getLast?_keys,
    Option.elim_map]
  rfl

/-- A write of a range that holds a frame keeps the cursor on the greatest
frame. -/
theorem write {range : FrameRange} (state : PadState) (hrange : range.isEmpty = false)
    (hfits : range.span.Fits) : (timeline.write range state).Anchored where
  lastFrame_eq := by
    have hmax := maxKey?_writeRange hrange state timeline.states
    have hcursor := h.lastFrame_eq
    rw [lastFrame_write state hrange hfits, Timeline.write, hmax, Option.elim_some, hcursor]
    -- on an empty table the cursor is -1, which is below every last frame
    cases timeline.states.maxKey? with
    | none =>
      simp only [Option.elim_none]
      omega
    | some greatest =>
      simp only [Option.elim_some, toNat_max]
      omega
  frames_le := by
    intro frame hframe
    rcases mem_writeRange.1 hframe with hspan | hstates
    · have hstop : frame.toNat < range.stop.toNat := hspan.2
      have hfit : range.stop.toNat ≤ maxFrame.toNat + 1 := hfits.2
      rw [UInt64.le_iff_toNat_le]
      omega
    · exact h.frames_le frame hstates

end Anchored

/-! ## 3. Anchored loops -/

/-- The highest offset of a loop is the greatest one it has a state for, and
neither the offsets nor the loop's own cursor pass the highest frame. -/
structure OpenLoop.Anchored (loop : OpenLoop) : Prop where
  highest_eq : loop.highest = loop.states.maxKey?
  offsets_le : ∀ offset ∈ loop.states, offset ≤ maxFrame
  cursor_le : loop.cursor ≤ maxFrame

namespace OpenLoop

/-- A loop that has just been opened has no offsets, and a cursor at 0. -/
theorem anchored_start (repetitions : UInt64) : (start repetitions).Anchored where
  highest_eq := by rw [start, Std.ExtTreeMap.maxKey?_empty]
  offsets_le := fun offset hoffset => absurd hoffset Std.ExtTreeMap.not_mem_empty
  cursor_le := UInt64.le_iff_toNat_le.2 (Nat.zero_le _)

namespace Anchored

variable {loop : OpenLoop} (h : loop.Anchored)
include h

theorem highest_eq_none_iff : loop.highest = none ↔ loop.states = ∅ := by
  rw [h.highest_eq, Std.ExtTreeMap.maxKey?_eq_none_iff]

/-- The highest offset is a usable one. -/
theorem highest_le {highest : UInt64} (hhighest : loop.highest = some highest) :
    highest ≤ maxFrame := by
  rw [h.highest_eq] at hhighest
  exact h.offsets_le highest (States.maxKey?_eq_some_iff.1 hhighest).1

/-- A write of a range that holds an offset keeps the highest one in step. -/
theorem write {range : FrameRange} (state : PadState) (hrange : range.isEmpty = false)
    (hfits : range.span.Fits) : (loop.write range state).Anchored where
  highest_eq := by
    rw [OpenLoop.write, maxKey?_writeRange hrange, h.highest_eq]
  offsets_le := by
    intro offset hoffset
    rcases mem_writeRange.1 hoffset with hspan | hstates
    · have hstop : offset.toNat < range.stop.toNat := hspan.2
      have hfit : range.stop.toNat ≤ maxFrame.toNat + 1 := hfits.2
      rw [UInt64.le_iff_toNat_le]
      omega
    · exact h.offsets_le offset hstates
  cursor_le := by
    have hlast := range.toNat_last (by rw [FrameRange.isEmpty_eq_false_iff] at hrange; omega)
    have hfit : range.stop.toNat ≤ maxFrame.toNat + 1 := hfits.2
    rw [UInt64.le_iff_toNat_le]
    change range.last.toNat ≤ maxFrame.toNat
    omega

/-- A range without offsets moves nothing but the loop's own cursor. -/
theorem skipTo {range : FrameRange} (hfits : range.span.Fits) :
    (loop.skipTo range).Anchored where
  highest_eq := h.highest_eq
  offsets_le := h.offsets_le
  cursor_le := by
    have hfit : range.stop.toNat ≤ maxFrame.toNat + 1 := hfits.2
    simp only [OpenLoop.skipTo, UInt64.le_iff_toNat_le]
    split
    · -- a range that stops at 0 puts the cursor there
      exact Nat.zero_le _
    · rename_i hstop
      have hpos : range.stop.toNat ≠ 0 := fun hzero => hstop (UInt64.toNat_inj.1 hzero)
      have hlast := range.toNat_last (by omega)
      omega

end Anchored

/-! ## 4. One pass -/

/-- The states of a body laid out behind an anchor, over what was there. -/
def layOut (anchor : UInt64) (body onto : States) : States :=
  body.toList.foldl (fun written (offset, state) => written.insert (anchor + offset) state) onto

/-- A frame is an offset behind the anchor in one way only, even where the sum
wraps around. -/
theorem anchor_add_eq_iff {anchor offset frame : UInt64} :
    anchor + offset = frame ↔ offset = frame - anchor := by
  rw [← UInt64.toNat_inj, ← UInt64.toNat_inj, UInt64.toNat_add, UInt64.toNat_sub]
  have hanchor := anchor.toNat_lt
  have hoffset := offset.toNat_lt
  have hframe := frame.toNat_lt
  omega

/-- Laying pairs out behind an anchor leaves a frame alone that none of them
reaches. -/
theorem getElem?_foldl_of_notMem {anchor frame : UInt64} {pairs : List (UInt64 × PadState)}
    (h : ∀ state, (frame - anchor, state) ∉ pairs) (onto : States) :
    (pairs.foldl (fun written (offset, state) => written.insert (anchor + offset) state)
      onto)[frame]? = onto[frame]? := by
  induction pairs generalizing onto with
  | nil => rfl
  | cons pair rest ih =>
    have hpair : anchor + pair.1 ≠ frame := fun heq =>
      h pair.2 (anchor_add_eq_iff.1 heq ▸ List.mem_cons_self)
    rw [List.foldl_cons, ih fun state hmem => h state (List.mem_cons_of_mem _ hmem),
      Std.ExtTreeMap.getElem?_insert, if_neg (by simpa using hpair)]

/-- Laying pairs of different offsets out behind an anchor puts each state where
it belongs. -/
theorem getElem?_foldl_of_mem {anchor frame : UInt64} {state : PadState}
    {pairs : List (UInt64 × PadState)} (hdistinct : pairs.Pairwise fun a b => a.1 ≠ b.1)
    (h : (frame - anchor, state) ∈ pairs) (onto : States) :
    (pairs.foldl (fun written (offset, state) => written.insert (anchor + offset) state)
      onto)[frame]? = some state := by
  induction pairs generalizing onto with
  | nil => cases h
  | cons pair rest ih =>
    obtain ⟨hfirst, hrest⟩ := List.pairwise_cons.1 hdistinct
    rw [List.foldl_cons]
    rcases List.mem_cons.1 h with rfl | hmem
    · -- no later pair has this offset, so the state stays
      have hlater : ∀ other, (frame - anchor, other) ∉ rest := fun other hother =>
        hfirst _ hother rfl
      have hsum : anchor + (frame - anchor) = frame := anchor_add_eq_iff.2 rfl
      rw [getElem?_foldl_of_notMem hlater, Std.ExtTreeMap.getElem?_insert, hsum,
        if_pos Std.ReflCmp.compare_self]
    · exact ih hrest hmem _

/-- What a laid out body leaves on a frame: the state the body has at the
frame's distance from the anchor, or else what was there before. -/
theorem getElem?_layOut (anchor : UInt64) (body onto : States) (frame : UInt64) :
    (layOut anchor body onto)[frame]? = (body[frame - anchor]?).or onto[frame]? := by
  cases hbody : body[frame - anchor]? with
  | none =>
    apply getElem?_foldl_of_notMem
    intro state hmem
    rw [Std.ExtTreeMap.mem_toList_iff_getElem?_eq_some, hbody] at hmem
    cases hmem
  | some state =>
    have hdistinct : body.toList.Pairwise fun a b => a.1 ≠ b.1 :=
      Std.ExtTreeMap.distinct_keys_toList.imp fun hne heq => hne (by simp [heq])
    exact getElem?_foldl_of_mem hdistinct
      (Std.ExtTreeMap.mem_toList_iff_getElem?_eq_some.2 hbody) onto

/-- Everything a pass can do: with no room for the whole body it fails, and
otherwise it lays the body out behind the cursor and moves the cursor on by one
more than the highest offset. -/
theorem pass_cases {timeline : Timeline} (h : timeline.Anchored) {highest : UInt64}
    (hhighest : highest ≤ maxFrame) (body : States) :
    (maxFrame.toNat < timeline.extent + highest.toNat ∧ pass body highest timeline = none) ∨
      ∃ written, timeline.extent + highest.toNat ≤ maxFrame.toNat ∧
        pass body highest timeline = some written ∧
        written.lastFrame.toInt = timeline.extent + highest.toNat ∧
        ∀ frame : UInt64, written.states[frame]? =
          (body[frame - timeline.nextFrame]?).or timeline.states[frame]? := by
  have hcursor := h.lastFrame_eq_extent
  have hone : (1 : Int64).toInt = 1 := rfl
  have hword := toInt_toInt64 hhighest
  rw [pass]
  cases hanchor : addCursors? timeline.lastFrame 1 with
  | none =>
    -- the cursor is the highest one already
    left
    rw [addCursors?_eq_none_iff, hone] at hanchor
    exact ⟨by rw [toNat_maxFrame]; omega, rfl⟩
  | some anchor =>
    rw [addCursors?_eq_some_iff, hone] at hanchor
    cases hlast : addCursors? anchor highest.toInt64 with
    | none =>
      -- the body starts within the highest frame and ends behind it
      left
      have hroom := addCursors?_eq_none_iff.1 hlast
      rw [hword] at hroom
      refine ⟨by rw [toNat_maxFrame]; omega, ?_⟩
      simp only [Option.bind_eq_bind, Option.bind_some, hlast, Option.bind_none]
    | some last =>
      right
      have hlastNat := addCursors?_eq_some_iff.1 hlast
      have hbound := last.toInt_lt
      rw [hword] at hlastNat
      have hnext : anchor.toUInt64 = timeline.nextFrame := by
        have hcast := toNat_toUInt64 anchor (by omega)
        rw [← UInt64.toNat_inj, h.toNat_nextFrame]
        omega
      refine ⟨⟨last, layOut timeline.nextFrame body timeline.states⟩,
        by rw [toNat_maxFrame]; omega, ?_, ?_, ?_⟩
      · simp only [Option.bind_eq_bind, Option.bind_some, hlast, hnext]
        rfl
      · dsimp only
        omega
      · exact fun frame => getElem?_layOut timeline.nextFrame body timeline.states frame

/-- The unchecked sum of an offset is exact as long as there is room for it. -/
theorem toNat_nextFrame_add {timeline : Timeline} (h : timeline.Anchored) (offset : UInt64)
    (hroom : timeline.extent + offset.toNat ≤ maxFrame.toNat) :
    (timeline.nextFrame + offset).toNat = timeline.extent + offset.toNat := by
  rw [toNat_maxFrame] at hroom
  rw [UInt64.toNat_add, h.toNat_nextFrame, Nat.mod_eq_of_lt (by omega)]

/-- A pass keeps the cursor on the greatest frame: the one that the highest
offset of the body lands on. -/
theorem anchored_pass {timeline written : Timeline} (h : timeline.Anchored) {body : States}
    {highest : UInt64} (hgreatest : body.maxKey? = some highest) (hhighest : highest ≤ maxFrame)
    (hpass : pass body highest timeline = some written) : written.Anchored := by
  obtain ⟨hmem, hbound⟩ := States.maxKey?_eq_some_iff.1 hgreatest
  rcases pass_cases h hhighest body with ⟨-, hnone⟩ | ⟨found, hroom, hsome, hcursor, hstates⟩
  · rw [hnone] at hpass
    cases hpass
  · obtain rfl : found = written := Option.some_inj.1 (hsome.symm.trans hpass)
    have hlast := toNat_nextFrame_add h highest hroom
    -- the written frames are the old ones and the offsets moved behind the cursor
    have hkeys : ∀ frame, frame ∈ found.states ↔
        frame - timeline.nextFrame ∈ body ∨ frame ∈ timeline.states := by
      intro frame
      simp only [Std.ExtTreeMap.mem_iff_isSome_getElem?, hstates, Option.isSome_or, Bool.or_eq_true]
    have hkey : timeline.nextFrame + highest ∈ found.states := by
      rw [hkeys, ← anchor_add_eq_iff.1 rfl]
      exact .inl hmem
    have hle : ∀ other ∈ found.states, other.toNat ≤ timeline.extent + highest.toNat := by
      intro other hother
      rcases (hkeys other).1 hother with hbody | hold
      · have hoffset := UInt64.le_iff_toNat_le.1 (hbound _ hbody)
        have hsum := toNat_nextFrame_add h (other - timeline.nextFrame) (by omega)
        rw [anchor_add_eq_iff.2 rfl] at hsum
        omega
      · have := h.lt_extent hold
        omega
    have hmax : found.states.maxKey? = some (timeline.nextFrame + highest) := by
      rw [States.maxKey?_eq_some_iff]
      refine ⟨hkey, ?_⟩
      intro other hother
      rw [UInt64.le_iff_toNat_le, hlast]
      exact hle other hother
    constructor
    · rw [hcursor, hmax, Option.elim_some, hlast]
      omega
    · intro frame hframe
      have hframe' := hle frame hframe
      rw [UInt64.le_iff_toNat_le]
      omega

/-! ## 5. Replays -/

/-- Every number of passes leaves an anchored timeline, whether all of them
fitted or not. -/
theorem anchored_passes {body : States} {highest : UInt64}
    (hgreatest : body.maxKey? = some highest) (hhighest : highest ≤ maxFrame) (count : Nat)
    {timeline : Timeline} (h : timeline.Anchored) :
    (passes body highest count timeline).1.Anchored := by
  -- each pass starts over from the timeline that the one before it left
  induction count generalizing timeline with
  | zero => exact h
  | succ count ih =>
    rw [passes]
    cases hpass : pass body highest timeline with
    | none => exact h
    | some written => exact ih (anchored_pass h hgreatest hhighest hpass)

/-- Closing an anchored loop leaves the timeline anchored. -/
theorem Anchored.replay {loop : OpenLoop} (h : loop.Anchored) {timeline : Timeline}
    (htimeline : timeline.Anchored) : (loop.replay timeline).1.Anchored := by
  rw [OpenLoop.replay]
  cases hhighest : loop.highest with
  | none => exact htimeline
  | some highest =>
    exact anchored_passes (h.highest_eq ▸ hhighest) (h.highest_le hhighest) _ htimeline

end OpenLoop

end InputScript.Timeline
