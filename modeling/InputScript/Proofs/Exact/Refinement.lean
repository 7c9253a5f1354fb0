/-
Words lose nothing.

The compiler counts in 64-bit words, unsigned for frames and signed for the cursor,
and goes from the one to the other by casts. Where it checks a sum or compares with
the highest frame, so does the compiler on unbounded integers. Everywhere else it is
the invariant that keeps its words exact: the cursor stands on the greatest frame, and
the highest offset of a loop is its greatest one. So every operation commutes with
reading words as numbers, and whole scripts are compiled to the same frames with the
same diagnostics.
-/
import InputScript.Proofs.Compile.Run
import InputScript.Proofs.Exact.Compiler
import InputScript.Proofs.Timeline.Listing

set_option autoImplicit false

namespace InputScript.Timeline

open InputScript.Pad

/-! ## 1. Maps -/

/-- The same states by number instead of word. -/
def States.toExact (states : States) : Exact.States :=
  .ofList (states.toList.map fun (frame, state) => ((frame.toNat : Int), state))

namespace States

theorem natCast_toNat_inj {a b : UInt64} : (a.toNat : Int) = b.toNat ↔ a = b := by
  rw [Int.natCast_inj, UInt64.toNat_inj]

theorem mem_iff_exists_mem_toList {states : States} {frame : UInt64} :
    frame ∈ states ↔ ∃ state, (frame, state) ∈ states.toList := by
  simp only [Std.ExtTreeMap.mem_iff_isSome_getElem?, Option.isSome_iff_exists,
    Std.ExtTreeMap.mem_toList_iff_getElem?_eq_some]

/-- The keys of the exact table are the numbers of the words. -/
theorem mem_toExact {states : States} {number : Int} :
    number ∈ states.toExact ↔ ∃ frame ∈ states, (frame.toNat : Int) = number := by
  rw [toExact, Std.ExtTreeMap.mem_ofList, List.contains_iff_mem, List.map_map, List.mem_map]
  constructor
  · rintro ⟨⟨frame, state⟩, hmem, rfl⟩
    exact ⟨frame, mem_iff_exists_mem_toList.2 ⟨state, hmem⟩, rfl⟩
  · rintro ⟨frame, hmem, rfl⟩
    obtain ⟨state, hstate⟩ := mem_iff_exists_mem_toList.1 hmem
    exact ⟨⟨frame, state⟩, hstate, rfl⟩

/-- At the number of a word there is the state of the word. -/
theorem getElem?_toExact (states : States) (frame : UInt64) :
    states.toExact[(frame.toNat : Int)]? = states[frame]? := by
  cases hstate : states[frame]? with
  | none =>
    apply Std.ExtTreeMap.getElem?_eq_none
    rw [mem_toExact]
    rintro ⟨other, hmem, heq⟩
    rw [natCast_toNat_inj.1 heq, Std.ExtTreeMap.mem_iff_isSome_getElem?, hstate] at hmem
    cases hmem
  | some state =>
    have hmem := Std.ExtTreeMap.mem_toList_iff_getElem?_eq_some.2 hstate
    rw [toExact]
    refine Std.ExtTreeMap.getElem?_ofList_of_mem Std.ReflCmp.compare_self ?_
      (List.mem_map.2 ⟨⟨frame, state⟩, hmem, rfl⟩)
    -- different words have different numbers, so no entry is lost
    rw [List.pairwise_map]
    refine Std.ExtTreeMap.distinct_keys_toList.imp ?_
    intro a b hne heq
    have hsame := natCast_toNat_inj.1 (Std.LawfulEqCmp.eq_of_compare heq)
    exact hne (Std.compare_eq_iff_eq.2 hsame)

/-- A map by numbers is the given one if it has the same states at the numbers of words
and none elsewhere. -/
theorem toExact_eq {states : States} {other : Exact.States}
    (hwords : ∀ frame : UInt64, other[(frame.toNat : Int)]? = states[frame]?)
    (hothers : ∀ number ∈ other, ∃ frame : UInt64, (frame.toNat : Int) = number) :
    states.toExact = other := by
  apply Std.ExtTreeMap.ext_getElem?
  intro number
  by_cases hword : ∃ frame : UInt64, (frame.toNat : Int) = number
  · obtain ⟨frame, rfl⟩ := hword
    rw [getElem?_toExact, hwords]
  · -- neither has a state at a number that is not one of a word
    rw [Std.ExtTreeMap.getElem?_eq_none fun hmem => hword (hothers number hmem),
      Std.ExtTreeMap.getElem?_eq_none]
    rw [mem_toExact]
    rintro ⟨frame, -, heq⟩
    exact hword ⟨frame, heq⟩

theorem toExact_empty : toExact ∅ = ∅ :=
  toExact_eq (fun frame => by rw [Std.ExtTreeMap.getElem?_empty, Std.ExtTreeMap.getElem?_empty])
    fun number hmem => absurd hmem Std.ExtTreeMap.not_mem_empty

/-- A state is put at the number of its frame. -/
theorem toExact_insert (states : States) (frame : UInt64) (state : PadState) :
    toExact (states.insert frame state) = states.toExact.insert (frame.toNat : Int) state := by
  apply toExact_eq
  · intro other
    rw [Std.ExtTreeMap.getElem?_insert, Std.ExtTreeMap.getElem?_insert, getElem?_toExact]
    simp only [Std.compare_eq_iff_eq, natCast_toNat_inj]
  · -- a key of the larger table is the new one or an old one
    intro number hmem
    rcases Std.ExtTreeMap.mem_insert.1 hmem with heq | hold
    · exact ⟨frame, Std.LawfulEqCmp.eq_of_compare heq⟩
    · obtain ⟨other, -, heq⟩ := mem_toExact.1 hold
      exact ⟨other, heq⟩

/-- Numbers are in the order of their words. -/
theorem toList_toExact (states : States) :
    states.toExact.toList =
      states.toList.map fun (frame, state) => ((frame.toNat : Int), state) := by
  have hexact : Ascending states.toExact.toList :=
    Std.ExtTreeMap.ordered_keys_toList.imp fun hlt => Std.compare_eq_lt.1 hlt
  have hwords := ascending_map_toList states (fun frame => frame.toNat) fun a b hlt => by omega
  -- both lists ascend, so it is enough that they have the same members
  refine hexact.eq_of_mem_iff hwords ?_
  rintro ⟨number, state⟩
  simp only [Std.ExtTreeMap.mem_toList_iff_getElem?_eq_some, List.mem_map, Prod.exists,
    Prod.mk.injEq]
  constructor
  · intro hstate
    have hmem : number ∈ states.toExact := by
      rw [Std.ExtTreeMap.mem_iff_isSome_getElem?, hstate]
      rfl
    obtain ⟨frame, -, rfl⟩ := mem_toExact.1 hmem
    rw [getElem?_toExact] at hstate
    exact ⟨frame, state, hstate, rfl, rfl⟩
  · rintro ⟨frame, _, hstate, rfl, rfl⟩
    rw [getElem?_toExact, hstate]

end States

/-! ## 2. Ranges -/

/-- The same range by numbers. -/
def FrameRange.toExact (range : FrameRange) : Exact.Range :=
  ⟨range.start.toNat, range.stop.toNat⟩

/-- The frames of a range have the numbers of the exact range, in the same order. -/
theorem FrameRange.frames_toExact (range : FrameRange) :
    range.toExact.frames = range.frames.map fun frame => (frame.toNat : Int) := by
  have hlength : (range.toExact.stop - range.toExact.start).toNat =
      range.stop.toNat - range.start.toNat := Int.toNat_sub _ _
  rw [Exact.Range.frames, frames, hlength, List.map_map]
  refine List.map_congr_left fun i hi => ?_
  rw [Function.comp_apply, toNat_start_add (List.mem_range.1 hi)]
  rfl

theorem toExact_writeRange (range : FrameRange) (state : PadState) (states : States) :
    (writeRange range state states).toExact =
      Exact.writeRange range.toExact state states.toExact := by
  rw [writeRange, Exact.writeRange, range.frames_toExact, List.foldl_map]
  exact (List.foldl_hom _ fun written frame => (written.toExact_insert frame state).symm).symm

/-- The exact range of an address is its span. -/
theorem rangeOf_eq_span (address : FrameAddress) (base : Nat) :
    Exact.rangeOf address base = ⟨(address.span base).start, (address.span base).stop⟩ := by
  cases address with
  | absolute first last => rfl
  | relative distance count => rfl

/-- A range is placed where the exact one is, and has a place exactly when that one
has. -/
theorem toExact_place (address : FrameAddress) (base : UInt64) :
    (address.place base).map FrameRange.toExact = Exact.place address base.toNat := by
  rw [Exact.place, rangeOf_eq_span]
  cases hplace : address.place base with
  | none =>
    -- a bound that needs a 65th bit passes the highest frame as well
    have hfits := FrameAddress.place_eq_none_iff.1 hplace
    rw [Span.Fits, toNat_maxFrame] at hfits
    rw [Exact.maxFrame, if_neg (by dsimp only; omega)]
    rfl
  | some range =>
    obtain ⟨hspan, hfits⟩ := FrameAddress.place_eq_some_iff.1 hplace
    rw [Span.Fits, toNat_maxFrame] at hfits
    rw [hspan, Exact.maxFrame, if_pos (by dsimp only; omega)]
    rfl

/-- Whether a range holds no frame can be told from its numbers. -/
theorem FrameRange.isEmpty_iff_toExact (range : FrameRange) :
    range.isEmpty = true ↔ range.toExact.stop ≤ range.toExact.start := by
  rw [isEmpty, decide_eq_true_iff, UInt64.le_iff_toNat_le]
  exact Int.ofNat_le.symm

/-! ## 3. Timelines -/

/-- The same timeline by numbers. -/
def toExact (timeline : Timeline) : Exact.Timeline :=
  ⟨timeline.lastFrame.toInt, States.toExact timeline.states⟩

theorem toExact_empty : empty.toExact = .empty := by
  rw [toExact, empty, States.toExact_empty]
  rfl

/-- The last frame of a range that holds one is a word and a cursor, and both times it
is the frame in front of the stop. -/
theorem FrameRange.last_lossless {range : FrameRange} (hrange : range.isEmpty = false)
    (hfits : range.span.Fits) :
    1 ≤ range.stop.toNat ∧ range.last.toNat = range.stop.toNat - 1 ∧
      range.last.toInt64.toInt = range.last.toNat := by
  rw [isEmpty_eq_false_iff] at hrange
  have hstop : range.stop.toNat ≤ maxFrame.toNat + 1 := hfits.2
  have hlast := range.toNat_last (by omega)
  refine ⟨by omega, hlast, toInt_toInt64 ?_⟩
  rw [UInt64.le_iff_toNat_le]
  omega

/-- Outside a loop a write is exact, and so is the cursor it leaves. -/
theorem toExact_write (timeline : Timeline) {range : FrameRange} (state : PadState)
    (hrange : range.isEmpty = false) (hfits : range.span.Fits) :
    (timeline.write range state).toExact = timeline.toExact.write range.toExact state := by
  obtain ⟨hstop, hlast, hcursor⟩ := FrameRange.last_lossless hrange hfits
  have hnumber : range.last.toInt64.toInt = range.toExact.stop - 1 := by
    change _ = (range.stop.toNat : Int) - 1
    omega
  rw [toExact, write, toExact_writeRange, Exact.Timeline.write]
  simp only [Int64.lt_iff_toInt_lt, apply_ite Int64.toInt, hnumber]
  rfl

/-! ## 4. Loops -/

namespace OpenLoop

/-- The same loop by numbers. -/
def toExact (loop : OpenLoop) : Exact.OpenLoop :=
  ⟨loop.repetitions.toNat, States.toExact loop.states, loop.cursor.toNat,
    loop.highest.map fun highest => (highest.toNat : Int)⟩

/-- A loop that has just been opened is exact. -/
theorem toExact_start (repetitions : UInt64) :
    (start repetitions).toExact = .start repetitions.toNat := by
  rw [toExact, start, States.toExact_empty]
  rfl

/-- Inside a loop a write is exact, with its cursor and its highest offset. -/
theorem toExact_write (loop : OpenLoop) {range : FrameRange} (state : PadState)
    (hrange : range.isEmpty = false) (hfits : range.span.Fits) :
    (loop.write range state).toExact = loop.toExact.write range.toExact state := by
  obtain ⟨hstop, hlast, -⟩ := FrameRange.last_lossless hrange hfits
  have hnumber : (range.last.toNat : Int) = range.toExact.stop - 1 := by
    change _ = (range.stop.toNat : Int) - 1
    omega
  -- the greater one of two words is the greater one of their numbers
  have hhighest : ((loop.highest.elim range.last (max range.last)).toNat : Int) =
      (loop.toExact.highest).elim (range.toExact.stop - 1) (max (range.toExact.stop - 1)) := by
    rw [← hnumber]
    change _ = (loop.highest.map fun highest => (highest.toNat : Int)).elim _ _
    cases loop.highest with
    | none => rfl
    | some highest =>
      rw [Option.map_some, Option.elim_some, Option.elim_some, toNat_max]
      omega
  rw [toExact, write, Exact.OpenLoop.write, toExact_writeRange]
  dsimp only
  rw [Option.map_some, hhighest, hnumber]
  rfl

/-- The cursor of a loop is put where the empty range ends, and not below 0. -/
theorem toExact_skipTo (loop : OpenLoop) (range : FrameRange) :
    (loop.skipTo range).toExact = loop.toExact.skipTo range.toExact := by
  have hcursor : (((if range.stop = 0 then 0 else range.last : UInt64)).toNat : Int) =
      max (range.toExact.stop - 1) 0 := by
    change _ = max ((range.stop.toNat : Int) - 1) 0
    split
    · -- in front of 0 there is no word, and the exact cursor does not go there either
      rename_i hstop
      rw [hstop]
      rfl
    · rename_i hstop
      have hpos : range.stop.toNat ≠ 0 := fun hzero => hstop (UInt64.toNat_inj.1 hzero)
      have hlast := range.toNat_last (by omega)
      omega
  rw [toExact, skipTo, Exact.OpenLoop.skipTo]
  dsimp only
  rw [hcursor]
  rfl

/-- The unchecked steps of a pass: the anchor is a frame, and no sum with an offset
passes the highest one. -/
theorem pass_lossless {timeline : Timeline} (h : timeline.Anchored) {highest : UInt64}
    (hhighest : highest ≤ maxFrame) {anchor last : Int64}
    (hanchor : addCursors? timeline.lastFrame 1 = some anchor)
    (hlast : addCursors? anchor highest.toInt64 = some last) :
    (anchor.toUInt64.toNat : Int) = anchor.toInt ∧
      ∀ offset ≤ highest, anchor.toUInt64.toNat + offset.toNat ≤ maxFrame.toNat := by
  have hcursor := h.lastFrame_eq_extent
  have hone : (1 : Int64).toInt = 1 := rfl
  rw [addCursors?_eq_some_iff, hone] at hanchor
  rw [addCursors?_eq_some_iff, toInt_toInt64 hhighest] at hlast
  -- the last frame of the pass is a number of 63 bits, and nothing of the pass is above it
  have hbound := last.toInt_lt
  have hcast := toNat_toUInt64 anchor (by omega)
  refine ⟨hcast, ?_⟩
  intro offset hoffset
  rw [UInt64.le_iff_toNat_le] at hoffset
  rw [toNat_maxFrame]
  omega

/-- A body lands on the same frames if the words of its sums are the exact sums. -/
theorem toExact_layOut {anchor : UInt64} {number : Int} {body : States}
    (hsums : ∀ offset ∈ body, ((anchor + offset).toNat : Int) = number + offset.toNat)
    (onto : States) :
    (layOut anchor body onto).toExact = body.toExact.toList.foldl
      (fun written (offset, state) => written.insert (number + offset) state) onto.toExact := by
  have hwords : (layOut anchor body onto).toExact = body.toList.foldl
      (fun written pair => written.insert ((anchor + pair.1).toNat : Int) pair.2) onto.toExact :=
    (List.foldl_hom States.toExact fun written pair =>
      (written.toExact_insert (anchor + pair.1) pair.2).symm).symm
  -- both go through the same offsets, since the exact body is listed in the same order
  rw [hwords, States.toList_toExact, List.foldl_map]
  refine List.foldl_ext _ _ _ fun written pair hpair => ?_
  rw [hsums pair.1 (States.mem_iff_exists_mem_toList.2 ⟨pair.2, hpair⟩)]

/-- A pass is exact, and is left out exactly where the sums pass the highest frame. -/
theorem toExact_pass {timeline : Timeline} (h : timeline.Anchored) {body : States}
    {highest : UInt64} (hgreatest : body.maxKey? = some highest) (hhighest : highest ≤ maxFrame) :
    (pass body highest timeline).map Timeline.toExact =
      Exact.OpenLoop.pass body.toExact highest.toNat timeline.toExact := by
  have hone : (1 : Int64).toInt = 1 := rfl
  rw [pass, Exact.OpenLoop.pass, Exact.maxFrame]
  change _ = if timeline.lastFrame.toInt + 1 ≤ _ ∧
    timeline.lastFrame.toInt + 1 + (highest.toNat : Int) ≤ _ then _ else none
  cases hanchor : addCursors? timeline.lastFrame 1 with
  | none =>
    -- a cursor is never below -1, so the sum fails at its upper bound only
    have hcursor := h.lastFrame_eq_extent
    rw [addCursors?_eq_none_iff, hone] at hanchor
    rw [if_neg (by omega)]
    rfl
  | some anchor =>
    have hfirst := addCursors?_eq_some_iff.1 hanchor
    rw [hone] at hfirst
    dsimp only [Option.bind_eq_bind, Option.bind_some]
    cases hlast : addCursors? anchor highest.toInt64 with
    | none =>
      -- the anchor is a frame, but the highest offset has no room behind it
      have hcursor := h.lastFrame_eq_extent
      rw [addCursors?_eq_none_iff, toInt_toInt64 hhighest] at hlast
      rw [if_neg (by omega)]
      rfl
    | some last =>
      obtain ⟨hcast, hsums⟩ := pass_lossless h hhighest hanchor hlast
      rw [addCursors?_eq_some_iff, toInt_toInt64 hhighest] at hlast
      have hbound := last.toInt_lt
      have hbound' := anchor.toInt_lt
      rw [if_pos (by omega)]
      -- the check of the last frame stands for those of all the others
      have hoffsets : ∀ offset ∈ body, ((anchor.toUInt64 + offset).toNat : Int) =
          timeline.lastFrame.toInt + 1 + offset.toNat := by
        intro offset hoffset
        have hsum := hsums offset ((States.maxKey?_eq_some_iff.1 hgreatest).2 offset hoffset)
        rw [toNat_maxFrame] at hsum
        rw [UInt64.toNat_add, Nat.mod_eq_of_lt (by omega)]
        omega
      change some (Exact.Timeline.mk last.toInt (layOut anchor.toUInt64 body _).toExact) = _
      rw [toExact_layOut hoffsets, ← hlast, ← hfirst]
      rfl

/-- Every pass of a replay is exact, and the replay ends with the same pass. -/
theorem toExact_passes {body : States} {highest : UInt64}
    (hgreatest : body.maxKey? = some highest) (hhighest : highest ≤ maxFrame) (count : Nat)
    {timeline : Timeline} (h : timeline.Anchored) :
    (passes body highest count timeline).map Timeline.toExact id =
      Exact.OpenLoop.passes body.toExact highest.toNat count timeline.toExact := by
  -- each pass starts over from an anchored timeline
  induction count generalizing timeline with
  | zero => rfl
  | succ count ih =>
    have hexact := toExact_pass h hgreatest hhighest
    rw [passes, Exact.OpenLoop.passes, ← hexact]
    cases hpass : pass body highest timeline with
    | none => rfl
    | some written => exact ih (anchored_pass h hgreatest hhighest hpass)

/-- A replay is exact, with all its passes. -/
theorem toExact_replay {loop : OpenLoop} (h : loop.Anchored) {timeline : Timeline}
    (htimeline : timeline.Anchored) :
    (loop.replay timeline).map Timeline.toExact id = loop.toExact.replay timeline.toExact := by
  rw [replay, Exact.OpenLoop.replay, toExact]
  cases hhighest : loop.highest with
  | none => rfl
  | some highest =>
    exact toExact_passes (h.highest_eq ▸ hhighest) (h.highest_le hhighest) _ htimeline

end OpenLoop

end InputScript.Timeline

namespace InputScript.Compile

open InputScript.Pad InputScript.Script InputScript.Text InputScript.Timeline

namespace Progress

/-! ## 5. Lines -/

/-- The same state by numbers. -/
def toExact (progress : Progress) : Exact.Progress :=
  ⟨progress.timeline.toExact, progress.openLoop.map OpenLoop.toExact⟩

/-- The state in front of the first line is exact. -/
theorem toExact_start : start.toExact = .start := by
  rw [toExact, start, Timeline.toExact_empty]
  rfl

/-- Outside a loop the base is the frame behind the cursor, also behind the highest one
and where there is no frame yet. -/
theorem toNat_base_outside {progress : Progress} (h : progress.Anchored)
    (hopen : progress.openLoop = none) :
    (progress.base.toNat : Int) = progress.timeline.lastFrame.toInt + 1 := by
  have hcursor := h.timeline.lastFrame_eq_extent
  rw [base, hopen]
  dsimp only
  rw [h.timeline.toNat_nextFrame]
  omega

/-- Relative frames count from the same number, inside a loop and outside. -/
theorem toExact_base {progress : Progress} (h : progress.Anchored) :
    progress.toExact.base = progress.base.toNat := by
  cases hopen : progress.openLoop with
  | none =>
    rw [toNat_base_outside h hopen, Exact.Progress.base, toExact, hopen]
    rfl
  | some loop =>
    rw [Exact.Progress.base, toExact, base, hopen]
    rfl

/-- A write is exact wherever it goes. -/
theorem toExact_write (progress : Progress) {range : FrameRange} (state : PadState)
    (hrange : range.isEmpty = false) (hfits : range.span.Fits) :
    (progress.write range state).toExact = progress.toExact.write range.toExact state := by
  obtain ⟨timeline, openLoop⟩ := progress
  cases openLoop with
  | none => exact congrArg (Exact.Progress.mk · none) (timeline.toExact_write state hrange hfits)
  | some loop =>
    have hloop := loop.toExact_write state hrange hfits
    exact congrArg (Exact.Progress.mk timeline.toExact <| some ·) hloop

/-- A range without offsets moves the cursor of an open loop, and nothing outside. -/
theorem toExact_skip (progress : Progress) (range : FrameRange) :
    ({ progress with openLoop := progress.openLoop.map fun loop => loop.skipTo range } :
        Progress).toExact =
      { progress.toExact with
        openLoop := progress.toExact.openLoop.map fun loop => loop.skipTo range.toExact } := by
  obtain ⟨timeline, openLoop⟩ := progress
  cases openLoop with
  | none => rfl
  | some loop =>
    exact congrArg (Exact.Progress.mk timeline.toExact <| some ·) (loop.toExact_skipTo range)

/-- Opening a loop is exact, and remarks on the same. -/
theorem toExact_enterLoop (progress : Progress) (repetitions : UInt64) :
    (progress.enterLoop repetitions).map toExact id =
      progress.toExact.enterLoop repetitions.toNat := by
  rw [enterLoop, Exact.Progress.enterLoop, ← OpenLoop.toExact_start]
  refine Prod.ext rfl ?_
  rw [toExact, Option.isSome_map]
  rfl

/-- An instruction line is exact, and remarks on the same. -/
theorem toExact_play {progress : Progress} (h : progress.Anchored) (written : Instruction)
    (layout : Layout) :
    (progress.play (written.resolve progress.base layout)).map toExact id =
      progress.toExact.play (Exact.place written.frames progress.toExact.base)
        (written.resolve 0 layout).state (written.resolve 0 layout).unknown := by
  -- of a cue only the range depends on the base
  have hcue : (written.resolve progress.base layout).range = written.frames.place progress.base :=
    rfl
  rw [toExact_base h, ← toExact_place, play, hcue]
  cases hplace : written.frames.place progress.base with
  | none => rfl
  | some range =>
    obtain ⟨-, hfits⟩ := FrameAddress.place_eq_some_iff.1 hplace
    rw [Option.map_some, Exact.Progress.play]
    dsimp only
    by_cases hempty : range.isEmpty = true
    · rw [if_pos hempty, if_pos (range.isEmpty_iff_toExact.1 hempty)]
      refine Prod.ext ?_ rfl
      exact toExact_skip progress range
    · rw [if_neg hempty, if_neg (mt range.isEmpty_iff_toExact.2 hempty)]
      refine Prod.ext ?_ rfl
      exact toExact_write progress _ (Bool.eq_false_iff.2 hempty) hfits

/-- A loop end is exact, and remarks on the same. -/
theorem toExact_leaveLoop {progress : Progress} (h : progress.Anchored) :
    progress.leaveLoop.map toExact id = progress.toExact.leaveLoop := by
  obtain ⟨timeline, openLoop⟩ := progress
  cases openLoop with
  | none => rfl
  | some loop =>
    have hreplay := OpenLoop.toExact_replay (h.openLoop loop rfl) h.timeline
    change _ = (Exact.Progress.mk timeline.toExact (some loop.toExact)).leaveLoop
    rw [Exact.Progress.leaveLoop]
    dsimp only
    rw [← hreplay]
    rfl

/-- Every kind of line is exact, and remarks on the same. -/
theorem toExact_step {progress : Progress} (h : progress.Anchored) (layout : Layout)
    (line : List Char) :
    (progress.step layout line).map toExact id = progress.toExact.step layout line := by
  rw [step, Exact.Progress.step]
  cases Statement.ofLine line with
  | loopStart repetitions => exact toExact_enterLoop progress repetitions
  | loopEnd => exact toExact_leaveLoop h
  | instruction written => exact toExact_play h written layout
  | ignored => rfl

/-- The induction is on the lines; each of them starts from an anchored state. -/
theorem toExact_steps {progress : Progress} (h : progress.Anchored) (layout : Layout)
    (number : Nat) (lines : List (List Char)) :
    (progress.steps layout number lines).map toExact id =
      progress.toExact.steps layout number lines := by
  induction lines generalizing progress number with
  | nil => rfl
  | cons line rest ih =>
    rw [steps, Exact.Progress.steps, ← toExact_step h layout line]
    have hrest := ih (h.step layout line) (number + 1)
    dsimp only [Prod.map]
    rw [← hrest]
    rfl

end Progress

/-! ## 6. Unchecked steps -/

namespace Progress

/-- Between two lines: no unchecked step that the next line can take wraps around, and
no cast changes a number. -/
structure Lossless (progress : Progress) : Prop where
  /-- Outside a loop the word sum of the base is exact, and at most 2⁶³. -/
  base_eq : progress.openLoop = none →
    (progress.base.toNat : Int) = progress.timeline.lastFrame.toInt + 1 ∧
      0 ≤ progress.timeline.lastFrame.toInt + 1 ∧
      progress.timeline.lastFrame.toInt + 1 ≤ 9223372036854775808
  /-- The last frame of a range that is written is exact, and so is its cast. -/
  last_eq : ∀ (address : FrameAddress) (range : FrameRange),
    address.place progress.base = some range → range.isEmpty = false →
      1 ≤ range.stop.toNat ∧ range.last.toNat = range.stop.toNat - 1 ∧
        range.last.toInt64.toInt = range.last.toNat
  /-- The highest offset of a loop keeps its number. -/
  highest_eq : ∀ loop highest, progress.openLoop = some loop → loop.highest = some highest →
    highest.toInt64.toInt = highest.toNat
  /-- The anchor of each pass keeps its number, and the sums with all offsets are usable
  frames. -/
  anchor_eq : ∀ loop highest, progress.openLoop = some loop → loop.highest = some highest →
    ∀ (turns : Nat) (anchor last : Int64),
      addCursors? (OpenLoop.passes loop.states highest turns progress.timeline).1.lastFrame 1 =
          some anchor →
        addCursors? anchor highest.toInt64 = some last →
          (anchor.toUInt64.toNat : Int) = anchor.toInt ∧
            ∀ offset ∈ loop.states, anchor.toUInt64.toNat + offset.toNat ≤ maxFrame.toNat

/-- It is the invariant that keeps the unchecked steps exact. -/
theorem Anchored.lossless {progress : Progress} (h : progress.Anchored) : progress.Lossless where
  base_eq := by
    intro hopen
    have hcursor := h.timeline.lastFrame_eq_extent
    have hextent := h.timeline.extent_le
    rw [toNat_maxFrame] at hextent
    exact ⟨toNat_base_outside h hopen, by omega, by omega⟩
  last_eq := by
    intro address range hplace hrange
    exact FrameRange.last_lossless hrange (FrameAddress.place_eq_some_iff.1 hplace).2
  highest_eq := by
    intro loop highest hopen hhighest
    exact toInt_toInt64 ((h.openLoop loop hopen).highest_le hhighest)
  anchor_eq := by
    intro loop highest hopen hhighest turns anchor last hanchor hlast
    have hloop := h.openLoop loop hopen
    have hgreatest := hloop.highest_eq ▸ hhighest
    have hle := hloop.highest_le hhighest
    have hpasses := OpenLoop.anchored_passes hgreatest hle turns h.timeline
    obtain ⟨hcast, hsums⟩ := OpenLoop.pass_lossless hpasses hle hanchor hlast
    refine ⟨hcast, fun offset hoffset => hsums offset ?_⟩
    -- no offset of the body is above the highest one, for which the sum was checked
    exact (States.maxKey?_eq_some_iff.1 hgreatest).2 offset hoffset

end Progress

/-! ## 7. Scripts -/

/-- The same compilation by numbers. -/
def Compilation.toExact (compilation : Compilation) : Exact.Compilation :=
  ⟨compilation.timeline.toExact, compilation.diagnostics⟩

/-- A script is compiled to the same frames and diagnostics by number. -/
theorem toExact_compile (layout : Layout) (script : String) :
    (compile layout script).toExact = Exact.compile layout script := by
  have hsteps := Progress.toExact_steps Progress.anchored_start layout 1 (lines script.toList)
  rw [Progress.toExact_start] at hsteps
  rw [compile, compileLines, Exact.compile, ← hsteps]
  dsimp only [Compilation.toExact, Prod.map]
  rw [Progress.toExact, Option.isSome_map]
  rfl

/-- **Exact arithmetic.** A script is compiled to the same frames and diagnostics as on
unbounded integers with one bound, the highest frame. In front of every line and behind
the last one no unchecked step wraps around and no cast changes a number. -/
theorem compile_exact (layout : Layout) (script : String) :
    (compile layout script).toExact = Exact.compile layout script ∧
      ∀ count : Nat, (Progress.start.run layout ((lines script.toList).take count)).Lossless :=
  ⟨toExact_compile layout script, fun _ => (Progress.anchored_start.run layout _).lossless⟩

/-- Behind frame 2⁶³ - 2 there is room for one pass, and behind that one for nothing. -/
example :
    let compiled := Exact.compile (.standard .builtIn)
      "9223372036854775806 A\n2x\x7b\n+0 B\n\x7d\n+0 X"
    compiled.timeline.lastFrame = Exact.maxFrame ∧
      compiled.diagnostics = [⟨4, .frameOverflow⟩, ⟨5, .frameOverflow⟩] := by
  decide +kernel

end InputScript.Compile
