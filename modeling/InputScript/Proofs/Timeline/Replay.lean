/-
The closed form of a replay.

A replay (`expand_into`) repeats one pass and looks at the cursor anew before
each. Every pass that fits moves the cursor by the same distance, the span of the
body, so the number of passes that fit is a quotient of the room behind the
cursor, and what a frame shows afterwards is found by a remainder. Frames are
counted from the first one behind the cursor; `extent` is its number.
-/
import InputScript.Proofs.Timeline.Cursor

set_option autoImplicit false

namespace InputScript.Timeline.OpenLoop

open InputScript.Pad InputScript.Timeline

/-! ## 1. The first pass -/

section

variable {timeline : Timeline} (h : timeline.Anchored) {body : States} {highest : UInt64}
  (hgreatest : body.maxKey? = some highest) (hhighest : highest ≤ maxFrame)

/-- The number of frames one pass spans: the offsets up to the highest one. -/
def bodySpan (highest : UInt64) : Nat :=
  highest.toNat + 1

theorem bodySpan_pos (highest : UInt64) : 0 < bodySpan highest := Nat.succ_pos _

/-- The state of an offset that is not given as a word. -/
def bodyAt (body : States) (offset : Nat) : Option PadState :=
  body[UInt64.ofNat offset]?

include h hhighest in
/-- There is room for a pass exactly when the room behind the cursor holds the
span of the body. -/
theorem pass_eq_none_iff :
    pass body highest timeline = none ↔
      maxFrame.toNat + 1 - timeline.extent < bodySpan highest := by
  have hextent := h.extent_le
  rw [bodySpan]
  rcases pass_cases h hhighest body with ⟨hroom, hnone⟩ | ⟨written, hroom, hsome, -, -⟩
  · rw [hnone]
    exact ⟨fun _ => by omega, fun _ => rfl⟩
  · rw [hsome]
    exact ⟨fun hnone => (nomatch hnone), fun hfull => absurd hfull (by omega)⟩

include h hgreatest hhighest in
/-- A pass moves the cursor by the span of the body, leaves the frames up to the
cursor alone and puts the body behind them. -/
theorem stateAt_of_pass {written : Timeline} (hpass : pass body highest timeline = some written) :
    written.extent = timeline.extent + bodySpan highest ∧
      ∀ frame : UInt64, written.stateAt frame =
        if frame.toNat < timeline.extent then timeline.stateAt frame
        else bodyAt body (frame.toNat - timeline.extent) := by
  obtain ⟨hmem, hbound⟩ := States.maxKey?_eq_some_iff.1 hgreatest
  rcases pass_cases h hhighest body with ⟨-, hnone⟩ | ⟨found, hroom, hsome, hcursor, hstates⟩
  · rw [hnone] at hpass
    cases hpass
  obtain rfl : found = written := Option.some_inj.1 (hsome.symm.trans hpass)
  refine ⟨by rw [extent, hcursor, bodySpan]; omega, ?_⟩
  intro frame
  rw [stateAt, hstates frame]
  by_cases hold : frame.toNat < timeline.extent
  · -- no offset of the body reaches back in front of the cursor
    have hnone : body[frame - timeline.nextFrame]? = none := by
      apply Std.ExtTreeMap.getElem?_eq_none
      intro hkey
      have hle := UInt64.le_iff_toNat_le.1 (hbound _ hkey)
      have hsum := toNat_nextFrame_add h (frame - timeline.nextFrame) (by omega)
      rw [anchor_add_eq_iff.2 rfl] at hsum
      omega
    rw [if_pos hold, hnone, Option.none_or]
    rfl
  · -- and no frame behind the cursor had a state before
    have hnone : timeline.states[frame]? = none := h.stateAt_of_extent_le (Nat.not_lt.1 hold)
    -- the distance to the cursor is a word, so it can be taken either way
    have hoffset : frame - timeline.nextFrame = UInt64.ofNat (frame.toNat - timeline.extent) := by
      have hsize : frame.toNat < UInt64.size := frame.toNat_lt
      have hle : timeline.nextFrame ≤ frame := by
        rw [UInt64.le_iff_toNat_le, h.toNat_nextFrame]
        omega
      rw [← UInt64.toNat_inj, UInt64.toNat_sub_of_le _ _ hle, h.toNat_nextFrame,
        UInt64.toNat_ofNat_of_lt' (by omega)]
    rw [if_neg hold, hnone, Option.or_none, hoffset]
    rfl

end

/-! ## 2. All passes -/

/-- How many of `count` passes fit into the room behind an extent. -/
def fittingPasses (count extent : Nat) (highest : UInt64) : Nat :=
  min count ((maxFrame.toNat + 1 - extent) / bodySpan highest)

/-- Without room for a pass none fits. -/
theorem fittingPasses_of_full {count extent : Nat} {highest : UInt64}
    (hfull : maxFrame.toNat + 1 - extent < bodySpan highest) :
    fittingPasses count extent highest = 0 := by
  rw [fittingPasses, Nat.div_eq_of_lt hfull, Nat.min_zero]

/-- With room for a pass it is one more than behind that pass. -/
theorem fittingPasses_succ {count extent : Nat} {highest : UInt64}
    (hroom : bodySpan highest ≤ maxFrame.toNat + 1 - extent) :
    fittingPasses (count + 1) extent highest =
      fittingPasses count (extent + bodySpan highest) highest + 1 := by
  rw [fittingPasses, fittingPasses, Nat.div_eq_sub_div (bodySpan_pos highest) hroom, Nat.sub_add_eq]
  omega

/-- Behind a last frame the same number is the integer quotient of the frames
that are left by the span of the body. -/
theorem fittingPasses_eq {timeline : Timeline} (h : timeline.Anchored) (count : Nat)
    (highest : UInt64) :
    (fittingPasses count timeline.extent highest : Int) =
      min (count : Int) ((maxFrame.toNat - timeline.lastFrame.toInt) / (highest.toNat + 1)) := by
  have hextent := h.extent_le
  have hroom : (maxFrame.toNat - timeline.lastFrame.toInt : Int) =
      ((maxFrame.toNat + 1 - timeline.extent : Nat) : Int) := by
    rw [h.lastFrame_eq_extent]
    omega
  have hspan : (highest.toNat + 1 : Int) = (bodySpan highest : Int) := rfl
  rw [hroom, hspan, ← Int.natCast_ediv, fittingPasses]
  omega

/-- The quotient is not negative, since the cursor never passes the highest
frame. -/
theorem room_ediv_nonneg {timeline : Timeline} (h : timeline.Anchored) (highest : Nat) :
    0 ≤ (maxFrame.toNat - timeline.lastFrame.toInt) / ((highest : Int) + 1) := by
  have hroom := h.extent_le
  have hlast := h.lastFrame_eq_extent
  apply Int.ediv_nonneg
  · omega
  · omega

/-- Without a pass there are the old frames and nothing behind them. -/
theorem stateAt_without_pass {timeline : Timeline} (h : timeline.Anchored) (frame : UInt64)
    (body : Option PadState) :
    timeline.stateAt frame =
      if frame.toNat < timeline.extent then timeline.stateAt frame
      else if frame.toNat < timeline.extent then body
      else none := by
  by_cases hold : frame.toNat < timeline.extent
  · rw [if_pos hold]
  · rw [if_neg hold, if_neg hold]
    exact h.stateAt_of_extent_le (Nat.not_lt.1 hold)

/-- What a replay leaves behind: as many passes as fit, one after the other. A
frame behind the old cursor shows the offset that is left of its distance when
whole passes are taken away. -/
theorem passes_closed_form {timeline : Timeline} (h : timeline.Anchored) {body : States}
    {highest : UInt64} (hgreatest : body.maxKey? = some highest) (hhighest : highest ≤ maxFrame)
    (count : Nat) :
    (passes body highest count timeline).1.extent = timeline.extent +
        fittingPasses count timeline.extent highest * bodySpan highest ∧
      (passes body highest count timeline).2 =
        decide (fittingPasses count timeline.extent highest = count) ∧
      ∀ frame : UInt64, (passes body highest count timeline).1.stateAt frame =
        if frame.toNat < timeline.extent then timeline.stateAt frame
        else if frame.toNat < timeline.extent +
            fittingPasses count timeline.extent highest * bodySpan highest then
          bodyAt body ((frame.toNat - timeline.extent) % bodySpan highest)
        else none := by
  -- the first pass is taken off the count, and its frames off the room for the others
  induction count generalizing timeline with
  | zero =>
    have hzero : fittingPasses 0 timeline.extent highest = 0 := Nat.zero_min _
    rw [passes, hzero, Nat.zero_mul, Nat.add_zero]
    exact ⟨rfl, rfl, fun frame => stateAt_without_pass h frame _⟩
  | succ count ih =>
    rw [passes]
    by_cases hroom : bodySpan highest ≤ maxFrame.toNat + 1 - timeline.extent
    · -- there is room, so the first pass is written
      obtain ⟨written, hpass⟩ : ∃ written, pass body highest timeline = some written := by
        rw [← Option.isSome_iff_exists, Option.isSome_iff_ne_none, Ne, pass_eq_none_iff h hhighest]
        omega
      obtain ⟨hextent, hfirst⟩ := stateAt_of_pass h hgreatest hhighest hpass
      obtain ⟨hcursor, hcomplete, hstates⟩ := ih (anchored_pass h hgreatest hhighest hpass)
      rw [hextent] at hcursor hcomplete hstates
      rw [hpass, fittingPasses_succ hroom, Nat.succ_mul]
      generalize fittingPasses count (timeline.extent + bodySpan highest) highest = fitting at *
      dsimp only
      refine ⟨by rw [hcursor]; omega, by rw [hcomplete]; simp, ?_⟩
      intro frame
      have hpos := bodySpan_pos highest
      rw [hstates frame, hfirst frame]
      -- the frames of the first pass, and those of the passes behind it
      by_cases hinFirst : frame.toNat < timeline.extent + bodySpan highest
      · rw [if_pos hinFirst]
        by_cases hold : frame.toNat < timeline.extent
        · rw [if_pos hold, if_pos hold]
        · rw [if_neg hold, if_neg hold, if_pos (by omega), Nat.mod_eq_of_lt (by omega)]
      · have hmod : (frame.toNat - timeline.extent) % bodySpan highest =
            (frame.toNat - (timeline.extent + bodySpan highest)) % bodySpan highest := by
          rw [Nat.mod_eq_sub_mod (by omega), Nat.sub_add_eq]
        rw [if_neg hinFirst, if_neg (by omega : ¬frame.toNat < timeline.extent), hmod, Nat.add_assoc,
          Nat.add_comm (bodySpan highest)]
    · -- the first pass does not fit, and so no pass is written
      have hfull : maxFrame.toNat + 1 - timeline.extent < bodySpan highest := by omega
      rw [(pass_eq_none_iff h hhighest).2 hfull, fittingPasses_of_full hfull, Nat.zero_mul,
        Nat.add_zero]
      exact ⟨rfl, by simp, fun frame => stateAt_without_pass h frame _⟩

end InputScript.Timeline.OpenLoop
