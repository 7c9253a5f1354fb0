/-
Frame ranges without a word size.

A line is placed with checked 64-bit sums (`frame_range`), and the cursor moves
by checked signed ones. This file says what those sums stand for: an address
names a half-open range of natural numbers, and it has a place exactly when that
range stays within the highest frame. Everything proved about timelines further
up is stated on these numbers, so no other proof has to look at a word again.
-/
import InputScript.Timeline.Table

set_option autoImplicit false

namespace InputScript.Timeline

/-! ## 1. Words as numbers -/

theorem toNat_maxFrame : maxFrame.toNat = 9223372036854775807 := rfl

theorem toNat_max (a b : UInt64) : (max a b).toNat = max a.toNat b.toNat := by
  change (if a ≤ b then b else a).toNat = _
  split
  · rename_i h
    exact (Nat.max_eq_right (UInt64.le_iff_toNat_le.1 h)).symm
  · rename_i h
    exact (Nat.max_eq_left (UInt64.le_iff_toNat_le.1 (UInt64.le_of_lt (UInt64.not_le.1 h)))).symm

/-- A checked sum of cursors is the exact one. -/
theorem addCursors?_eq_some_iff {a b c : Int64} :
    addCursors? a b = some c ↔ a.toInt + b.toInt = c.toInt := by
  have hmin : Int64.minValue.toInt = -9223372036854775808 := rfl
  have hmax : Int64.maxValue.toInt = 9223372036854775807 := rfl
  have hlow := c.le_toInt
  have hhigh := c.toInt_lt
  simp only [addCursors?, hmin, hmax, Option.ite_none_right_eq_some, Option.some_inj]
  constructor
  · rintro ⟨hrange, rfl⟩
    -- the exact sum is in the range of cursors, so it does not wrap around
    rw [Int64.toInt_add, Int.bmod_eq_of_le (by omega) (by omega)]
  · intro hsum
    refine ⟨by omega, ?_⟩
    rw [← Int64.toInt_inj, Int64.toInt_add, hsum, Int64.toInt_bmod]

/-- A checked sum of cursors fails exactly when a cursor cannot hold the exact
one. -/
theorem addCursors?_eq_none_iff {a b : Int64} :
    addCursors? a b = none ↔
      a.toInt + b.toInt < -9223372036854775808 ∨ 9223372036854775807 < a.toInt + b.toInt := by
  have hmin : Int64.minValue.toInt = -9223372036854775808 := rfl
  have hmax : Int64.maxValue.toInt = 9223372036854775807 := rfl
  simp only [addCursors?, hmin, hmax, ite_eq_right_iff, reduceCtorEq, imp_false]
  omega

/-- A usable frame keeps its number when it becomes a cursor. -/
theorem toInt_toInt64 {frame : UInt64} (h : frame ≤ maxFrame) :
    frame.toInt64.toInt = frame.toNat := by
  have hmax : frame.toNat ≤ 9223372036854775807 := UInt64.le_iff_toNat_le.1 h
  rw [← UInt64.ofNat_toNat (x := frame), UInt64.toInt64_ofNat', Int64.toInt_ofNat_of_lt (by omega),
    UInt64.ofNat_toNat]

/-- A cursor on a frame keeps its number when it becomes a frame. -/
theorem toNat_toUInt64 (cursor : Int64) (h : 0 ≤ cursor.toInt) :
    (cursor.toUInt64.toNat : Int) = cursor.toInt := by
  rw [Int64.toNat_toUInt64_of_le (Int64.le_iff_toInt_le.2 h), Int64.toNatClampNeg]
  omega

/-! ## 2. Spans -/

/-- A half-open range of frames whose bounds are natural numbers. -/
structure Span where
  start : Nat
  stop : Nat
deriving DecidableEq, Repr

namespace Span

instance : Membership Nat Span :=
  ⟨fun span frame => span.start ≤ frame ∧ frame < span.stop⟩

theorem mem_iff {frame : Nat} {span : Span} :
    frame ∈ span ↔ span.start ≤ frame ∧ frame < span.stop :=
  Iff.rfl

instance {frame : Nat} {span : Span} : Decidable (frame ∈ span) :=
  inferInstanceAs (Decidable (span.start ≤ frame ∧ frame < span.stop))

/-- Whether the timeline has room for the range. A range that holds no frame
needs room as well: its bounds are checked like those of any other. -/
def Fits (span : Span) : Prop :=
  span.start ≤ maxFrame.toNat ∧ span.stop ≤ maxFrame.toNat + 1

instance {span : Span} : Decidable span.Fits :=
  inferInstanceAs (Decidable (span.start ≤ maxFrame.toNat ∧ span.stop ≤ maxFrame.toNat + 1))

/-- The greatest frame of the range, if it holds one. -/
def last? (span : Span) : Option Nat :=
  if span.start < span.stop then some (span.stop - 1) else none

/-- The last frame of a range is in it, and no frame of the range is greater. -/
theorem last?_eq_some_iff {span : Span} {frame : Nat} :
    span.last? = some frame ↔ frame ∈ span ∧ ∀ other ∈ span, other ≤ frame := by
  simp only [last?, Option.ite_none_right_eq_some, Option.some_inj, mem_iff]
  constructor
  · rintro ⟨hlt, rfl⟩
    exact ⟨by omega, fun other hother => by omega⟩
  · rintro ⟨hmem, hle⟩
    -- the frame in front of the stop is in the range, if any frame is
    have := hle (span.stop - 1)
    omega

theorem last?_eq_none_iff {span : Span} : span.last? = none ↔ ∀ frame, frame ∉ span := by
  simp only [last?, ite_eq_right_iff, reduceCtorEq, imp_false, mem_iff]
  constructor
  · intro hlt frame hframe
    omega
  · intro hnone hlt
    exact hnone span.start ⟨Nat.le_refl _, hlt⟩

end Span

/-- The span of a range of words. -/
def FrameRange.span (range : FrameRange) : Span :=
  ⟨range.start.toNat, range.stop.toNat⟩

/-- A frame is in the range of words exactly if its number is in the span. -/
theorem FrameRange.mem_span {range : FrameRange} {frame : UInt64} :
    frame.toNat ∈ range.span ↔ range.start ≤ frame ∧ frame < range.stop := by
  rw [UInt64.le_iff_toNat_le, UInt64.lt_iff_toNat_lt]
  rfl

/-- The range an address names when distances count from `base`. Without a last
frame an absolute address names one frame, and without a count so does a
relative one. -/
def FrameAddress.span (address : FrameAddress) (base : Nat) : Span :=
  match address with
  | .absolute first last => ⟨first.toNat, (last.getD first).toNat + 1⟩
  | .relative distance count =>
    ⟨base + distance.toNat, base + distance.toNat + (count.getD 1).toNat⟩

/-! ## 3. Placement is exact -/

/-- The word range of an address is its exact range. -/
theorem FrameAddress.range?_eq_some_iff {address : FrameAddress} {base : UInt64}
    {range : FrameRange} :
    address.range? base = some range ↔ address.span base.toNat = range.span := by
  cases address with
  -- the start is written, and only the stop is a sum
  | absolute first last =>
    simp only [range?, FrameAddress.span, FrameRange.span, Option.map_eq_some_iff,
      addWords?_eq_some_iff, Span.mk.injEq, UInt64.toNat_inj]
    constructor
    · rintro ⟨stop, hstop, rfl⟩
      exact ⟨rfl, hstop⟩
    · rintro ⟨rfl, hstop⟩
      exact ⟨range.stop, hstop, rfl⟩
  -- both bounds are sums, and the second one starts from the first
  | relative distance count =>
    simp only [range?, FrameAddress.span, FrameRange.span, Option.bind_eq_some_iff,
      Option.map_eq_some_iff, addWords?_eq_some_iff, Span.mk.injEq]
    constructor
    · rintro ⟨start, hstart, stop, hstop, rfl⟩
      dsimp only
      exact ⟨hstart, by omega⟩
    · rintro ⟨hstart, hstop⟩
      exact ⟨range.start, hstart, range.stop, by omega, rfl⟩

/-- An address is placed where it says, and only if there is room for it. -/
theorem FrameAddress.place_eq_some_iff {address : FrameAddress} {base : UInt64}
    {range : FrameRange} :
    address.place base = some range ↔
      address.span base.toNat = range.span ∧ range.span.Fits := by
  -- the bound of the stop is a word, though it is one more than the highest frame
  have hbound : (maxFrame + 1).toNat = maxFrame.toNat + 1 := rfl
  rw [place, Option.filter_eq_some_iff, range?_eq_some_iff, decide_eq_true_iff,
    UInt64.le_iff_toNat_le, UInt64.le_iff_toNat_le, hbound]
  rfl

/-- An address without a place is one that the timeline has no room for. -/
theorem FrameAddress.place_eq_none_iff {address : FrameAddress} {base : UInt64} :
    address.place base = none ↔ ¬(address.span base.toNat).Fits := by
  constructor
  · intro hnone hfits
    -- both bounds of a range that fits are words, so they make up a range
    have hsize : maxFrame.toNat + 1 < UInt64.size := by decide
    have hstart : (UInt64.ofNat (address.span base.toNat).start).toNat
        = (address.span base.toNat).start :=
      UInt64.toNat_ofNat_of_lt' (by have := hfits.1; omega)
    have hstop : (UInt64.ofNat (address.span base.toNat).stop).toNat
        = (address.span base.toNat).stop :=
      UInt64.toNat_ofNat_of_lt' (by have := hfits.2; omega)
    have hspan : address.span base.toNat
        = FrameRange.span ⟨.ofNat (address.span base.toNat).start,
            .ofNat (address.span base.toNat).stop⟩ := by
      rw [FrameRange.span, hstart, hstop]
    have hplace := place_eq_some_iff.2 ⟨hspan, hspan ▸ hfits⟩
    rw [hnone] at hplace
    cases hplace
  · intro hfits
    -- a place would be the exact range, for which there is room
    cases hplace : address.place base with
    | none => rfl
    | some range =>
      obtain ⟨hspan, hroom⟩ := place_eq_some_iff.1 hplace
      exact absurd (hspan ▸ hroom) hfits

/-- **Placement is exact.** For every base and every address of either kind, the place of the
address is its exact range if neither bound passes the end of the timeline, and there is no
place if one of them does. So no bound of a place is a sum that wrapped around, also where
the range holds no frame. -/
theorem FrameAddress.map_span_place (address : FrameAddress) (base : UInt64) :
    (address.place base).map FrameRange.span =
      if (address.span base.toNat).Fits then some (address.span base.toNat) else none := by
  -- whether there is room decides whether there is a place
  by_cases hfits : (address.span base.toNat).Fits
  · rw [if_pos hfits]
    cases hplace : address.place base with
    | none => exact absurd hfits (place_eq_none_iff.1 hplace)
    | some range =>
      obtain ⟨hspan, -⟩ := place_eq_some_iff.1 hplace
      rw [Option.map_some, hspan]
  · rw [if_neg hfits, place_eq_none_iff.2 hfits, Option.map_none]

/-- A range that ends in front of its start has a place at the end of the timeline, and one
without a frame has none behind it. -/
example : FrameAddress.place (.absolute maxFrame (some 0)) 0 = some ⟨maxFrame, 1⟩ ∧
    FrameAddress.place (.relative 1 (some 0)) maxFrame = none := by
  decide

/-! ## 4. Ranges that hold a frame -/

/-- A range holds a frame when it starts in front of its stop. -/
theorem FrameRange.isEmpty_eq_false_iff {range : FrameRange} :
    range.isEmpty = false ↔ range.start.toNat < range.stop.toNat := by
  rw [isEmpty, decide_eq_false_iff_not, UInt64.le_iff_toNat_le, Nat.not_le]

/-- The last frame of a range stands directly in front of its stop, unless the
range stops at frame 0. -/
theorem FrameRange.toNat_last {range : FrameRange} (h : 0 < range.stop.toNat) :
    range.last.toNat = range.stop.toNat - 1 := by
  have hone : (1 : UInt64).toNat = 1 := rfl
  rw [last, UInt64.toNat_sub_of_le _ _ (UInt64.le_iff_toNat_le.2 (by omega)), hone]

/-- The last frame of a range is in it. -/
theorem FrameRange.mem_span_last {range : FrameRange} (h : range.isEmpty = false) :
    range.last.toNat ∈ range.span := by
  rw [isEmpty_eq_false_iff] at h
  have hlast := range.toNat_last (by omega)
  exact ⟨show range.start.toNat ≤ _ by omega, show _ < range.stop.toNat by omega⟩

/-- And no frame of the range is greater. -/
theorem FrameRange.le_last_of_mem_span {range : FrameRange} (h : range.isEmpty = false)
    {frame : UInt64} (hframe : frame.toNat ∈ range.span) : frame ≤ range.last := by
  rw [isEmpty_eq_false_iff] at h
  have hlast := range.toNat_last (by omega)
  have hstop : frame.toNat < range.stop.toNat := hframe.2
  rw [UInt64.le_iff_toNat_le]
  omega

end InputScript.Timeline
