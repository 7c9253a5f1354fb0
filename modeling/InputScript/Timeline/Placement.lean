/-
Where on the timeline a line's frames lie (`frame_range`).

Frames are numbered by 64-bit words, and the highest usable one is 2⁶³ - 1: the
cursor that follows the timeline is signed, so that -1 can stand for an empty
timeline. A line names its frames either directly or by their distance from a
base, and a range that would pass the highest frame has no place at all. No sum
wraps around on the way: each is checked before its result is used.
-/

set_option autoImplicit false

namespace InputScript.Timeline

/-! ## 1. Frame numbers -/

/-- The highest frame an instruction can be placed on (`MAX_FRAME`). -/
def maxFrame : UInt64 := 9223372036854775807

/-- The sum of two words (`checked_add`), unless it needs a 65th bit. -/
def addWords? (a b : UInt64) : Option UInt64 :=
  if a.toNat + b.toNat < UInt64.size then some (a + b) else none

/-- A checked sum is the exact one. -/
theorem addWords?_eq_some_iff {a b c : UInt64} :
    addWords? a b = some c ↔ a.toNat + b.toNat = c.toNat := by
  rw [addWords?]
  split
  · rename_i h
    rw [Option.some_inj, ← UInt64.toNat_inj, UInt64.toNat_add, Nat.mod_eq_of_lt h]
  · rename_i h
    have hsize : UInt64.size = 18446744073709551616 := rfl
    have hc := c.toNat_lt
    constructor
    · simp
    · omega

/-! ## 2. Frame addresses and ranges -/

/-- How a line names its frames (`FrameSpec`). -/
inductive FrameAddress where
  /-- `5` or `5-9`: the first and last frame themselves. -/
  | absolute (first : UInt64) (last : Option UInt64)
  /-- `+2` or `+2-4`: a distance from the base and a number of frames. -/
  | relative (distance : UInt64) (count : Option UInt64)
deriving DecidableEq, Repr

/-- A half-open range of frames. A range that stops at or before its start
holds no frame; a line that writes its last frame below its first gives one. -/
structure FrameRange where
  start : UInt64
  stop : UInt64
deriving DecidableEq, Repr

/-- Whether the range holds no frame. -/
def FrameRange.isEmpty (range : FrameRange) : Bool :=
  range.stop ≤ range.start

/-- The frames of the range in ascending order. -/
def FrameRange.frames (range : FrameRange) : List UInt64 :=
  (List.range (range.stop.toNat - range.start.toNat)).map fun i => range.start + i.toUInt64

/-- No frame of a range is a sum that wraps around, since they lie in front of its
stop. -/
theorem FrameRange.toNat_start_add {range : FrameRange} {i : Nat}
    (hi : i < range.stop.toNat - range.start.toNat) :
    (range.start + i.toUInt64).toNat = range.start.toNat + i := by
  have hstop := range.stop.toNat_lt
  rw [UInt64.toNat_add, Nat.toUInt64, UInt64.toNat_ofNat', Nat.add_mod_mod]
  exact Nat.mod_eq_of_lt (by omega)

/-- A range that is not empty holds the frames from its start up to, but not
including, its stop. -/
theorem FrameRange.mem_frames {range : FrameRange} {frame : UInt64} :
    frame ∈ range.frames ↔ range.start ≤ frame ∧ frame < range.stop := by
  rw [FrameRange.frames, List.mem_map, UInt64.le_iff_toNat_le, UInt64.lt_iff_toNat_lt]
  constructor
  · rintro ⟨i, hi, rfl⟩
    rw [List.mem_range] at hi
    rw [toNat_start_add hi]
    omega
  · intro h
    have hi : frame.toNat - range.start.toNat < range.stop.toNat - range.start.toNat := by omega
    refine ⟨frame.toNat - range.start.toNat, List.mem_range.2 hi, ?_⟩
    rw [← UInt64.toNat_inj, toNat_start_add hi, Nat.add_sub_cancel' h.1]

/-- The range an address names, as long as its bounds are words. -/
def FrameAddress.range? (address : FrameAddress) (base : UInt64) : Option FrameRange :=
  match address with
  | .absolute first last =>
    (addWords? (last.getD first) 1).map fun stop => ⟨first, stop⟩
  | .relative distance count =>
    (addWords? base distance).bind fun start =>
      (addWords? start (count.getD 1)).map fun stop => ⟨start, stop⟩

/-- Places an address on the timeline (`frame_range`), counting distances from
`base`. There is no range when a bound passes the highest frame. -/
def FrameAddress.place (address : FrameAddress) (base : UInt64) : Option FrameRange :=
  (address.range? base).filter fun range => range.start ≤ maxFrame ∧ range.stop ≤ maxFrame + 1

end InputScript.Timeline
