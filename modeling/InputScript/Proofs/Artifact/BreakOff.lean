/-
Where a header breaks off.

Rows are written while frames are looked at, so when a frame turns out to have no row, all
that stands in front of that row is written already. This file says which frame that is,
which of its codes is to blame and what the text is at that point: the first frame in
ascending order that uses a code without a bit in the mask, the least such code of the
frame, and the lines of a header that is complete, up to the row of the frame. The sizes
are written in front of the table, so they count the frames that are missing.
-/
import InputScript.Proofs.Artifact.Header

set_option autoImplicit false

namespace InputScript.Artifact

open InputScript.Compile InputScript.Pad InputScript.Timeline

/-! ## 1. The code to blame -/

/-- The least of the codes that have no bit in the mask. -/
structure LeastWide (buttons : ButtonSet) (code : UInt8) : Prop where
  mem : code ∈ buttons.codes
  wide : 32 ≤ code
  least : ∀ other ∈ buttons.codes, 32 ≤ other → code ≤ other

/-- There is one least code, so a frame has one code to blame. -/
theorem LeastWide.eq {buttons : ButtonSet} {code other : UInt8} (h : LeastWide buttons code)
    (hother : LeastWide buttons other) : code = other :=
  UInt8.le_antisymm (h.least other hother.mem hother.wide) (hother.least code h.mem h.wide)

end InputScript.Artifact

namespace InputScript.Project

open InputScript.Artifact InputScript.Compile InputScript.Timeline

end InputScript.Project
