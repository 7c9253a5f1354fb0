/-
The frames of a timeline as a list.

A timeline lists its frames in ascending order. Lists of numbered states in this order
are the same as soon as they have the same members, so what a timeline lists follows
from the states of its frames.
-/
import InputScript.Timeline.Table
import Mathlib.Data.List.Sort

set_option autoImplicit false

namespace InputScript.Timeline

open InputScript.Pad

/-! ## 1. Ascending lists -/

/-- Numbered states in ascending order, at most one a number. -/
def Ascending (entries : List (Int × PadState)) : Prop :=
  entries.Pairwise fun a b => a.1 < b.1

/-- Ascending lists with the same members are the same. -/
theorem Ascending.eq_of_mem_iff {first second : List (Int × PadState)} (hfirst : Ascending first)
    (hsecond : Ascending second) (hmem : ∀ entry, entry ∈ first ↔ entry ∈ second) :
    first = second := by
  have : Std.Antisymm fun a b : Int × PadState => a.1 < b.1 :=
    ⟨fun a b hab hba => absurd hab (Int.not_lt.2 (Int.le_of_lt hba))⟩
  have : Std.Irrefl fun a b : Int × PadState => a.1 < b.1 := ⟨fun a => Int.lt_irrefl a.1⟩
  exact List.Pairwise.eq_of_mem_iff hfirst hsecond hmem

/-- A table lists its keys in ascending order, also when they are numbered anew. -/
theorem ascending_map_toList (states : States) (number : UInt64 → Int)
    (hnumber : ∀ a b : UInt64, a.toNat < b.toNat → number a < number b) :
    Ascending (states.toList.map fun (frame, state) => (number frame, state)) := by
  rw [Ascending, List.pairwise_map]
  refine Std.ExtTreeMap.ordered_keys_toList.imp ?_
  intro a b hlt
  exact hnumber a.1 b.1 (UInt64.lt_iff_toNat_lt.1 (Std.compare_eq_lt.1 hlt))

/-! ## 2. Listed frames -/

theorem mem_frames {timeline : Timeline} {frame : UInt64} {state : PadState} :
    (frame, state) ∈ timeline.frames ↔ timeline.stateAt frame = some state :=
  Std.ExtTreeMap.mem_toList_iff_getElem?_eq_some

/-- The numbers of the listed frames ascend. -/
theorem pairwise_frames (timeline : Timeline) :
    (timeline.frames.map fun entry => entry.1.toNat).Pairwise (· < ·) := by
  rw [List.pairwise_map]
  refine Std.ExtTreeMap.ordered_keys_toList.imp ?_
  intro first second hlt
  exact UInt64.lt_iff_toNat_lt.1 (Std.compare_eq_lt.1 hlt)

/-- The frames of a timeline with their states, each frame moved on. -/
def movedBy (timeline : Timeline) (distance : Int) : List (Int × PadState) :=
  timeline.frames.map fun (frame, state) => (frame.toNat + distance, state)

/-- A frame is listed at the place that it is moved to. -/
theorem mem_movedBy {timeline : Timeline} {distance number : Int} {state : PadState} :
    (number, state) ∈ timeline.movedBy distance ↔
      ∃ frame, timeline.stateAt frame = some state ∧ frame.toNat + distance = number := by
  simp only [movedBy, List.mem_map, Prod.exists, Prod.mk.injEq, mem_frames]
  constructor
  · rintro ⟨frame, _, hstate, rfl, rfl⟩
    exact ⟨frame, hstate, rfl⟩
  · rintro ⟨frame, hstate, rfl⟩
    exact ⟨frame, state, hstate, rfl, rfl⟩

/-- Frames are listed in ascending order, however far they are moved. -/
theorem ascending_movedBy (timeline : Timeline) (distance : Int) :
    Ascending (timeline.movedBy distance) :=
  ascending_map_toList timeline.states (fun frame => frame.toNat + distance) fun a b hlt => by omega

end InputScript.Timeline
