/-
Instructions as a list of ranges.

A sequence of instruction lines can be read without a table and without cursors:
each line names a range of frames, and a frame shows the state of the last line
whose range holds it. The only thing that a line takes from the ones before it is
where relative frames count from, and that is a function of their ranges. It is a
parameter here, because lines outside and inside a loop differ in it and in
nothing else: outside they count from behind all frames so far, inside from the
last frame of the latest line.

All of this is stated on natural numbers. A line whose range passes the highest
frame has no place in the list.
-/
import InputScript.Proofs.Compile.Run

set_option autoImplicit false

namespace InputScript.Script

open InputScript.Pad InputScript.Timeline

/-- The state an instruction gives its frames, which does not depend on where
they are. -/
def Instruction.state (written : Instruction) (layout : Layout) : PadState :=
  (written.resolve 0 layout).state

theorem Instruction.state_resolve (written : Instruction) (base : UInt64) (layout : Layout) :
    (written.resolve base layout).state = written.state layout := rfl

/-- The instruction of a statement, if it is one. -/
def Statement.instruction? : Statement → Option Instruction
  | .instruction written => some written
  | _ => none

/-- Whether a statement opens or closes a loop. -/
def Statement.isLoopMarker : Statement → Bool
  | .loopStart _ | .loopEnd => true
  | _ => false

/-- The instructions among some lines, in order. -/
def instructionsOf (lines : List (List Char)) : List Instruction :=
  lines.filterMap fun line => (Statement.ofLine line).instruction?

end InputScript.Script

namespace InputScript.Compile

open InputScript.Pad InputScript.Script InputScript.Timeline

/-! ## 1. What is placed where -/

/-- A range of frames and the state that an instruction puts on them. -/
structure Placed where
  span : Span
  state : PadState

namespace Placed

/-- The state a frame has: that of the last range that holds it. -/
def stateIn (placed : List Placed) (frame : Nat) : Option PadState :=
  (placed.reverse.find? fun one => frame ∈ one.span).map Placed.state

/-- The greatest frame of all the ranges, if one of them holds a frame. -/
def greatest? (placed : List Placed) : Option Nat :=
  (placed.filterMap fun one => one.span.last?).max?

/-- Outside a loop relative frames count from behind all frames so far. -/
def behindAll (placed : List Placed) : Nat :=
  (greatest? placed).elim 0 (· + 1)

/-- Inside a loop they count from the last frame of the latest range, which may
be one that holds no frame: then it is the frame in front of its stop. -/
def endOfLatest (placed : List Placed) : Nat :=
  placed.getLast?.elim 0 fun one => one.span.stop - 1

/-- Places one more instruction, if the timeline has room for it. -/
def add (base : List Placed → Nat) (layout : Layout) (placed : List Placed)
    (written : Instruction) : List Placed :=
  let span := written.frames.span (base placed)
  if span.Fits then placed ++ [⟨span, written.state layout⟩] else placed

/-- Places instructions one after the other. -/
def ofInstructions (base : List Placed → Nat) (layout : Layout)
    (instructions : List Instruction) : List Placed :=
  instructions.foldl (add base layout) []

/-! ## 2. One range more -/

@[simp]
theorem stateIn_nil (frame : Nat) : stateIn [] frame = none := rfl

/-- The latest range is looked at first, so it takes its frames over from all others. -/
theorem stateIn_concat (placed : List Placed) (one : Placed) (frame : Nat) :
    stateIn (placed ++ [one]) frame =
      if frame ∈ one.span then some one.state else stateIn placed frame := by
  rw [stateIn, List.reverse_append, List.reverse_singleton, List.singleton_append, List.find?_cons]
  by_cases h : frame ∈ one.span
  · simp only [h, decide_true, Option.map_some, if_true]
  · simp only [h, decide_false, if_false]
    rfl

/-- The frames that have a state are those of the ranges. -/
theorem isSome_stateIn {placed : List Placed} {frame : Nat} :
    (stateIn placed frame).isSome ↔ ∃ one ∈ placed, frame ∈ one.span := by
  simp only [stateIn, Option.isSome_map, List.find?_isSome, List.mem_reverse, decide_eq_true_eq]

/-- The greatest frame is in one of the ranges, and no range goes beyond it. -/
theorem greatest?_eq_some_iff {placed : List Placed} {frame : Nat} :
    greatest? placed = some frame ↔
      (∃ one ∈ placed, frame ∈ one.span) ∧ ∀ one ∈ placed, ∀ other ∈ one.span, other ≤ frame := by
  simp only [greatest?, List.max?_eq_some_iff, List.mem_filterMap]
  constructor
  · rintro ⟨⟨one, hone, hlast⟩, hle⟩
    refine ⟨⟨one, hone, (Span.last?_eq_some_iff.1 hlast).1⟩, ?_⟩
    intro other hother within hwithin
    -- a range with a frame in it has a last one, which the list of last frames bounds
    rcases hgreatest : other.span.last? with _ | greatest
    · exact absurd hwithin (Span.last?_eq_none_iff.1 hgreatest within)
    · exact Nat.le_trans ((Span.last?_eq_some_iff.1 hgreatest).2 within hwithin)
        (hle greatest ⟨other, hother, hgreatest⟩)
  · -- a frame that bounds all ranges is the last one of the range it is in
    rintro ⟨⟨one, hone, hmem⟩, hle⟩
    refine ⟨⟨one, hone, Span.last?_eq_some_iff.2 ⟨hmem, hle one hone⟩⟩, ?_⟩
    rintro greatest ⟨other, hother, hgreatest⟩
    exact hle other hother greatest (Span.last?_eq_some_iff.1 hgreatest).1

theorem greatest?_eq_none_iff {placed : List Placed} :
    greatest? placed = none ↔ ∀ one ∈ placed, ∀ frame, frame ∉ one.span := by
  simp only [greatest?, List.max?_eq_none_iff, List.filterMap_eq_nil_iff, Span.last?_eq_none_iff]

theorem endOfLatest_concat (placed : List Placed) (one : Placed) :
    endOfLatest (placed ++ [one]) = one.span.stop - 1 := by
  rw [endOfLatest, List.getLast?_concat, Option.elim_some]

end Placed

/-! ## 3. Tables that show what is placed -/

/-- A table shows at each of its keys the state of the last range that holds the
key, and every range is one that the timeline has room for. -/
structure Shows (states : States) (placed : List Placed) : Prop where
  getElem?_eq : ∀ frame : UInt64, states[frame]? = Placed.stateIn placed frame.toNat
  fits : ∀ one ∈ placed, one.span.Fits

namespace Shows

theorem empty : Shows ∅ [] where
  getElem?_eq := fun frame => by rw [Std.ExtTreeMap.getElem?_empty, Placed.stateIn_nil]
  fits := fun one hone => absurd hone List.not_mem_nil

variable {states : States} {placed : List Placed} (h : Shows states placed)
include h

theorem fits_concat {one : Placed} (hone : one.span.Fits) :
    ∀ other ∈ placed ++ [one], other.span.Fits := by
  intro other hother
  rcases List.mem_append.1 hother with hmem | hmem
  · exact h.fits other hmem
  · rw [List.mem_singleton.1 hmem]
    exact hone

/-- Writing a range shows one range more. -/
theorem writeRange {range : FrameRange} (hfits : range.span.Fits) (state : PadState) :
    Shows (writeRange range state states) (placed ++ [⟨range.span, state⟩]) where
  getElem?_eq := by
    intro frame
    rw [getElem?_writeRange, Placed.stateIn_concat, h.getElem?_eq frame]
    simp only [FrameRange.mem_span]
  fits := h.fits_concat hfits

/-- A range that holds no frame is shown without a write. -/
theorem concat_of_isEmpty {range : FrameRange} (hfits : range.span.Fits)
    (hrange : range.isEmpty = true) (state : PadState) :
    Shows states (placed ++ [⟨range.span, state⟩]) where
  getElem?_eq := by
    intro frame
    -- no frame is in the range, so none is shown to have changed
    have hnot : frame.toNat ∉ range.span := by
      intro hmem
      have hlt : range.start.toNat < range.stop.toNat := Nat.lt_of_le_of_lt hmem.1 hmem.2
      rw [FrameRange.isEmpty_eq_false_iff.2 hlt] at hrange
      cases hrange
    rw [Placed.stateIn_concat, if_neg hnot, h.getElem?_eq frame]
  fits := h.fits_concat hfits

theorem mem_iff {frame : UInt64} : frame ∈ states ↔ ∃ one ∈ placed, frame.toNat ∈ one.span := by
  rw [Std.ExtTreeMap.mem_iff_isSome_getElem?, h.getElem?_eq, Placed.isSome_stateIn]

/-- A frame of a range is a word, hence a key. -/
theorem exists_key {one : Placed} (hone : one ∈ placed) {frame : Nat} (hframe : frame ∈ one.span) :
    ∃ key : UInt64, key ∈ states ∧ key.toNat = frame := by
  have hfits := (h.fits one hone).2
  have hstop := hframe.2
  have hsize : maxFrame.toNat + 1 < UInt64.size := by decide
  -- the room for the range is what keeps the frame within a word
  have hword : (UInt64.ofNat frame).toNat = frame := UInt64.toNat_ofNat_of_lt' (by omega)
  exact ⟨.ofNat frame, h.mem_iff.2 ⟨one, hone, by rwa [hword]⟩, hword⟩

/-- The greatest key of the table is the greatest frame of the ranges. -/
theorem greatest?_eq : Placed.greatest? placed = states.maxKey?.map UInt64.toNat := by
  cases hmax : states.maxKey? with
  | none =>
    rw [Std.ExtTreeMap.maxKey?_eq_none_iff] at hmax
    rw [Option.map_none, Placed.greatest?_eq_none_iff]
    intro one hone frame hframe
    obtain ⟨key, hkey, -⟩ := h.exists_key hone hframe
    rw [hmax] at hkey
    exact Std.ExtTreeMap.not_mem_empty hkey
  | some greatest =>
    obtain ⟨hmem, hle⟩ := States.maxKey?_eq_some_iff.1 hmax
    rw [Option.map_some, Placed.greatest?_eq_some_iff]
    refine ⟨h.mem_iff.1 hmem, ?_⟩
    intro one hone frame hframe
    -- every frame is a key, and keys are compared as the numbers they are
    obtain ⟨key, hkey, rfl⟩ := h.exists_key hone hframe
    exact UInt64.le_iff_toNat_le.1 (hle key hkey)

end Shows

/-! ## 4. Runs without loop markers -/

/-- What every instruction keeps between a state and the ranges placed so far,
lines without loop markers keep: each of them is an instruction or noise. -/
theorem run_induction {layout : Layout} {base : List Placed → Nat}
    (Stands : Progress → List Placed → Prop)
    (hplay : ∀ {progress placed}, Stands progress placed → ∀ written : Instruction,
      Stands (progress.play (written.resolve progress.base layout)).1
        (Placed.add base layout placed written))
    {lines : List (List Char)}
    (hlines : ∀ line ∈ lines, (Statement.ofLine line).isLoopMarker = false)
    {progress : Progress} {placed : List Placed} (h : Stands progress placed) :
    Stands (progress.run layout lines)
      ((instructionsOf lines).foldl (Placed.add base layout) placed) := by
  induction lines generalizing progress placed with
  | nil => exact h
  | cons line rest ih =>
    -- four kinds of lines, two of which the hypothesis excludes
    have hline := hlines line List.mem_cons_self
    have hrest : ∀ other ∈ rest, (Statement.ofLine other).isLoopMarker = false := by
      intro other hother
      exact hlines other (List.mem_cons_of_mem _ hother)
    rw [Progress.run_cons, Progress.step, instructionsOf, List.filterMap_cons]
    cases hstatement : Statement.ofLine line with
    | loopStart repetitions =>
      rw [hstatement] at hline
      cases hline
    | loopEnd =>
      rw [hstatement] at hline
      cases hline
    | instruction written => exact ih hrest (hplay h written)
    | ignored => exact ih hrest h

end InputScript.Compile
