/-
Runs of the compiler, line by line.

A script is compiled by one step a line, and the step hands on a timeline and
perhaps an open loop (`Session`). This file gives the run its own laws, how it
splits at a line and which lines its diagnostics name, and proves the invariant
that every state of every run has: the cursor of the timeline and the highest
offset of the open loop are the greatest keys of their maps. The invariant is
proved once for each kind of line and then for runs by induction.
-/
import InputScript.Compile.Script
import InputScript.Proofs.Timeline.Cursor

set_option autoImplicit false

namespace InputScript.Compile

open InputScript.Pad InputScript.Script InputScript.Text InputScript.Timeline

/-- The same remark about the line behind. -/
def Diagnostic.next (diagnostic : Diagnostic) : Diagnostic :=
  { diagnostic with line := diagnostic.line + 1 }

namespace Progress

/-! ## 1. Runs -/

/-- The state behind some lines. -/
def run (layout : Layout) (progress : Progress) (lines : List (List Char)) : Progress :=
  lines.foldl (fun progress line => (progress.step layout line).1) progress

@[simp]
theorem run_nil (layout : Layout) (progress : Progress) : progress.run layout [] = progress := rfl

@[simp]
theorem run_cons (layout : Layout) (progress : Progress) (line : List Char)
    (rest : List (List Char)) :
    progress.run layout (line :: rest) = (progress.step layout line).1.run layout rest := rfl

theorem run_append (layout : Layout) (progress : Progress) (before after : List (List Char)) :
    progress.run layout (before ++ after) = (progress.run layout before).run layout after :=
  List.foldl_append

theorem run_concat (layout : Layout) (progress : Progress) (front : List (List Char))
    (last : List Char) :
    progress.run layout (front ++ [last]) = ((progress.run layout front).step layout last).1 := by
  rw [run_append, run_cons, run_nil]

/-- The lines of a run, each with the state in front of it. -/
def visits (layout : Layout) (progress : Progress) :
    List (List Char) → List (Progress × List Char)
  | [] => []
  | line :: rest => (progress, line) :: (progress.step layout line).1.visits layout rest

/-- The state that steps lead to does not depend on how lines are numbered. -/
theorem steps_fst (layout : Layout) (progress : Progress) (number : Nat)
    (lines : List (List Char)) :
    (progress.steps layout number lines).1 = progress.run layout lines := by
  induction lines generalizing progress number with
  | nil => rfl
  | cons line rest ih =>
    rw [steps, run_cons]
    exact ih _ _

/-- The timeline of a script is the one that its run leads to. -/
theorem timeline_compileLines (layout : Layout) (lines : List (List Char)) :
    (compileLines layout lines).timeline = (start.run layout lines).timeline := by
  rw [← steps_fst layout start 1]
  rfl

/-- The diagnostics of a script are those of its steps, and one more if a loop is still open. -/
theorem diagnostics_compileLines (layout : Layout) (lines : List (List Char)) :
    (compileLines layout lines).diagnostics = (start.steps layout 1 lines).2 ++
      if (start.run layout lines).openLoop.isSome then [⟨lines.length, .unterminatedLoop⟩]
      else [] := by
  rw [← steps_fst layout start 1]
  rfl

/-- The diagnostics of lines are those of a first part and then those of the
rest, which goes on from the state and the number that the first part leads to. -/
theorem steps_snd_append (layout : Layout) (progress : Progress) (number : Nat)
    (before after : List (List Char)) :
    (progress.steps layout number (before ++ after)).2 =
      (progress.steps layout number before).2 ++
        ((progress.run layout before).steps layout (number + before.length) after).2 := by
  induction before generalizing progress number with
  | nil => rfl
  | cons line rest ih =>
    rw [List.cons_append, steps, steps]
    dsimp only
    -- the rest is numbered from behind the first line on both sides
    rw [ih, run_cons, List.append_assoc, List.length_cons, Nat.add_right_comm, Nat.add_assoc]

/-- With one line more there are the remarks of one step more. -/
theorem steps_snd_concat (layout : Layout) (progress : Progress) (number : Nat)
    (front : List (List Char)) (last : List Char) :
    (progress.steps layout number (front ++ [last])).2 =
      (progress.steps layout number front).2 ++
        ((progress.run layout front).step layout last).2.map
          (Diagnostic.mk (number + front.length)) := by
  rw [steps_snd_append, steps]
  dsimp only
  rw [steps, List.append_nil]

/-- A run under other numbers has the same diagnostics under other numbers. -/
theorem steps_snd_succ (layout : Layout) (progress : Progress) (number : Nat)
    (lines : List (List Char)) :
    (progress.steps layout (number + 1) lines).2 =
      (progress.steps layout number lines).2.map Diagnostic.next := by
  induction lines generalizing progress number with
  | nil => rfl
  | cons line rest ih =>
    rw [steps, steps]
    dsimp only
    rw [ih, List.map_append, List.map_map]
    rfl

/-- A diagnostic names one of the lines that were compiled. -/
theorem line_of_mem_steps {layout : Layout} {progress : Progress} {number : Nat}
    {lines : List (List Char)} {diagnostic : Diagnostic}
    (h : diagnostic ∈ (progress.steps layout number lines).2) :
    number ≤ diagnostic.line ∧ diagnostic.line < number + lines.length := by
  induction lines generalizing progress number with
  | nil => cases h
  | cons line rest ih =>
    rw [steps] at h
    rw [List.length_cons]
    rcases List.mem_append.1 h with hhere | hlater
    · -- the remarks of this line all name it
      obtain ⟨remark, -, rfl⟩ := List.mem_map.1 hhere
      dsimp only
      omega
    · have := ih hlater
      omega

/-- Diagnostics come in the order of the lines they name. -/
theorem pairwise_steps (layout : Layout) (progress : Progress) (number : Nat)
    (lines : List (List Char)) :
    (progress.steps layout number lines).2.Pairwise fun earlier later =>
      earlier.line ≤ later.line := by
  induction lines generalizing progress number with
  | nil => exact .nil
  | cons line rest ih =>
    rw [steps]
    refine List.pairwise_append.2 ⟨?_, ih _ _, ?_⟩
    · -- the remarks on one line have one number
      apply List.pairwise_map.2
      exact List.pairwise_of_forall fun _ _ => Nat.le_refl number
    · intro earlier hearlier later hlater
      obtain ⟨remark, -, rfl⟩ := List.mem_map.1 hearlier
      -- those on later lines have higher ones
      exact Nat.le_of_succ_le (line_of_mem_steps hlater).1

/-- The diagnostics of a script that name its last line are those of its last
step, and the one about an open loop if that step leaves one open. -/
theorem diagnostics_of_last_line (layout : Layout) (before : List (List Char))
    (line : List Char) :
    (compileLines layout (before ++ [line])).diagnostics.filter
        (fun diagnostic => diagnostic.line = before.length + 1) =
      ((start.run layout before).step layout line).2.map (Diagnostic.mk (before.length + 1)) ++
        if (start.run layout (before ++ [line])).openLoop.isSome then
          [⟨before.length + 1, .unterminatedLoop⟩] else [] := by
  -- earlier lines have smaller numbers
  have hbefore : (start.steps layout 1 before).2.filter
      (fun diagnostic => diagnostic.line = before.length + 1) = [] := by
    rw [List.filter_eq_nil_iff]
    intro diagnostic hmem
    have := line_of_mem_steps hmem
    simp only [decide_eq_true_eq]
    omega
  rw [diagnostics_compileLines, steps_snd_concat, Nat.add_comm 1, List.length_append,
    List.length_singleton, List.filter_append, List.filter_append, hbefore, List.nil_append]
  -- what is left was remarked on at the last line, and names it
  congr 1
  · rw [List.filter_eq_self]
    rintro diagnostic hmem
    obtain ⟨remark, -, rfl⟩ := List.mem_map.1 hmem
    exact decide_eq_true rfl
  · by_cases hopen : (start.run layout (before ++ [line])).openLoop.isSome
    · rw [if_pos hopen]
      simp
    · rw [if_neg hopen]
      rfl

/-! ## 2. Instruction lines -/

/-- Everything an instruction line can do. It is dropped when its range passes
the highest frame. With room for the range it moves at most the loop's own cursor
when the range is empty, and writes its state otherwise. -/
theorem play_cases (progress : Progress) (written : Instruction) (layout : Layout) :
    let cue := written.resolve progress.base layout
    let span := written.frames.span progress.base.toNat
    let unknown := cue.unknown.map Remark.unknownButton
    (¬span.Fits ∧ progress.play cue = (progress, unknown ++ [.frameOverflow])) ∨
      ∃ range : FrameRange, span = range.span ∧ range.span.Fits ∧
        ((range.isEmpty = true ∧ progress.play cue =
            ({ progress with openLoop := progress.openLoop.map fun loop => loop.skipTo range },
              unknown ++ [.emptyRange])) ∨
          (range.isEmpty = false ∧
            progress.play cue = (progress.write range cue.state, unknown))) := by
  intro cue span unknown
  have hcue : cue.range = written.frames.place progress.base := rfl
  rw [play, hcue]
  cases hplace : written.frames.place progress.base with
  | none => exact .inl ⟨FrameAddress.place_eq_none_iff.1 hplace, rfl⟩
  | some range =>
    obtain ⟨hspan, hfits⟩ := FrameAddress.place_eq_some_iff.1 hplace
    refine .inr ⟨range, hspan, hfits, ?_⟩
    -- the range is placed, and only then looked into
    by_cases hempty : range.isEmpty = true
    · exact .inl ⟨hempty, if_pos hempty⟩
    · exact .inr ⟨by simpa using hempty, if_neg hempty⟩

/-- Inside a loop a line does not look at the timeline. -/
theorem play_inside (loop : OpenLoop) (cue : Cue) :
    ∃ next, ∀ timeline : Timeline, (play ⟨timeline, some loop⟩ cue).1 = ⟨timeline, some next⟩ := by
  cases hcue : cue.range with
  | none => exact ⟨loop, fun timeline => by rw [play, hcue]⟩
  | some range =>
    by_cases hempty : range.isEmpty = true
    · refine ⟨loop.skipTo range, fun timeline => ?_⟩
      rw [play, hcue]
      dsimp only
      rw [if_pos hempty]
      rfl
    · refine ⟨loop.write range cue.state, fun timeline => ?_⟩
      rw [play, hcue]
      dsimp only
      rw [if_neg hempty]
      rfl

/-- Outside a loop an instruction line writes its range, if there is room for it and
it holds a frame, and does nothing otherwise. -/
theorem play_outside {progress : Progress} (hopen : progress.openLoop = none)
    (written : Instruction) (layout : Layout) :
    let cue := written.resolve progress.base layout
    let span := written.frames.span progress.base.toNat
    (¬(span.Fits ∧ span.start < span.stop) ∧ (progress.play cue).1 = progress) ∨
      ∃ range : FrameRange, span = range.span ∧ range.span.Fits ∧ range.isEmpty = false ∧
        (progress.play cue).1 = ⟨progress.timeline.write range cue.state, none⟩ := by
  intro cue span
  obtain ⟨timeline, _⟩ := progress
  -- without a loop there is no cursor to move and nowhere else to write
  obtain rfl := hopen
  rcases play_cases ⟨timeline, none⟩ written layout with
    ⟨hfits, hplay⟩ | ⟨range, hspan, hfits, ⟨hrange, hplay⟩ | ⟨hrange, hplay⟩⟩
  · refine .inl ⟨fun hroom => hfits hroom.1, ?_⟩
    rw [hplay]
  · refine .inl ⟨?_, by rw [hplay]; rfl⟩
    rintro ⟨-, hlt⟩
    rw [show span = range.span from hspan] at hlt
    rw [FrameRange.isEmpty_eq_false_iff.2 hlt] at hrange
    cases hrange
  · exact .inr ⟨range, hspan, hfits, hrange, by rw [hplay]; rfl⟩

/-! ## 3. What no line remarks on -/

/-- An open loop at the end is nothing that a single line could know about. -/
theorem unterminatedLoop_notMem_step (layout : Layout) (progress : Progress) (line : List Char) :
    .unterminatedLoop ∉ (progress.step layout line).2 := by
  rw [step]
  cases Statement.ofLine line with
  | loopStart repetitions =>
    simp only [enterLoop]
    split <;> simp
  | loopEnd =>
    rw [leaveLoop]
    cases progress.openLoop with
    | none => simp
    | some loop =>
      dsimp only
      split <;> simp
  | instruction written =>
    -- unknown buttons, and a range that is too high or empty
    rcases play_cases progress written layout with
      ⟨-, hplay⟩ | ⟨range, -, -, ⟨-, hplay⟩ | ⟨-, hplay⟩⟩ <;> simp [hplay]
  | ignored =>
    dsimp only
    split <;> simp

/-- So no diagnostic of the steps is about a loop that is never closed. -/
theorem remark_of_mem_steps {layout : Layout} {progress : Progress} {number : Nat}
    {lines : List (List Char)} {diagnostic : Diagnostic}
    (h : diagnostic ∈ (progress.steps layout number lines).2) :
    diagnostic.remark ≠ .unterminatedLoop := by
  induction lines generalizing progress number with
  | nil => cases h
  | cons line rest ih =>
    rcases List.mem_append.1 h with hhere | hlater
    · obtain ⟨remark, hremark, rfl⟩ := List.mem_map.1 hhere
      rintro rfl
      exact unterminatedLoop_notMem_step layout progress line hremark
    · exact ih hlater

/-! ## 4. The invariant -/

/-- The stored numbers of a state are the greatest keys of its maps. -/
structure Anchored (progress : Progress) : Prop where
  timeline : progress.timeline.Anchored
  openLoop : ∀ loop, progress.openLoop = some loop → loop.Anchored

theorem anchored_start : start.Anchored where
  timeline := anchored_empty
  openLoop := fun _ hloop => nomatch hloop

namespace Anchored

variable {progress : Progress} (h : progress.Anchored)
include h

/-- A loop starts with no offsets, and replaces the one that was open. -/
theorem enterLoop (repetitions : UInt64) : (progress.enterLoop repetitions).1.Anchored where
  timeline := h.timeline
  openLoop := by
    rintro loop hloop
    obtain rfl := Option.some_inj.1 hloop
    exact OpenLoop.anchored_start repetitions

/-- The replay of an anchored loop ends on the greatest frame that it writes. -/
theorem leaveLoop : progress.leaveLoop.1.Anchored := by
  rw [Progress.leaveLoop]
  cases hopen : progress.openLoop with
  | none => exact h
  | some loop => exact ⟨(h.openLoop loop hopen).replay h.timeline, fun _ hloop => nomatch hloop⟩

/-- Where the write goes, to the timeline or to the open loop, the cursor goes with it. -/
theorem write {range : FrameRange} (state : PadState) (hrange : range.isEmpty = false)
    (hfits : range.span.Fits) : (progress.write range state).Anchored := by
  rw [Progress.write]
  cases hopen : progress.openLoop with
  | none => exact ⟨h.timeline.write state hrange hfits, fun _ hloop => nomatch hloop⟩
  | some loop =>
    refine ⟨h.timeline, ?_⟩
    intro other hother
    obtain rfl := Option.some_inj.1 hother
    exact (h.openLoop loop hopen).write state hrange hfits

/-- An instruction line keeps the invariant, whether its range is dropped, empty or written. -/
theorem play (written : Instruction) (layout : Layout) :
    (progress.play (written.resolve progress.base layout)).1.Anchored := by
  rcases play_cases progress written layout with
    ⟨-, hplay⟩ | ⟨range, -, hfits, ⟨-, hplay⟩ | ⟨hrange, hplay⟩⟩
  · rw [hplay]
    exact h
  · rw [hplay]
    refine ⟨h.timeline, ?_⟩
    intro other hother
    -- an empty range moves the loop's cursor and nothing else
    obtain ⟨loop, hopen, rfl⟩ := Option.map_eq_some_iff.1 hother
    exact (h.openLoop loop hopen).skipTo hfits
  · rw [hplay]
    exact h.write _ hrange hfits

/-- Every kind of line keeps the invariant. -/
theorem step (layout : Layout) (line : List Char) : (progress.step layout line).1.Anchored := by
  rw [Progress.step]
  cases Statement.ofLine line with
  | loopStart repetitions => exact h.enterLoop repetitions
  | loopEnd => exact h.leaveLoop
  | instruction written => exact h.play written layout
  | ignored => exact h

/-- Every run keeps the invariant. -/
theorem run (layout : Layout) (lines : List (List Char)) : (progress.run layout lines).Anchored := by
  induction lines generalizing progress with
  | nil => exact h
  | cons line rest ih =>
    rw [run_cons]
    exact ih (h.step layout line)

end Anchored

/-! ## 5. Every state of a script -/

/-- **The cursor invariant.** After any number of lines of any script, the cursor
of the timeline is its greatest frame, -1 while there is none, and no frame
passes the highest one. The same holds of the highest offset of an open loop, and
of the timeline behind each pass by which that loop may be closed. -/
theorem cursors_eq_greatest_keys (layout : Layout) (script : String) (count : Nat) :
    let progress := (start.steps layout 1 ((lines script.toList).take count)).1
    progress.timeline.Anchored ∧
      (progress.timeline.lastFrame = -1 ↔ progress.timeline.states = ∅) ∧
      ∀ loop, progress.openLoop = some loop →
        loop.Anchored ∧
          (loop.highest = none ↔ loop.states = ∅) ∧
          ∀ highest, loop.highest = some highest → ∀ turns : Nat,
            (OpenLoop.passes loop.states highest turns progress.timeline).1.Anchored := by
  intro progress
  have h : progress.Anchored := by
    rw [show progress = start.run layout ((lines script.toList).take count) from
      steps_fst layout start 1 _]
    exact anchored_start.run layout _
  refine ⟨h.timeline, h.timeline.lastFrame_eq_neg_one_iff, ?_⟩
  intro loop hloop
  have hanchored := h.openLoop loop hloop
  refine ⟨hanchored, hanchored.highest_eq_none_iff, ?_⟩
  -- the passes of a replay start from the timeline in front of the loop end
  intro highest hhighest turns
  exact OpenLoop.anchored_passes (hanchored.highest_eq ▸ hhighest)
    (hanchored.highest_le hhighest) turns h.timeline

end Progress

end InputScript.Compile
