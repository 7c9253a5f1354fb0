/-
Where loops are open.

Only two kinds of lines open or close a loop, and every one of them settles whether a
loop is open behind it, whatever was open in front. So behind some lines a loop is open
exactly if the latest of their markers opens one.
-/
import InputScript.Proofs.Compile.Placed
import Mathlib.Data.List.Induction

set_option autoImplicit false

namespace InputScript.Script

/-! ## 1. Loop markers -/

def Statement.isLoopStart : Statement → Bool
  | .loopStart _ => true
  | _ => false

/-- The first of some lines that opens or closes a loop. -/
def nextMarker? (lines : List (List Char)) : Option Statement :=
  (lines.map Statement.ofLine).find? Statement.isLoopMarker

/-- The last of some lines that opens or closes a loop. -/
def latestMarker? (lines : List (List Char)) : Option Statement :=
  nextMarker? lines.reverse

/-- The first line is the marker if it is one. -/
theorem nextMarker?_cons (line : List Char) (rest : List (List Char)) :
    nextMarker? (line :: rest) =
      if (Statement.ofLine line).isLoopMarker then some (Statement.ofLine line)
      else nextMarker? rest := by
  rw [nextMarker?, List.map_cons, List.find?_cons]
  cases (Statement.ofLine line).isLoopMarker with
  | true => rfl
  | false => rfl

/-- The last line is the marker if it is one. -/
theorem latestMarker?_concat (lines : List (List Char)) (line : List Char) :
    latestMarker? (lines ++ [line]) =
      if (Statement.ofLine line).isLoopMarker then some (Statement.ofLine line)
      else latestMarker? lines := by
  rw [latestMarker?, List.reverse_append, List.reverse_singleton, List.singleton_append,
    nextMarker?_cons]
  rfl

end InputScript.Script

namespace InputScript.Compile.Progress

open InputScript.Pad InputScript.Script InputScript.Timeline

/-! ## 2. Open loops -/

/-- An instruction neither opens a loop nor closes one. -/
theorem isSome_openLoop_play (progress : Progress) (cue : Cue) :
    (progress.play cue).1.openLoop.isSome = progress.openLoop.isSome := by
  obtain ⟨timeline, openLoop⟩ := progress
  cases openLoop with
  | some loop =>
    obtain ⟨next, hplay⟩ := play_inside loop cue
    rw [hplay]
    rfl
  | none =>
    rw [play]
    cases cue.range with
    | none => rfl
    | some range =>
      dsimp only
      split <;> rfl

/-- Behind a loop end no loop is open, whether or not one was. -/
theorem openLoop_leaveLoop (progress : Progress) : progress.leaveLoop.1.openLoop = none := by
  rw [leaveLoop]
  cases hopen : progress.openLoop with
  | none => exact hopen
  | some loop => rfl

/-- A loop is open behind some lines when the last marker among them opens one. -/
theorem isSome_openLoop_run (layout : Layout) (lines : List (List Char)) :
    (start.run layout lines).openLoop.isSome = (latestMarker? lines).any Statement.isLoopStart := by
  -- line by line from the front, so that the last line is the one that is added
  induction lines using List.reverseRecOn with
  | nil => rfl
  | append_singleton front last ih =>
    rw [run_concat, step, latestMarker?_concat]
    cases hstatement : Statement.ofLine last with
    -- both markers settle the question, and the other two lines pass it on
    | loopStart repetitions => rfl
    | loopEnd =>
      change (start.run layout front).leaveLoop.1.openLoop.isSome = false
      rw [openLoop_leaveLoop]
      rfl
    | instruction written => exact (isSome_openLoop_play _ _).trans ih
    | ignored => exact ih

end InputScript.Compile.Progress
