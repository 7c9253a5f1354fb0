/-
Lines that leave no trace.

What the compiler sets aside might as well not be there: an instruction without room,
a range that ends before it starts, a loop end without a loop, and all lines of a
loop that is never closed. Blank lines in their place give the same timeline. The
lines of a loop are the hard case, since they are set aside by what comes behind them.
So the run of a script and the run of what is left of it are not in step inside such
a loop; they agree on the timeline, and on the open loop whenever the next loop marker
is one that closes it.
-/
import InputScript.Proofs.Compile.Markers
import InputScript.Proofs.Script.Spacing

set_option autoImplicit false

namespace InputScript.Script

/-- A statement that has an instruction is one. -/
theorem Statement.exists_of_isSome_instruction? {statement : Statement}
    (h : statement.instruction?.isSome) : ∃ written, statement = .instruction written := by
  cases statement with
  | instruction written => exact ⟨written, rfl⟩
  | _ => cases h

end InputScript.Script

namespace InputScript.Compile

open InputScript.Pad InputScript.Script InputScript.Text InputScript.Timeline

/-! ## 1. Rejected lines

A line is given by the lines in front of it and those behind it. -/

section

variable (layout : Layout) (before : List (List Char)) (line : List Char) (after : List (List Char))

/-- Whether the compiler has this to say about the line. -/
def Remarked (remark : Remark) : Prop :=
  ⟨before.length + 1, remark⟩ ∈ (compileLines layout (before ++ line :: after)).diagnostics

/-- A line of a loop that is not closed, the one that opens it included: the next loop
marker behind it opens another loop, or there is none. -/
def InDiscardedLoop : Prop :=
  (latestMarker? (before ++ [line])).any Statement.isLoopStart ∧ nextMarker? after ≠ some .loopEnd

/-- A line that is set aside as a whole. -/
inductive Rejected : Prop where
  /-- An instruction without room. -/
  | frameOverflow (hwritten : (Statement.ofLine line).instruction?.isSome)
      (hremark : Remarked layout before line after .frameOverflow)
  /-- An instruction outside all loops whose range ends before it starts. -/
  | emptyRange (hwritten : (Statement.ofLine line).instruction?.isSome)
      (hremark : Remarked layout before line after .emptyRange)
      (hopen : (Progress.start.run layout before).openLoop.isNone)
  /-- A loop end without a loop. -/
  | strayLoopEnd (hend : Statement.ofLine line = .loopEnd)
      (hremark : Remarked layout before line after .strayLoopEnd)
  /-- A line of a loop that is never closed. -/
  | discarded (hdiscarded : InDiscardedLoop before line after)

/-- The ways in which a line is rejected, as a condition that can be decided. -/
theorem rejected_iff : Rejected layout before line after ↔
    ((Statement.ofLine line).instruction?.isSome ∧
      (Remarked layout before line after .frameOverflow ∨
        Remarked layout before line after .emptyRange ∧
          (Progress.start.run layout before).openLoop.isNone)) ∨
    (Statement.ofLine line = .loopEnd ∧ Remarked layout before line after .strayLoopEnd) ∨
    InDiscardedLoop before line after := by
  constructor
  · intro h
    cases h with
    | frameOverflow hwritten hremark => exact .inl ⟨hwritten, .inl hremark⟩
    | emptyRange hwritten hremark hopen => exact .inl ⟨hwritten, .inr ⟨hremark, hopen⟩⟩
    | strayLoopEnd hend hremark => exact .inr (.inl ⟨hend, hremark⟩)
    | discarded hdiscarded => exact .inr (.inr hdiscarded)
  · rintro (⟨hwritten, hremark | ⟨hremark, hopen⟩⟩ | ⟨hend, hremark⟩ | hdiscarded)
    · exact .frameOverflow hwritten hremark
    · exact .emptyRange hwritten hremark hopen
    · exact .strayLoopEnd hend hremark
    · exact .discarded hdiscarded

instance (remark : Remark) : Decidable (Remarked layout before line after remark) :=
  inferInstanceAs (Decidable (_ ∈ _))

instance : Decidable (InDiscardedLoop before line after) :=
  inferInstanceAs (Decidable (_ ∧ _))

instance : Decidable (Rejected layout before line after) :=
  decidable_of_iff' _ (rejected_iff layout before line after)

end

/-- Lines behind `before`, and others that are the same except that a blank line stands
for each rejected one. Behind the last of the others no more rejected lines need to be
blank, because a text has no line behind its last line feed. -/
def Cleaned (layout : Layout) (before : List (List Char)) :
    List (List Char) → List (List Char) → Prop
  | [], others => others = []
  | line :: after, [] =>
    Rejected layout before line after ∧ Cleaned layout (before ++ [line]) after []
  | line :: after, other :: others =>
    (if Rejected layout before line after then isBlank other = true else other = line) ∧
      Cleaned layout (before ++ [line]) after others

instance (layout : Layout) : ∀ before lines others, Decidable (Cleaned layout before lines others)
  | _, [], others => inferInstanceAs (Decidable (others = []))
  | before, line :: after, [] =>
    have := instDecidableCleaned layout (before ++ [line]) after []
    inferInstanceAs (Decidable (_ ∧ _))
  | before, line :: after, _ :: others =>
    have := instDecidableCleaned layout (before ++ [line]) after others
    inferInstanceAs (Decidable (_ ∧ _))

/-! ## 2. What a rejected line does -/

/-- A line is remarked on when it is compiled, behind the lines in front of it. -/
theorem remarked_iff {layout : Layout} {before : List (List Char)} {line : List Char}
    {after : List (List Char)} {remark : Remark} (hremark : remark ≠ .unterminatedLoop) :
    Remarked layout before line after remark ↔
      remark ∈ ((Progress.start.run layout before).step layout line).2 := by
  -- in front of the line, at the line, behind it, and at the end of the script
  rw [Remarked, Progress.diagnostics_compileLines, Progress.steps_snd_append, Nat.add_comm 1,
    Progress.steps]
  dsimp only
  simp only [List.mem_append, List.mem_map, Diagnostic.mk.injEq, true_and, exists_eq_right]
  constructor
  · rintro ((hbefore | hline | hafter) | hend)
    · -- lines in front have smaller numbers, and lines behind greater ones
      have := Progress.line_of_mem_steps hbefore
      dsimp only at this
      omega
    · exact hline
    · have := Progress.line_of_mem_steps hafter
      dsimp only at this
      omega
    · split at hend
      · rw [List.mem_singleton, Diagnostic.mk.injEq] at hend
        exact absurd hend.2 hremark
      · cases hend
  · intro hline
    exact .inl (.inr (.inl hline))

namespace Progress

/-- An instruction that is dropped for want of room leaves the state as it was. -/
theorem play_of_frameOverflow {progress : Progress} {cue : Cue}
    (h : .frameOverflow ∈ (progress.play cue).2) : (progress.play cue).1 = progress := by
  rw [play] at h ⊢
  cases hrange : cue.range with
  | none => rfl
  | some range =>
    rw [hrange] at h
    dsimp only at h
    split at h <;> simp at h

/-- Outside loops an empty range has no cursor to move. -/
theorem play_of_emptyRange {progress : Progress} (hopen : progress.openLoop = none) {cue : Cue}
    (h : .emptyRange ∈ (progress.play cue).2) : (progress.play cue).1 = progress := by
  obtain ⟨timeline, _⟩ := progress
  obtain rfl := hopen
  rw [play] at h ⊢
  cases hrange : cue.range with
  | none => rfl
  | some range =>
    rw [hrange] at h
    dsimp only at h ⊢
    split at h
    · rename_i hempty
      rw [if_pos hempty]
      rfl
    · simp at h

/-- A loop end is a stray one only where no loop is open. -/
theorem openLoop_of_strayLoopEnd {progress : Progress}
    (h : .strayLoopEnd ∈ progress.leaveLoop.2) : progress.openLoop = none := by
  rw [leaveLoop] at h
  cases hopen : progress.openLoop with
  | none => rfl
  | some loop =>
    rw [hopen] at h
    dsimp only at h
    split at h <;> simp at h

/-! ## 3. The run of what is left -/

/-- The state of a run in front of some lines, and that of the run of what is left of
it. A loop that the lines do not close is open in the first one only. -/
structure Mirrors (lines : List (List Char)) (whole left : Progress) : Prop where
  timeline : left.timeline = whole.timeline
  openLoop : left.openLoop = if nextMarker? lines = some .loopEnd then whole.openLoop else none

/-- The two runs are in the same state where the whole one has no loop open that is not closed. -/
theorem Mirrors.eq {lines : List (List Char)} {whole left : Progress} (h : Mirrors lines whole left)
    (hopen : nextMarker? lines = some .loopEnd ∨ whole.openLoop = none) : left = whole := by
  obtain ⟨timeline, openLoop⟩ := left
  obtain ⟨htimeline, hloop⟩ := h
  obtain rfl : timeline = whole.timeline := htimeline
  have hsame : openLoop = whole.openLoop := by
    rcases hopen with hcloses | hnone
    · rw [if_pos hcloses] at hloop
      exact hloop
    · rw [hnone, ite_self] at hloop
      exact hloop.trans hnone.symm
  rw [hsame]

/-- A run is its own mirror where every loop that is open will be closed. -/
theorem mirrors_self {lines : List (List Char)} {progress : Progress}
    (hopen : nextMarker? lines = some .loopEnd ∨ progress.openLoop = none) :
    Mirrors lines progress progress := by
  refine ⟨rfl, ?_⟩
  rcases hopen with hcloses | hnone
  · rw [if_pos hcloses]
  · rw [hnone, ite_self]

section

variable {layout : Layout} {before : List (List Char)} {line : List Char} {after : List (List Char)}
  {left : Progress}

/-- Outside a discarded loop a loop that is open is closed by the next marker. -/
theorem closes_or_closed (layout : Layout) (hline : (Statement.ofLine line).isLoopMarker = false)
    (hkept : ¬InDiscardedLoop before line after) :
    nextMarker? after = some .loopEnd ∨ (start.run layout before).openLoop = none := by
  by_cases hnext : nextMarker? after = some .loopEnd
  · exact .inl hnext
  · right
    -- a loop that is open here and not closed next is a discarded one
    rw [← Option.not_isSome_iff_eq_none, isSome_openLoop_run]
    intro hstart
    refine hkept ⟨?_, hnext⟩
    rw [latestMarker?_concat, hline]
    exact hstart

/-- A line of a discarded loop changes nothing but the loop. -/
theorem Mirrors.discard (h : Mirrors (line :: after) (start.run layout before) left)
    (hdiscarded : InDiscardedLoop before line after) :
    Mirrors after ((start.run layout before).step layout line).1 left := by
  obtain ⟨hstart, hnext⟩ := hdiscarded
  obtain ⟨htimeline, hloop⟩ := h
  rw [latestMarker?_concat] at hstart
  rw [nextMarker?_cons] at hloop
  rw [step]
  cases hstatement : Statement.ofLine line with
  | loopStart repetitions =>
    rw [hstatement] at hloop
    exact ⟨htimeline, hloop.trans (if_neg hnext).symm⟩
  | loopEnd =>
    rw [hstatement] at hstart
    cases hstart
  | instruction written =>
    rw [hstatement] at hstart hloop
    refine ⟨htimeline.trans ?_, hloop.trans ((if_neg hnext).trans (if_neg hnext).symm)⟩
    -- the loop is open, because it is the latest marker that opens it
    have hsome : (start.run layout before).openLoop.isSome = true :=
      (isSome_openLoop_run layout before).trans hstart
    obtain ⟨loop, hopen⟩ := Option.isSome_iff_exists.1 hsome
    generalize start.run layout before = progress at *
    obtain ⟨timeline, _⟩ := progress
    obtain rfl := hopen
    obtain ⟨next, hplay⟩ := play_inside loop (written.resolve loop.cursor layout)
    exact (congrArg Progress.timeline (hplay timeline)).symm
  | ignored =>
    rw [hstatement] at hloop
    exact ⟨htimeline, hloop⟩

/-- A line that is set aside by itself changes nothing at all, and outside loops it may
be one that ends a loop. -/
theorem step_of_rejected (hrejected : Rejected layout before line after)
    (hkept : ¬InDiscardedLoop before line after) :
    ((start.run layout before).step layout line).1 = start.run layout before ∧
      ((Statement.ofLine line).isLoopMarker = false ∨
        (start.run layout before).openLoop = none) := by
  -- the remark says which branch of the step was taken, and that branch changes nothing
  cases hrejected with
  | frameOverflow hwritten hremark =>
    obtain ⟨written, hstatement⟩ := Statement.exists_of_isSome_instruction? hwritten
    rw [remarked_iff (by decide), step, hstatement] at hremark
    rw [step, hstatement]
    exact ⟨play_of_frameOverflow hremark, .inl rfl⟩
  | emptyRange hwritten hremark hopen =>
    obtain ⟨written, hstatement⟩ := Statement.exists_of_isSome_instruction? hwritten
    rw [remarked_iff (by decide), step, hstatement] at hremark
    rw [step, hstatement]
    exact ⟨play_of_emptyRange (Option.isNone_iff_eq_none.1 hopen) hremark, .inl rfl⟩
  | strayLoopEnd hend hremark =>
    rw [remarked_iff (by decide), step, hend] at hremark
    have hopen := openLoop_of_strayLoopEnd hremark
    refine ⟨?_, .inr hopen⟩
    rw [step, hend]
    dsimp only
    rw [leaveLoop, hopen]
  | discarded hdiscarded => exact absurd hdiscarded hkept

/-- A blank line in the place of a rejected one. -/
theorem Mirrors.reject (h : Mirrors (line :: after) (start.run layout before) left)
    (hrejected : Rejected layout before line after) :
    Mirrors after ((start.run layout before).step layout line).1 left := by
  -- in a discarded loop the whole run goes on by itself; elsewhere neither run moves
  by_cases hdiscarded : InDiscardedLoop before line after
  · exact h.discard hdiscarded
  obtain ⟨hstep, hline⟩ := step_of_rejected hrejected hdiscarded
  rw [hstep]
  rcases hline with hline | hopen
  · obtain ⟨htimeline, hloop⟩ := h
    rw [nextMarker?_cons, hline] at hloop
    exact ⟨htimeline, hloop⟩
  · rw [h.eq (.inr hopen)]
    exact mirrors_self (.inr hopen)

/-- The same line in both runs. -/
theorem Mirrors.keep (h : Mirrors (line :: after) (start.run layout before) left)
    (hkept : ¬Rejected layout before line after) :
    Mirrors after ((start.run layout before).step layout line).1 (left.step layout line).1 := by
  have houtside : ¬InDiscardedLoop before line after := fun h => hkept (.discarded h)
  cases hstatement : Statement.ofLine line with
  | loopStart repetitions =>
    -- the next marker closes the loop that opens here
    have hnext : nextMarker? after = some .loopEnd := by
      refine Decidable.byContradiction fun hnext => houtside ⟨?_, hnext⟩
      rw [latestMarker?_concat, hstatement]
      rfl
    rw [step, step, hstatement]
    exact ⟨h.timeline, (if_pos hnext).symm⟩
  | loopEnd =>
    have hsame := h.eq (.inl (by rw [nextMarker?_cons, hstatement]; rfl))
    rw [hsame, step, hstatement]
    exact mirrors_self (.inr (openLoop_leaveLoop _))
  | instruction written =>
    have hline : (Statement.ofLine line).isLoopMarker = false := by rw [hstatement]; rfl
    -- so the two runs have the same loop open, or none
    have hcases := closes_or_closed layout hline houtside
    have hsame := h.eq (by rw [nextMarker?_cons, hline]; exact hcases)
    rw [hsame]
    refine mirrors_self (hcases.imp_right fun hopen => ?_)
    rw [step, hstatement, ← Option.not_isSome_iff_eq_none]
    dsimp only
    rw [isSome_openLoop_play, hopen]
    exact Bool.false_ne_true
  | ignored =>
    obtain ⟨htimeline, hloop⟩ := h
    rw [nextMarker?_cons, hstatement] at hloop
    rw [step, step, hstatement]
    exact ⟨htimeline, hloop⟩

end

/-- Any lines, cleaned of the rejected ones. -/
theorem timeline_run_of_cleaned {layout : Layout} {lines : List (List Char)} :
    ∀ {before others left}, Cleaned layout before lines others →
      Mirrors lines (start.run layout before) left →
      (left.run layout others).timeline = (start.run layout (before ++ lines)).timeline := by
  -- the line that the induction takes off is added to those in front
  induction lines with
  | nil =>
    intro before others left hcleaned h
    obtain rfl := hcleaned
    rw [List.append_nil]
    exact h.timeline
  | cons line after ih =>
    intro before others left hcleaned h
    have hstep := run_concat layout start before line
    rw [List.append_cons]
    cases others with
    | nil =>
      -- nothing but rejected lines is left, and no blank ones for them
      obtain ⟨hrejected, hrest⟩ := hcleaned
      refine ih hrest ?_
      rw [hstep]
      exact h.reject hrejected
    | cons other others =>
      obtain ⟨hother, hrest⟩ := hcleaned
      rw [run_cons]
      refine ih hrest ?_
      rw [hstep]
      by_cases hrejected : Rejected layout before line after
      · rw [if_pos hrejected] at hother
        rw [show (left.step layout other).1 = left by rw [step, ofLine_of_isBlank hother]]
        exact h.reject hrejected
      · rw [if_neg hrejected] at hother
        rw [hother]
        exact h.keep hrejected

end Progress

/-- **Rejected lines leave no trace.** Put blank lines, all at once, in the place of the
instructions that are dropped for want of room, of those outside a loop whose range ends
before it starts, of the loop ends without a loop, and of the loops that are never
closed. The timeline is the same. -/
theorem compile_cleaned (layout : Layout) (script cleaned : String)
    (h : Cleaned layout [] (lines script.toList) (lines cleaned.toList)) :
    (compile layout cleaned).timeline = (compile layout script).timeline := by
  rw [compile, compile, Progress.timeline_compileLines, Progress.timeline_compileLines]
  exact Progress.timeline_run_of_cleaned h (Progress.mirrors_self (.inr rfl))

/-- Two loops are discarded, one for another loop and one at the end; the range of line 5
ends before it starts too, but moves the cursor of a loop that counts. -/
theorem compile_cleaned_loops :
    let layout := Layout.standard .builtIn
    let script := "0-1 A\n2x\x7b\n+1 B\n3x\x7b\n9-3 X\n9223372036854775808 Y\n+1 Y\n\x7d\n\x7d\n" ++
      "5-2 A\n+9223372036854775807 A\n+0 X\n2x\x7b\n+0 A\n8-3 B\n"
    let cleaned := "0-1 A\n\n \n3x\x7b\n9-3 X\n\t\n+1 Y\n\x7d\n\n\n\n+0 X\n"
    Cleaned layout [] (lines script.toList) (lines cleaned.toList) ∧
      (compile layout script).diagnostics =
        [⟨4, .nestedLoop⟩, ⟨5, .emptyRange⟩, ⟨6, .frameOverflow⟩, ⟨9, .strayLoopEnd⟩,
          ⟨10, .emptyRange⟩, ⟨11, .frameOverflow⟩, ⟨15, .emptyRange⟩, ⟨15, .unterminatedLoop⟩] ∧
      (compile layout cleaned).diagnostics = [⟨5, .emptyRange⟩] ∧
      ((compile layout cleaned).timeline.frames.map fun entry => (entry.1, entry.2.buttons.codes)) =
        [(0, [1]), (1, [1]), (6, [4]), (11, [4]), (16, [4]), (17, [3])] ∧
      (compile layout cleaned).timeline = (compile layout script).timeline := by
  intro layout script cleaned
  have hcleaned : Cleaned layout [] (lines script.toList) (lines cleaned.toList) := by
    decide +kernel
  exact ⟨hcleaned, by decide +kernel, by decide +kernel, by decide +kernel,
    compile_cleaned layout script cleaned hcleaned⟩

end InputScript.Compile
