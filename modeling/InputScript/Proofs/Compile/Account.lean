/-
What the diagnostics account for.

Nothing is set aside in silence. What is remarked on at a line (`note`) follows from what
the line says and from the lines in front of it: whether one of them has left a loop open,
and where the cursor is. The diagnostics of a script are these remarks, line after line, and
one more if a loop is still open at the end. The loops of a script add up: each line that
opens one is answered by a loop end, by another line that opens one, or by the end of the
script.
-/
import InputScript.Proofs.Compile.Markers
import InputScript.Proofs.Timeline.Replay

set_option autoImplicit false

namespace InputScript.Timeline.OpenLoop

/-! ## 1. Passes without room -/

/-- Whether the passes that a loop asks for would end past the highest frame. Each of
them moves the cursor by the span of the body, and a loop that wrote nothing has none. -/
def overruns (loop : OpenLoop) (timeline : Timeline) : Bool :=
  loop.highest.any fun highest =>
    maxFrame.toNat < timeline.lastFrame.toInt + loop.repetitions.toNat * (highest.toNat + 1)

/-- All the passes fit when the last of them ends on the highest frame or in front of it. -/
theorem fittingPasses_eq_iff {timeline : Timeline} (h : timeline.Anchored) (count : Nat)
    (highest : UInt64) :
    fittingPasses count timeline.extent highest = count ↔
      timeline.lastFrame.toInt + count * (highest.toNat + 1) ≤ maxFrame.toNat := by
  have hpos : (0 : Int) < highest.toNat + 1 := by omega
  have hfitting := fittingPasses_eq h count highest
  -- the count of passes that fit is a quotient, and the room that they need a product
  have hroom : (count : Int) ≤ (maxFrame.toNat - timeline.lastFrame.toInt) / (highest.toNat + 1) ↔
      count * ((highest.toNat : Int) + 1) ≤ maxFrame.toNat - timeline.lastFrame.toInt :=
    Int.le_ediv_iff_mul_le hpos
  omega

/-- A replay is complete unless the loop asks for too much. -/
theorem Anchored.replay_snd {loop : OpenLoop} (h : loop.Anchored) {timeline : Timeline}
    (htimeline : timeline.Anchored) : (loop.replay timeline).2 = !loop.overruns timeline := by
  -- a loop that wrote nothing has no passes to leave out
  rw [OpenLoop.replay, overruns]
  cases hhighest : loop.highest with
  | none => rfl
  | some highest =>
    obtain ⟨-, hcomplete, -⟩ := passes_closed_form htimeline (h.highest_eq ▸ hhighest)
      (h.highest_le hhighest) loop.repetitions.toNat
    dsimp only
    rw [hcomplete, Option.any_some, ← decide_not]
    apply decide_eq_decide.2
    rw [fittingPasses_eq_iff htimeline, Int.not_lt]

end InputScript.Timeline.OpenLoop

namespace InputScript.Compile

open InputScript.Pad InputScript.Script InputScript.Text InputScript.Timeline

/-! ## 2. The remarks on a line

A line is given with the lines in front of it. -/

/-- Whether a loop is open behind some lines: the last of their markers opens one. -/
def inLoop (before : List (List Char)) : Bool :=
  (latestMarker? before).any Statement.isLoopStart

/-- What is to be said about the range of an instruction. -/
def rangeRemarks (span : Span) : List Remark :=
  if ¬span.Fits then [.frameOverflow]
  else if span.stop ≤ span.start then [.emptyRange]
  else []

/-- What is to be said about a line. -/
def remarksOn (layout : Layout) (before : List (List Char)) (line : List Char) : List Remark :=
  let reached := Progress.start.run layout before
  match Statement.ofLine line with
  | .ignored => if isBlank line then [] else [.ignoredLine]
  | .instruction written =>
    (written.buttons.filter fun token => (layout.code? token).isNone).map .unknownButton ++
      rangeRemarks (written.frames.span reached.base.toNat)
  | .loopStart _ => if inLoop before then [.nestedLoop] else []
  | .loopEnd =>
    if ¬inLoop before then [.strayLoopEnd]
    else if reached.openLoop.any fun loop => loop.overruns reached.timeline then [.frameOverflow]
    else []

namespace Progress

/-- Whether the compiler has a loop open is a matter of the markers among the lines alone. -/
theorem isSome_openLoop_eq_inLoop (layout : Layout) (before : List (List Char)) :
    (start.run layout before).openLoop.isSome = inLoop before :=
  isSome_openLoop_run layout before

/-- An instruction line remarks on its unknown tokens, in the order written, and then on its
range. -/
theorem play_snd (progress : Progress) (written : Instruction) (layout : Layout) :
    (progress.play (written.resolve progress.base layout)).2 =
      (written.buttons.filter fun token => (layout.code? token).isNone).map .unknownButton ++
        rangeRemarks (written.frames.span progress.base.toNat) := by
  rcases play_cases progress written layout with
    ⟨hfits, hplay⟩ | ⟨range, hspan, hfits, ⟨hrange, hplay⟩ | ⟨hrange, hplay⟩⟩
  · -- dropped, since the range passes the highest frame
    rw [hplay, rangeRemarks, if_pos hfits]
    rfl
  · -- there is room, but no frame in the range
    have hempty : range.span.stop ≤ range.span.start := by
      refine Nat.not_lt.1 fun hlt => ?_
      rw [FrameRange.isEmpty_eq_false_iff.2 hlt] at hrange
      cases hrange
    rw [hplay, rangeRemarks, hspan, if_neg (not_not.2 hfits), if_pos hempty]
    rfl
  · -- the range is written, and nothing is said about it
    have hholds : ¬range.span.stop ≤ range.span.start :=
      Nat.not_le.2 (FrameRange.isEmpty_eq_false_iff.1 hrange)
    rw [hplay, rangeRemarks, hspan, if_neg (not_not.2 hfits), if_neg hholds, List.append_nil]
    rfl

/-- A loop end remarks on a loop that is not there, or on passes for which there is no room. -/
theorem leaveLoop_snd {progress : Progress} (h : progress.Anchored) :
    progress.leaveLoop.2 =
      if ¬progress.openLoop.isSome then [.strayLoopEnd]
      else if progress.openLoop.any fun loop => loop.overruns progress.timeline then
        [.frameOverflow]
      else [] := by
  rw [leaveLoop]
  cases hopen : progress.openLoop with
  | none => rfl
  | some loop =>
    have hcomplete := (h.openLoop loop hopen).replay_snd h.timeline
    dsimp only
    rw [hcomplete, Option.any_some]
    cases loop.overruns progress.timeline with
    | true => rfl
    | false => rfl

/-- The step behind some lines remarks on what there is to be said about a line. -/
theorem step_snd (layout : Layout) (before : List (List Char)) (line : List Char) :
    ((start.run layout before).step layout line).2 = remarksOn layout before line := by
  -- the state says whether a loop is open, the remarks ask the lines
  have hopen := isSome_openLoop_eq_inLoop layout before
  rw [step, remarksOn]
  cases Statement.ofLine line with
  | loopStart repetitions =>
    dsimp only
    rw [← hopen]
    rfl
  | loopEnd =>
    dsimp only
    rw [← hopen]
    exact leaveLoop_snd (anchored_start.run layout before)
  | instruction written => exact play_snd _ written layout
  | ignored => rfl

end Progress

/-! ## 3. The remarks on a script -/

/-- Something about each line of a text, given the lines in front of it. -/
def eachLine {α : Type} (about : List (List Char) → List Char → α) (text : List (List Char)) :
    List α :=
  text.mapIdx fun i line => about (text.take i) line

/-- A line more is one more thing to say; what was said about the lines in front stays. -/
theorem eachLine_concat {α : Type} (about : List (List Char) → List Char → α)
    (front : List (List Char)) (last : List Char) :
    eachLine about (front ++ [last]) = eachLine about front ++ [about front last] := by
  -- the lines in front of an early line are the same in the longer text
  have hfront : front.mapIdx (fun i line => about ((front ++ [last]).take i) line) =
      front.mapIdx fun i line => about (front.take i) line := by
    apply List.mapIdx_eq_mapIdx_iff.2
    intro i hi
    rw [List.take_append_of_le_length (Nat.le_of_lt hi)]
  rw [eachLine, List.mapIdx_concat, hfront, List.take_left]
  rfl

/-- The remarks on a line under its number. -/
def diagnosticsOn (layout : Layout) (before : List (List Char)) (line : List Char) :
    List Diagnostic :=
  (remarksOn layout before line).map (Diagnostic.mk (before.length + 1))

namespace Progress

/-- The diagnostics of the steps are the remarks on each line, one line after the other. -/
theorem steps_snd (layout : Layout) (text : List (List Char)) :
    (start.steps layout 1 text).2 = (eachLine (diagnosticsOn layout) text).flatten := by
  -- line by line from the front, so that the last line is the one that is added
  induction text using List.reverseRecOn with
  | nil => rfl
  | append_singleton front last ih =>
    have hlast : ((start.run layout front).step layout last).2.map
        (Diagnostic.mk (1 + front.length)) = diagnosticsOn layout front last := by
      rw [step_snd, diagnosticsOn, Nat.add_comm 1]
    rw [steps_snd_concat, hlast, ih, eachLine_concat, List.flatten_append, List.flatten_singleton]

end Progress

/-! ## 4. Loops -/

/-- Whether a line closes a loop. -/
def closesLoop (before : List (List Char)) (line : List Char) : Bool :=
  Statement.ofLine line = .loopEnd && inLoop before

/-- How many lines close a loop. -/
def closedLoops (text : List (List Char)) : Nat :=
  (eachLine closesLoop text).count true

/-- How often some diagnostics make a remark. -/
def remarkCount (remark : Remark) (diagnostics : List Diagnostic) : Nat :=
  (diagnostics.map Diagnostic.remark).count remark

theorem remarkCount_append (remark : Remark) (first second : List Diagnostic) :
    remarkCount remark (first ++ second) =
      remarkCount remark first + remarkCount remark second := by
  simp [remarkCount]

/-- The number that a line is given does not change how often it is remarked on. -/
theorem remarkCount_diagnosticsOn (layout : Layout) (before : List (List Char)) (line : List Char)
    (remark : Remark) :
    remarkCount remark (diagnosticsOn layout before line) =
      (remarksOn layout before line).count remark := by
  have hremark : Diagnostic.remark ∘ Diagnostic.mk (before.length + 1) = id := rfl
  rw [remarkCount, diagnosticsOn, List.map_map, hremark, List.map_id]

/-- A line more closes one loop more or none. -/
theorem closedLoops_concat (front : List (List Char)) (last : List Char) :
    closedLoops (front ++ [last]) = closedLoops front + (closesLoop front last).toNat := by
  rw [closedLoops, eachLine_concat, List.count_append, List.count_singleton]
  cases closesLoop front last <;> rfl

/-- A marker settles whether a loop is open behind it, and any other line leaves that as it is. -/
theorem inLoop_concat (before : List (List Char)) (line : List Char) :
    inLoop (before ++ [line]) =
      if (Statement.ofLine line).isLoopMarker then (Statement.ofLine line).isLoopStart
      else inLoop before := by
  rw [inLoop, latestMarker?_concat]
  split <;> rfl

/-- An instruction is not remarked on as a loop would be. -/
theorem count_instructionRemarks {remark : Remark}
    (h : remark = .nestedLoop ∨ remark = .strayLoopEnd) (tokens : List String) (span : Span) :
    (tokens.map Remark.unknownButton ++ rangeRemarks span).count remark = 0 := by
  apply List.count_eq_zero.2
  simp only [rangeRemarks, List.mem_append, List.mem_map, not_or]
  rcases h with rfl | rfl
  · refine ⟨by simp, ?_⟩
    split_ifs <;> simp
  · refine ⟨by simp, ?_⟩
    split_ifs <;> simp

/-- A line is remarked on as a nested loop when it opens a loop inside another. -/
theorem count_nestedLoop (layout : Layout) (before : List (List Char)) (line : List Char) :
    (remarksOn layout before line).count .nestedLoop =
      ((Statement.ofLine line).isLoopStart && inLoop before).toNat := by
  rw [remarksOn]
  cases Statement.ofLine line with
  | loopStart repetitions => cases inLoop before <;> rfl
  | loopEnd =>
    dsimp only
    split_ifs <;> rfl
  | instruction written => exact count_instructionRemarks (.inl rfl) _ _
  | ignored =>
    dsimp only
    split_ifs <;> rfl

/-- A line is remarked on as a stray end when it ends a loop and none is open. -/
theorem count_strayLoopEnd (layout : Layout) (before : List (List Char)) (line : List Char) :
    (remarksOn layout before line).count .strayLoopEnd =
      (Statement.ofLine line = .loopEnd && !inLoop before).toNat := by
  rw [remarksOn]
  cases Statement.ofLine line with
  | loopStart repetitions => cases inLoop before <;> rfl
  | loopEnd =>
    cases inLoop before with
    | false => rfl
    | true =>
      dsimp only
      rw [if_neg (not_not.2 rfl)]
      split_ifs <;> rfl
  | instruction written => exact count_instructionRemarks (.inr rfl) _ _
  | ignored =>
    dsimp only
    split_ifs <;> rfl

/-- A line that opens a loop finds one open, and remarks on it, or leaves one more open
than there was. A line that closes one leaves one less. -/
theorem loopStart_balance (layout : Layout) (before : List (List Char)) (line : List Char) :
    [line].countP (fun line => (Statement.ofLine line).isLoopStart) + (inLoop before).toNat =
      (remarksOn layout before line).count .nestedLoop + (closesLoop before line).toNat +
        (inLoop (before ++ [line])).toNat := by
  -- four kinds of lines, inside a loop and outside one
  rw [List.countP_singleton, count_nestedLoop, inLoop_concat, closesLoop]
  cases Statement.ofLine line <;> cases inLoop before <;> rfl

/-- A loop end closes a loop, or is remarked on. -/
theorem loopEnd_balance (layout : Layout) (before : List (List Char)) (line : List Char) :
    [line].countP (fun line => Statement.ofLine line = .loopEnd) =
      (closesLoop before line).toNat + (remarksOn layout before line).count .strayLoopEnd := by
  rw [List.countP_singleton, count_strayLoopEnd, closesLoop]
  cases Statement.ofLine line <;> cases inLoop before <;> rfl

/-- The loops of some lines add up. -/
theorem loops_balance (layout : Layout) (text : List (List Char)) :
    let found := (Progress.start.steps layout 1 text).2
    text.countP (fun line => (Statement.ofLine line).isLoopStart) =
        remarkCount .nestedLoop found + closedLoops text + (inLoop text).toNat ∧
      text.countP (fun line => Statement.ofLine line = .loopEnd) =
        closedLoops text + remarkCount .strayLoopEnd found := by
  dsimp only
  rw [Progress.steps_snd]
  induction text using List.reverseRecOn with
  | nil => exact ⟨rfl, rfl⟩
  | append_singleton front last ih =>
    -- what the last line adds on either side
    have hstart := loopStart_balance layout front last
    have hend := loopEnd_balance layout front last
    obtain ⟨hstarts, hends⟩ := ih
    rw [eachLine_concat, List.flatten_append, List.flatten_singleton, remarkCount_append,
      remarkCount_append, remarkCount_diagnosticsOn, remarkCount_diagnosticsOn,
      closedLoops_concat, List.countP_append, List.countP_append]
    constructor
    · omega
    · omega

/-! ## 5. Scripts -/

/-- What is remarked on at the end of a script. -/
def atEnd (text : List (List Char)) : List Diagnostic :=
  if inLoop text then [⟨text.length, .unterminatedLoop⟩] else []

/-- The diagnostics of a script are those of its lines and then the one of its end. -/
theorem diagnostics_eq_append_atEnd (layout : Layout) (text : List (List Char)) :
    (compileLines layout text).diagnostics =
      (Progress.start.steps layout 1 text).2 ++ atEnd text := by
  rw [Progress.diagnostics_compileLines, Progress.isSome_openLoop_eq_inLoop]
  rfl

/-- The end of a script is remarked on only for an open loop, and under the last line. -/
theorem mem_atEnd {text : List (List Char)} {diagnostic : Diagnostic} :
    diagnostic ∈ atEnd text ↔
      inLoop text = true ∧ diagnostic = ⟨text.length, .unterminatedLoop⟩ := by
  rw [atEnd]
  split_ifs with hopen <;> simp [hopen]

/-- No loop is open without a line that opened it. -/
theorem length_pos_of_inLoop {text : List (List Char)} (h : inLoop text = true) :
    0 < text.length := by
  refine List.length_pos_iff.2 ?_
  rintro rfl
  cases h

/-- At the end there is one remark if a loop is open, and it is about that loop. -/
theorem remarkCount_atEnd (remark : Remark) (text : List (List Char)) :
    remarkCount remark (atEnd text) =
      if remark = .unterminatedLoop then (inLoop text).toNat else 0 := by
  rw [atEnd]
  cases inLoop text with
  | false => simp [remarkCount]
  | true =>
    rw [if_pos rfl, remarkCount, List.map_singleton, List.count_singleton]
    by_cases h : remark = .unterminatedLoop
    · simp [h]
    · simp [h, Ne.symm h]

/-- No single line is remarked on for a loop that is never closed. -/
theorem remarkCount_unterminatedLoop_steps (layout : Layout) (text : List (List Char)) :
    remarkCount .unterminatedLoop (Progress.start.steps layout 1 text).2 = 0 := by
  refine List.count_eq_zero.2 fun hmem => ?_
  obtain ⟨diagnostic, hdiagnostic, hremark⟩ := List.mem_map.1 hmem
  exact Progress.remark_of_mem_steps hdiagnostic hremark

/-- **Every tolerated line is accounted for.** The diagnostics of a script are the remarks
on its lines under their numbers, line after line, and at the end one about a loop that is
still open. So they come in the order of the lines. Each line that opens a loop is followed
by the one that closes it, or is remarked on where another loop starts or the script ends,
and a loop end that closes no loop is remarked on as well. -/
theorem compile_accounts (layout : Layout) (script : String) :
    let text := lines script.toList
    let found := (compile layout script).diagnostics
    found = (eachLine (diagnosticsOn layout) text).flatten ++ atEnd text ∧
      found.Pairwise (fun earlier later => earlier.line ≤ later.line) ∧
      (∀ diagnostic ∈ found, 1 ≤ diagnostic.line ∧ diagnostic.line ≤ text.length) ∧
      text.countP (fun line => (Statement.ofLine line).isLoopStart) =
        remarkCount .nestedLoop found + remarkCount .unterminatedLoop found +
          closedLoops text ∧
      text.countP (fun line => Statement.ofLine line = .loopEnd) =
        closedLoops text + remarkCount .strayLoopEnd found := by
  intro text found
  have hfound : found = (Progress.start.steps layout 1 text).2 ++ atEnd text :=
    diagnostics_eq_append_atEnd layout text
  obtain ⟨hstarts, hends⟩ := loops_balance layout text
  rw [hfound]
  refine ⟨by rw [Progress.steps_snd], ?_, ?_, ?_, ?_⟩
  · -- the one about an open loop names the last line, and comes last
    refine List.pairwise_append.2 ⟨Progress.pairwise_steps layout _ 1 text, ?_, ?_⟩
    · rw [atEnd]
      split_ifs <;> simp
    · intro earlier hearlier later hlater
      obtain ⟨-, rfl⟩ := mem_atEnd.1 hlater
      have := Progress.line_of_mem_steps hearlier
      dsimp only
      omega
  · intro diagnostic hdiagnostic
    rcases List.mem_append.1 hdiagnostic with hline | hend
    · have := Progress.line_of_mem_steps hline
      omega
    · obtain ⟨hopen, rfl⟩ := mem_atEnd.1 hend
      exact ⟨length_pos_of_inLoop hopen, Nat.le_refl _⟩
  · -- the loop that is left open is the one remark that the lines do not make
    have hnested := remarkCount_atEnd .nestedLoop text
    have hopen := remarkCount_atEnd .unterminatedLoop text
    have hnone := remarkCount_unterminatedLoop_steps layout text
    rw [remarkCount_append, remarkCount_append, hstarts, hnested, hopen, hnone, if_pos rfl,
      if_neg (by decide)]
    omega
  · rw [remarkCount_append, remarkCount_atEnd, if_neg (by decide), hends, Nat.add_zero]

end InputScript.Compile
