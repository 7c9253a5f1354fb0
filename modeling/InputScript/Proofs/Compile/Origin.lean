/-
Where the states of a timeline come from.

The compiler makes up no state: an instruction line resolves one, a range puts it on
frames or on the offsets of an open loop, and a pass copies what the loop has. So what
holds of the states of all instruction lines of a script holds of every state on its
timeline. The invariant is that of the run, with the open loop beside the timeline; it is
proved for one line of each kind and then for all lines by induction.
-/
import InputScript.Proofs.Compile.Placed

set_option autoImplicit false

namespace InputScript.Timeline

open InputScript.Pad

/-! ## 1. Tables -/

/-- All states of a table have the property. -/
def States.All (good : PadState → Prop) (states : States) : Prop :=
  ∀ (frame : UInt64) (state : PadState), states[frame]? = some state → good state

namespace States.All

variable {good : PadState → Prop} {states : States}

/-- An empty table has no states that could lack the property. -/
theorem empty : States.All good ∅ := by
  intro frame state hstate
  rw [Std.ExtTreeMap.getElem?_empty] at hstate
  cases hstate

/-- A write adds one state, on each frame of the range. -/
theorem writeRange (h : states.All good) {state : PadState} (hstate : good state)
    (range : FrameRange) : (writeRange range state states).All good := by
  intro frame found hfound
  rw [getElem?_writeRange] at hfound
  split at hfound
  · rw [← Option.some_inj.1 hfound]
    exact hstate
  · exact h frame found hfound

/-- A body that is laid out adds the states it has and no others. -/
theorem layOut {body : States} (hbody : body.All good) (h : states.All good) (anchor : UInt64) :
    (OpenLoop.layOut anchor body states).All good := by
  intro frame state hstate
  rw [OpenLoop.getElem?_layOut, Option.or_eq_some_iff] at hstate
  rcases hstate with hcopied | ⟨-, hkept⟩
  · -- a frame of the pass, which copies an offset of the body
    exact hbody _ state hcopied
  · -- a frame that the pass leaves alone
    exact h frame state hkept

end States.All

/-! ## 2. Replays -/

namespace OpenLoop

/-- A pass lays the body out somewhere, and does nothing else to the states. -/
theorem states_of_pass {body : States} {highest : UInt64} {timeline written : Timeline}
    (h : pass body highest timeline = some written) :
    ∃ anchor, written.states = layOut anchor body timeline.states := by
  simp only [pass, Option.bind_eq_bind, Option.bind_eq_some_iff] at h
  obtain ⟨anchor, -, last, -, hwritten⟩ := h
  cases hwritten
  exact ⟨anchor.toUInt64, rfl⟩

variable {good : PadState → Prop}

/-- No number of passes makes up a state. The induction is on the passes that are still to come. -/
theorem all_passes {body : States} (hbody : body.All good) (highest : UInt64) (count : Nat)
    {timeline : Timeline} (h : timeline.states.All good) :
    (passes body highest count timeline).1.states.All good := by
  induction count generalizing timeline with
  | zero => exact h
  | succ count ih =>
    rw [passes]
    cases hpass : pass body highest timeline with
    | none => exact h
    | some written =>
      obtain ⟨anchor, hstates⟩ := states_of_pass hpass
      apply ih
      rw [hstates]
      exact hbody.layOut h anchor

/-- Closing a loop puts its states on the timeline and nothing else. -/
theorem all_replay {loop : OpenLoop} (hloop : loop.states.All good) {timeline : Timeline}
    (h : timeline.states.All good) : (loop.replay timeline).1.states.All good := by
  rw [replay]
  cases loop.highest with
  | none => exact h
  | some highest => exact all_passes hloop highest _ h

end OpenLoop

end InputScript.Timeline

namespace InputScript.Compile

open InputScript.Pad InputScript.Script InputScript.Text InputScript.Timeline

/-! ## 3. Lines -/

namespace Progress

/-- All states so far have the property, those of an open loop included. -/
structure All (good : PadState → Prop) (progress : Progress) : Prop where
  timeline : progress.timeline.states.All good
  openLoop : ∀ loop, progress.openLoop = some loop → loop.states.All good

namespace All

variable {good : PadState → Prop}

theorem start : start.All good where
  timeline := States.All.empty
  openLoop := by rintro _ ⟨⟩

variable {progress : Progress} (h : progress.All good)
include h

/-- A loop end moves the states of the loop to the timeline. -/
theorem leaveLoop : progress.leaveLoop.1.All good := by
  rw [Progress.leaveLoop]
  cases hopen : progress.openLoop with
  | none => exact h
  | some loop =>
    exact ⟨OpenLoop.all_replay (h.openLoop loop hopen) h.timeline, by rintro _ ⟨⟩⟩

/-- A write puts the state on the timeline or into the open loop. -/
theorem write {state : PadState} (hstate : good state) (range : FrameRange) :
    (progress.write range state).All good := by
  rw [Progress.write]
  cases hopen : progress.openLoop with
  | none => exact ⟨h.timeline.writeRange hstate range, by rintro _ ⟨⟩⟩
  | some loop =>
    refine ⟨h.timeline, ?_⟩
    intro other hother
    obtain rfl := Option.some_inj.1 hother
    exact (h.openLoop loop hopen).writeRange hstate range

/-- An instruction line adds its own state or none. -/
theorem play (written : Instruction) (layout : Layout) (hstate : good (written.state layout)) :
    (progress.play (written.resolve progress.base layout)).1.All good := by
  rcases play_cases progress written layout with
    ⟨-, hplay⟩ | ⟨range, -, -, ⟨-, hplay⟩ | ⟨-, hplay⟩⟩
  · rw [hplay]
    exact h
  · rw [hplay]
    refine ⟨h.timeline, ?_⟩
    intro other hother
    obtain ⟨loop, hopen, rfl⟩ := Option.map_eq_some_iff.1 hother
    -- an empty range moves the cursor of the loop and leaves its states
    exact h.openLoop loop hopen
  · rw [hplay]
    exact h.write hstate range

/-- A line adds at most the state of the instruction it is. -/
theorem step (layout : Layout) {line : List Char}
    (hline : ∀ written, Statement.ofLine line = .instruction written →
      good (written.state layout)) : (progress.step layout line).1.All good := by
  rw [Progress.step]
  cases hstatement : Statement.ofLine line with
  | loopStart repetitions =>
    refine ⟨h.timeline, ?_⟩
    intro loop hloop
    obtain rfl := Option.some_inj.1 hloop
    exact States.All.empty
  | loopEnd => exact h.leaveLoop
  | instruction written => exact h.play written layout (hline written hstatement)
  | ignored => exact h

/-- What holds of the state of each instruction holds of every state behind the lines. -/
theorem run (layout : Layout) {lines : List (List Char)}
    (hlines : ∀ line ∈ lines, ∀ written, Statement.ofLine line = .instruction written →
      good (written.state layout)) : (progress.run layout lines).All good := by
  induction lines generalizing progress with
  | nil => exact h
  | cons line rest ih =>
    rw [run_cons]
    exact ih (h.step layout (hlines line List.mem_cons_self))
      fun other hother => hlines other (List.mem_cons_of_mem line hother)

end All

end Progress

/-! ## 4. Scripts -/

/-- Every state on the timeline of a script is that of one of its instruction lines. -/
theorem exists_line_of_stateAt {layout : Layout} {script : String} {frame : UInt64}
    {state : PadState} (h : (compile layout script).timeline.stateAt frame = some state) :
    ∃ line ∈ lines script.toList, ∃ written,
      Statement.ofLine line = .instruction written ∧ written.state layout = state := by
  rw [compile, Progress.timeline_compileLines] at h
  -- the property of a state that the run carries along is that it comes from one of the lines
  have hall : (Progress.start.run layout (lines script.toList)).All fun state =>
      ∃ line ∈ lines script.toList, ∃ written,
        Statement.ofLine line = .instruction written ∧ written.state layout = state :=
    Progress.All.start.run layout fun line hline written hwritten =>
      ⟨line, hline, written, hwritten, rfl⟩
  exact hall.timeline frame state h

end InputScript.Compile
