/-
Which buttons an instruction holds.

The buttons of a written instruction are a list of tokens, and what is held is a set of
codes. In between each token is looked up on its own (`resolve`): it adds one code to the
set, or it is set aside, and which of the two happens depends on the layout alone. So
neither the order of the tokens nor how often one is written can be seen in the set, whereas
the tokens that are set aside are listed as they were written.
-/
import InputScript.Proofs.Pad.Keys
import InputScript.Script.Cue
import Mathlib.Data.List.Sort

set_option autoImplicit false

namespace InputScript.Pad

/-- Sets with the same codes are the same. -/
theorem ButtonSet.eq_of_mem_iff {first second : ButtonSet}
    (h : ∀ code, code ∈ first.codes ↔ code ∈ second.codes) : first = second := by
  have hcodes : first.codes = second.codes :=
    first.ascending.eq_of_mem_iff second.ascending h
  cases first
  cases second
  rw [ButtonSet.mk.injEq]
  exact hcodes

end InputScript.Pad

namespace InputScript.Script

open InputScript.Pad

variable {layout : Layout} {written : Instruction}

/-- A code is held if one of the tokens has it. -/
theorem Instruction.mem_codes_resolve {base : UInt64} {code : UInt8} :
    code ∈ (written.resolve base layout).state.buttons.codes ↔
      ∃ token ∈ written.buttons, layout.FirstHit token code := by
  simp only [Instruction.resolve, ButtonSet.mem_codes_ofList, List.mem_filterMap,
    Layout.code?_eq_some_iff]

/-- The tokens that are set aside are those that no spelling knows. -/
theorem Instruction.unknown_resolve (written : Instruction) (base : UInt64) (layout : Layout) :
    (written.resolve base layout).unknown =
      written.buttons.filter fun token => decide (layout.Unknown token) := by
  rw [Instruction.resolve]
  apply List.filter_congr
  intro token _
  rw [Bool.eq_iff_iff, Option.isNone_iff_eq_none, Layout.code?_eq_none_iff, decide_eq_true_iff]

/-- The state of an instruction depends on its tokens as a set, and not on its frames. -/
theorem Instruction.state_resolve_congr {first second : Instruction}
    (hleft : first.left = second.left) (hright : first.right = second.right)
    (hbuttons : ∀ token, token ∈ first.buttons ↔ token ∈ second.buttons)
    (base otherBase : UInt64) :
    (first.resolve base layout).state = (second.resolve otherBase layout).state := by
  have hset : (first.resolve base layout).state.buttons =
      (second.resolve otherBase layout).state.buttons := by
    apply ButtonSet.eq_of_mem_iff
    intro code
    simp only [Instruction.mem_codes_resolve, hbuttons]
  -- the sticks are those of the instructions, and the base is in the frames alone
  rw [Instruction.resolve, Instruction.resolve] at hset ⊢
  rw [PadState.mk.injEq]
  exact ⟨hset, congrArg (@stickOf layout.polar) hleft, congrArg (@stickOf layout.polar) hright⟩

/-- **How buttons are decoded.** A token has the code that the first spelling of the layout
gives it which makes a name of the table of it, and it has none exactly if no spelling does.
The held buttons of an instruction are the codes of its tokens and no others, and its unknown
buttons are those of its tokens that have none, in their order and as often as they are
written. So instructions with the same sticks and the same set of tokens have the same state,
however their tokens are ordered and repeated and wherever their frames are. -/
theorem Instruction.buttons_of_resolve (written : Instruction) (base : UInt64)
    (layout : Layout) :
    let cue := written.resolve base layout
    (∀ token code, layout.code? token = some code ↔ layout.FirstHit token code) ∧
    (∀ token, layout.Unknown token ↔ ¬∃ code, layout.FirstHit token code) ∧
    (∀ code, code ∈ cue.state.buttons.codes ↔
      ∃ token ∈ written.buttons, layout.FirstHit token code) ∧
    cue.unknown = written.buttons.filter (fun token => decide (layout.Unknown token)) ∧
    ∀ (other : Instruction) (otherBase : UInt64),
      other.left = written.left → other.right = written.right →
      (∀ token, token ∈ other.buttons ↔ token ∈ written.buttons) →
        (other.resolve otherBase layout).state = cue.state := by
  intro cue
  refine ⟨fun token code => Layout.code?_eq_some_iff, fun token => ?_, fun code => ?_, ?_,
    fun other otherBase hleft hright hbuttons => ?_⟩
  · simp only [← Layout.code?_eq_some_iff, ← Layout.code?_eq_none_iff,
      Option.eq_none_iff_forall_ne_some, not_exists, ne_eq]
  · exact Instruction.mem_codes_resolve
  · exact written.unknown_resolve base layout
  · exact Instruction.state_resolve_congr hleft hright hbuttons otherBase base

/-- A spelling that shadows another one, two names of one code, and tokens that are repeated,
known and unknown. -/
theorem Instruction.buttons_of_resolve_of_shadowed :
    let layout : Layout :=
      { keys := ⟨[("A", 7), ("KEY_A", 1), ("ALT", 7), ("KEY_Z", 0)], by decide⟩
        spellings := [.prefixed "", .prefixed "KEY_", .literal] }
    let first : Instruction := ⟨.absolute 3 none, ["A", "?", "Z", "ALT", "?"], none, none⟩
    let second : Instruction := ⟨.relative 0 none, ["ALT", "Z", "Z", "?", "A"], none, none⟩
    layout.FirstHit "A" 7 ∧ layout.Unknown "?" ∧
      (first.resolve 0 layout).state.buttons.codes = [0, 7] ∧
      (first.resolve 0 layout).unknown = ["?", "?"] ∧
      (second.resolve 9 layout).state = (first.resolve 0 layout).state := by
  intro layout first second
  obtain ⟨hcode, -, -, hunknown, hstate⟩ := first.buttons_of_resolve 0 layout
  -- the same set in another order and with other repetitions
  have hsame : ∀ token, token ∈ second.buttons ↔ token ∈ first.buttons := by
    have hsub : ∀ token ∈ second.buttons, token ∈ first.buttons := by decide
    have hsup : ∀ token ∈ first.buttons, token ∈ second.buttons := by decide
    exact fun token => ⟨hsub token, hsup token⟩
  refine ⟨(hcode "A" 7).1 (by decide), by decide, by decide +kernel, ?_,
    hstate second 9 rfl rfl hsame⟩
  rw [hunknown]
  decide

end InputScript.Script
