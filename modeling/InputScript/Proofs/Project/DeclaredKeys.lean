/-
Every emitted button has a declared key.

A code gets onto the timeline in one way only: the layout finds it for a token of an
instruction line. The layout looks it up in the key table of the project, and the keys
that a project lists are the entries of that table in another order. So the codes of a
timeline are codes of listed keys, and where a header shows a bit it has an enumerator
for it.
-/
import InputScript.Proofs.Artifact.Header
import InputScript.Proofs.Compile.Origin
import InputScript.Proofs.Pad.Keys

set_option autoImplicit false

namespace InputScript.Pad

/-! ## 1. Layouts -/

/-- A layout finds no code that its table has not. -/
theorem Layout.exists_entry_of_code? {layout : Layout} {token : String} {code : UInt8}
    (h : layout.code? token = some code) : ∃ name, (name, code) ∈ layout.keys.entries := by
  obtain ⟨-, spelling, -, -, hmem, -⟩ := Layout.code?_eq_some_iff.1 h
  exact ⟨spelling.name token, layout.keys.perm_entries.mem_iff.2 hmem⟩

end InputScript.Pad

namespace InputScript.Project

open InputScript.Artifact InputScript.Compile InputScript.Pad InputScript.Script
open InputScript.Timeline

variable {project : Project}

/-! ## 2. Timelines -/

/-- The codes of a timeline are codes of keys. -/
theorem exists_key_of_stateAt {frame : UInt64} {state : PadState}
    (h : project.process.compiled.timeline.stateAt frame = some state) {code : UInt8}
    (hcode : code ∈ state.buttons.codes) : ∃ name, (name, code) ∈ project.process.keys := by
  obtain ⟨line, -, written, -, rfl⟩ := exists_line_of_stateAt h
  obtain ⟨token, -, hfound⟩ := List.mem_filterMap.1 (ButtonSet.mem_codes_ofList.1 hcode)
  exact Layout.exists_entry_of_code? hfound

/-! ## 3. Headers -/

/-- **Every emitted button has a declared key.** Whatever the keys and the script of a
project are, the codes that are held in any of its frames are codes of the keys it lists,
and in a header that is complete every bit of a row is the value of an enumerator. -/
theorem buttons_are_keys (project : Project) :
    (∀ frame state, project.process.compiled.timeline.stateAt frame = some state →
      ∀ code ∈ state.buttons.codes, ∃ name, (name, code) ∈ project.process.keys) ∧
    (project.process.header.failure = none →
      ∀ number mask, .frame number mask ∈ HeaderLine.ofText project.process.header.text →
        ∀ bit, mask.testBit bit = true →
          ∃ name, .key name bit ∈ HeaderLine.ofText project.process.header.text) := by
  refine ⟨fun frame state hstate code => exists_key_of_stateAt hstate, ?_⟩
  intro hcomplete number mask hrow bit hbit
  obtain ⟨shown, hshown, hread⟩ := ofText_headerLines hcomplete
  rw [ProcessedProject.header, hread] at hrow ⊢
  obtain ⟨⟨frame, state⟩, hframe, -, hbits⟩ := exists_match hshown (frame_mem_header.1 hrow)
  obtain ⟨code, hcode, rfl⟩ := (hbits bit).1 hbit
  have hstate : project.process.compiled.timeline.stateAt frame = some state :=
    mem_frames.1 hframe
  obtain ⟨name, hkey⟩ := exists_key_of_stateAt hstate hcode
  exact ⟨identifierChars name.toList, key_mem_header.2 ⟨(name, code), hkey, rfl, rfl⟩⟩

/-- A loop holds a button that has two names, and one that is found by its ending only. -/
theorem buttons_are_keys_of_loop :
    let project : Project :=
      { name := "pad"
        script := "2x\x7b\n0 zl;turbo\n\x7d"
        keys := some ⟨[("TURBO", 31), ("KEY_ZL", 0), ("AUTO", 31)], by decide⟩ }
    ∃ state, project.process.compiled.timeline.stateAt 1 = some state ∧
      state.buttons.codes = [0, 31] ∧
      (∃ name, (name, 31) ∈ project.process.keys) ∧
      project.process.header.failure = none ∧
      ∃ mask, .frame 1 mask ∈ HeaderLine.ofText project.process.header.text ∧
        mask.testBit 31 = true ∧
        ∃ name, .key name 31 ∈ HeaderLine.ofText project.process.header.text := by
  intro project
  have hcodes : (project.process.compiled.timeline.stateAt 1).map (fun state =>
      state.buttons.codes) = some [0, 31] := by
    decide +kernel
  have hcomplete : project.process.header.failure = none := by decide +kernel
  obtain ⟨state, hstate, hheld⟩ := Option.map_eq_some_iff.1 hcodes
  obtain ⟨hkeys, hrows⟩ := buttons_are_keys project
  refine ⟨state, hstate, hheld, hkeys 1 state hstate 31 (by simp [hheld]), hcomplete, ?_⟩
  obtain ⟨shown, hshown, hread⟩ := ofText_headerLines hcomplete
  have hframe : (1, state) ∈ project.process.compiled.timeline.frames :=
    mem_frames.2 hstate
  obtain ⟨⟨number, mask⟩, hmem, hnumber, hbits⟩ := exists_match hshown.flip hframe
  obtain rfl : number = 1 := hnumber
  have hrow : .frame 1 mask ∈ HeaderLine.ofText project.process.header.text := by
    rw [ProcessedProject.header, hread]
    exact frame_mem_header.2 hmem
  have hbit : mask.testBit 31 = true := (hbits 31).2 ⟨31, by simp [hheld], rfl⟩
  exact ⟨mask, hrow, hbit, hrows hcomplete 1 mask hrow 31 hbit⟩

end InputScript.Project
