/-
The frame document is read back.

A reader finds in the document of a project what the project was compiled to: its name,
the cursor, every frame under its number, and the diagnostics. Names and unknown buttons
may hold any character. The reader takes members in the order of their names, which for
frames is not that of their numbers; it is the text that has them in this one. An axis
whose written value has too many digits is infinite and becomes null, and nothing else
does, since all other numbers of a stick stay far below the greatest one.
-/
import InputScript.Project.Process
import InputScript.Proofs.Compile.Origin
import InputScript.Proofs.Json.Printer
import InputScript.Proofs.Pad.Stick
import InputScript.Proofs.Text.Lines
import InputScript.Proofs.Timeline.Listing
import Std.Data.String.ToNat

set_option autoImplicit false

namespace InputScript.Compile

open InputScript.Pad InputScript.Script InputScript.Text

/-! ## 1. Sizes -/

variable {layout : Layout} {script : String}

/-- Every state of a timeline is that of a line, so its sticks are in range. -/
theorem inRange_of_stateAt (hpolar : layout.polar.InRange) {frame : UInt64} {state : PadState}
    (h : (compile layout script).timeline.stateAt frame = some state) :
    state.left.InRange ∧ state.right.InRange := by
  obtain ⟨line, -, written, -, rfl⟩ := exists_line_of_stateAt h
  exact ⟨inRange_stickOf hpolar written.left, inRange_stickOf hpolar written.right⟩

/-- A diagnostic names a line of the script, and there are no more of them than characters. -/
theorem line_le_length {diagnostic : Diagnostic}
    (h : diagnostic ∈ (compile layout script).diagnostics) : diagnostic.line ≤ script.length := by
  have hlines := length_lines_le script.toList
  rw [String.length_toList] at hlines
  rw [compile, Progress.diagnostics_compileLines] at h
  rcases List.mem_append.1 h with hstep | hlast
  · have := (Progress.line_of_mem_steps hstep).2
    omega
  · split at hlast
    next =>
      rw [List.mem_singleton.1 hlast]
      exact hlines
    next => cases hlast

end InputScript.Compile

namespace InputScript.Artifact

open InputScript.Compile InputScript.Json InputScript.Pad InputScript.Timeline

/-! ## 2. What a document shows -/

/-- The value of an axis: null for an infinite one, and a number for any other. -/
def ShowsAxis (value : Value) (x : Binary) : Prop :=
  (value = .null ↔ ∃ negative, x = .infinity negative) ∧
    (value = .null ∨ ∃ number, value = .number number)

/-- The value of a stick. -/
structure ShowsStick (value : Value) (stick : Stick) : Prop where
  x : ∃ axis, value.member? "x" = some axis ∧ ShowsAxis axis stick.x
  y : ∃ axis, value.member? "y" = some axis ∧ ShowsAxis axis stick.y
  power : ∃ number, value.member? "power" = some (.number number)
  angle : ∃ number, value.member? "angle" = some (.number number)

/-- The value of a controller state, with the codes of its buttons in ascending order. -/
structure ShowsState (value : Value) (state : PadState) : Prop where
  buttons : value.member? "buttons" = some (.array (state.buttons.codes.map fun code =>
    .ofNat code.toNat))
  left : ∃ stick, value.member? "left_stick" = some stick ∧ ShowsStick stick state.left
  right : ∃ stick, value.member? "right_stick" = some stick ∧ ShowsStick stick state.right

/-- The value of a table: a member for each frame, under its number. -/
structure ShowsFrames (value : Value) (timeline : Timeline) : Prop where
  names : ∃ members, value = .object members ∧
    (members.map Prod.fst).Perm (timeline.frames.map fun entry => entry.1.toNat.repr)
  states : ∀ frame state, timeline.stateAt frame = some state →
    ∃ shown, value.member? frame.toNat.repr = some shown ∧ ShowsState shown state

/-- The remarks that are listed by their label alone. -/
def plainRemarks : List Remark :=
  [.ignoredLine, .nestedLoop, .strayLoopEnd, .unterminatedLoop, .emptyRange, .frameOverflow]

/-- The remark that a value stands for. -/
def remarkOf? : Value → Option Remark
  | .string label => plainRemarks.find? fun remark => remark.label == label
  | .object [(label, .string name)] =>
    if label = "UnknownButton" then some (.unknownButton name) else none
  | _ => none

/-- The line number that a value stands for. -/
def lineOf? : Value → Option Nat
  | .number (.whole n) => if 0 ≤ n then some n.toNat else none
  | _ => none

/-- The diagnostic that a value stands for. -/
def diagnosticOf? (value : Value) : Option Diagnostic := do
  let line ← lineOf? (← value.member? "line")
  let remark ← remarkOf? (← value.member? "kind")
  return ⟨line, remark⟩

/-- The value of a project: its name, the cursor, the table, and the diagnostics in order. -/
structure ShowsProject (value : Value) (project : ProcessedProject) : Prop where
  name : value.member? "name" = some (.string project.name)
  lastFrame : value.member? "last_frame" =
    some (.number (.whole project.compiled.timeline.lastFrame.toInt))
  frames : ∃ frames, value.member? "frames" = some frames ∧
    ShowsFrames frames project.compiled.timeline
  diagnostics : ∃ items, value.member? "diagnostics" = some (.array items) ∧
    items.map diagnosticOf? = project.compiled.diagnostics.map some

/-- A text that has the frames of a table in ascending order. -/
def ListsFrames (text : List Char) (timeline : Timeline) : Prop :=
  ∃ value members, Spells maxDepth text value ∧ value.member? "frames" = some (.object members) ∧
    members.map Prod.fst = (timeline.frames.map fun entry => entry.1.toNat).map Nat.repr ∧
    (timeline.frames.map fun entry => entry.1.toNat).Pairwise (· < ·)

/-! ## 3. Members of documents -/

/-- The members of a table. -/
def frameMembers (timeline : Timeline) : List (String × Value) :=
  timeline.frames.map fun (frame, state) => (frame.toNat.repr, stateValue state)

/-- The members of a document. -/
def documentMembers (name : String) (compiled : Compilation) : List (String × Value) :=
  [("name", .string name), ("last_frame", .number (.whole compiled.timeline.lastFrame.toInt)),
    ("frames", .object (frameMembers compiled.timeline)),
    ("diagnostics", .array (compiled.diagnostics.map diagnosticValue))]

theorem frameDocument_eq (name : String) (compiled : Compilation) :
    frameDocument name compiled = .object (documentMembers name compiled) := rfl

/-! ## 4. Documents can be written -/

variable {depth : Nat}

theorem printable_ofNat {n : Nat} (h : n < 2 ^ 64) : Printable depth (.ofNat n) := by
  refine .number ⟨?_, ?_⟩ <;> omega

/-- An axis can be written: an infinite one as null, and any other as a bounded number. -/
theorem printable_ofBinary {x : Binary} (h : AxisInRange x) : Printable depth (.ofBinary x) := by
  rcases h with ⟨negative, rfl⟩ | hbounded
  · exact .null
  · rw [Value.ofBinary, if_pos hbounded.atMost.isFinite]
    exact .number hbounded

theorem printable_stickValue {stick : Stick} (h : stick.InRange) :
    Printable (depth + 1) (stickValue stick) := by
  refine .object ?_
  simp only [List.forall_mem_cons]
  exact ⟨printable_ofBinary h.x, printable_ofBinary h.y, printable_ofBinary (.inr h.power),
    printable_ofBinary (.inr h.angle), List.forall_mem_nil _⟩

/-- A state takes two levels, one for its own members and one for the stick or the codes below. -/
theorem printable_stateValue {state : PadState} (hleft : state.left.InRange)
    (hright : state.right.InRange) : Printable (depth + 2) (stateValue state) := by
  have hbuttons : Printable (depth + 1)
      (.array (state.buttons.codes.map fun code => .ofNat code.toNat)) := by
    refine .array (List.forall_mem_map.2 fun code _ => printable_ofNat ?_)
    have := code.toNat_lt
    omega
  refine .object ?_
  simp only [List.forall_mem_cons]
  exact ⟨hbuttons, printable_stickValue hleft, printable_stickValue hright, List.forall_mem_nil _⟩

theorem printable_remarkValue (remark : Remark) : Printable (depth + 1) (remarkValue remark) := by
  cases remark with
  | unknownButton name => exact .object (List.forall_mem_singleton.2 (.string name))
  | _ => exact .string _

/-- A diagnostic takes two levels, since an unknown button is an object in it. -/
theorem printable_diagnosticValue {diagnostic : Diagnostic} (h : diagnostic.line < 2 ^ 64) :
    Printable (depth + 2) (diagnosticValue diagnostic) := by
  refine .object ?_
  simp only [List.forall_mem_cons]
  exact ⟨printable_ofNat h, printable_remarkValue _, List.forall_mem_nil _⟩

/-- A document can be written if its sticks are in range and its lines fit a word. It takes
four levels. -/
theorem printable_frameDocument (name : String) {compiled : Compilation}
    (hstates : ∀ frame state, compiled.timeline.stateAt frame = some state →
      state.left.InRange ∧ state.right.InRange)
    (hlines : ∀ diagnostic ∈ compiled.diagnostics, diagnostic.line < 2 ^ 64) :
    Printable (depth + 4) (frameDocument name compiled) := by
  -- a cursor is a word with a sign, which any reader of numbers takes
  have hcursor : (Number.whole compiled.timeline.lastFrame.toInt).Printable :=
    ⟨compiled.timeline.lastFrame.le_toInt, by
      have := compiled.timeline.lastFrame.toInt_lt
      omega⟩
  have hframes : Printable (depth + 3) (.object (frameMembers compiled.timeline)) := by
    refine .object (List.forall_mem_map.2 ?_)
    rintro ⟨frame, state⟩ hframe
    obtain ⟨hleft, hright⟩ := hstates frame state (mem_frames.1 hframe)
    exact printable_stateValue hleft hright
  have hdiagnostics : Printable (depth + 3) (.array (compiled.diagnostics.map diagnosticValue)) :=
    .array (List.forall_mem_map.2 fun diagnostic hmem =>
      printable_diagnosticValue (hlines diagnostic hmem))
  rw [frameDocument_eq]
  refine .object ?_
  simp only [documentMembers, List.forall_mem_cons]
  exact ⟨.string name, .number hcursor, hframes, hdiagnostics, List.forall_mem_nil _⟩

/-! ## 5. Documents are read back -/

/-- An axis is read back as null exactly if it is infinite. -/
theorem showsAxis_readBack {x : Binary} (h : AxisInRange x) :
    ShowsAxis (Value.ofBinary x).readBack x := by
  rcases h with ⟨negative, rfl⟩ | hbounded
  · exact ⟨iff_of_true rfl ⟨negative, rfl⟩, .inl rfl⟩
  · have hfinite := hbounded.atMost.isFinite
    rw [Value.ofBinary, if_pos hfinite]
    refine ⟨iff_of_false ?_ ?_, .inr ⟨_, rfl⟩⟩
    · rintro ⟨⟩
    · rintro ⟨negative, rfl⟩
      cases hfinite

/-- A bounded number is read back as a number, though perhaps not as the same one. -/
theorem readBack_ofBinary {x : Binary} (h : x.Bounded) :
    ∃ number, (Value.ofBinary x).readBack = .number number := by
  rw [Value.ofBinary, if_pos h.atMost.isFinite]
  exact ⟨_, rfl⟩

/-- A stick is read back by its four members. -/
theorem showsStick_readBack {stick : Stick} (h : stick.InRange) :
    ShowsStick (stickValue stick).readBack stick := by
  have hnames : DistinctNames [("x", .ofBinary stick.x), ("y", .ofBinary stick.y),
      ("power", .ofBinary stick.power), ("angle", .ofBinary stick.angle)] := by
    change ["x", "y", "power", "angle"].Nodup
    decide
  obtain ⟨power, hpower⟩ := readBack_ofBinary h.power
  obtain ⟨angle, hangle⟩ := readBack_ofBinary h.angle
  exact {
    x := ⟨_, member?_readBack hnames (by simp), showsAxis_readBack h.x⟩
    y := ⟨_, member?_readBack hnames (by simp), showsAxis_readBack h.y⟩
    power := ⟨power, hpower ▸ member?_readBack hnames (by simp)⟩
    angle := ⟨angle, hangle ▸ member?_readBack hnames (by simp)⟩ }

/-- A state is read back with its codes and both sticks. -/
theorem showsState_readBack {state : PadState} (hleft : state.left.InRange)
    (hright : state.right.InRange) : ShowsState (stateValue state).readBack state := by
  have hnames : DistinctNames [
      ("buttons", .array (state.buttons.codes.map fun code => .ofNat code.toNat)),
      ("left_stick", stickValue state.left), ("right_stick", stickValue state.right)] := by
    change ["buttons", "left_stick", "right_stick"].Nodup
    decide
  have hcodes : (Value.array (state.buttons.codes.map fun code => .ofNat code.toNat)).readBack =
      .array (state.buttons.codes.map fun code => .ofNat code.toNat) := by
    rw [readBack_array, List.map_map]
    rfl
  exact {
    buttons := hcodes ▸ member?_readBack hnames (by simp)
    left := ⟨_, member?_readBack hnames (by simp), showsStick_readBack hleft⟩
    right := ⟨_, member?_readBack hnames (by simp), showsStick_readBack hright⟩ }

theorem map_fst_frameMembers (timeline : Timeline) :
    (frameMembers timeline).map Prod.fst =
      (timeline.frames.map fun entry => entry.1.toNat).map Nat.repr := by
  rw [frameMembers, List.map_map, List.map_map]
  rfl

/-- Frames are members under different names, because different numbers have different numerals. -/
theorem distinctNames_frameMembers (timeline : Timeline) :
    DistinctNames (frameMembers timeline) := by
  -- the numbers ascend, and numerals tell numbers apart
  have hnumbers : (timeline.frames.map fun entry => entry.1.toNat).Nodup :=
    (pairwise_frames timeline).imp Nat.ne_of_lt
  rw [DistinctNames, map_fst_frameMembers]
  exact hnumbers.map fun _ _ => Nat.repr_injective

/-- A table is read back frame by frame. Nothing is said of the order here, since a reader may
take members in any. -/
theorem showsFrames_readBack {timeline : Timeline}
    (h : ∀ frame state, timeline.stateAt frame = some state →
      state.left.InRange ∧ state.right.InRange) :
    ShowsFrames (Value.object (frameMembers timeline)).readBack timeline where
  names := by
    -- the reader sorts members by name, so the names are there in another order
    obtain ⟨read, hread, hperm⟩ := perm_readBack (distinctNames_frameMembers timeline)
    rw [map_fst_frameMembers, List.map_map] at hperm
    exact ⟨read, hread, hperm⟩
  states := by
    intro frame state hstate
    obtain ⟨hleft, hright⟩ := h frame state hstate
    have hmem : (frame.toNat.repr, stateValue state) ∈ frameMembers timeline :=
      List.mem_map.2 ⟨(frame, state), mem_frames.2 hstate, rfl⟩
    exact ⟨_, member?_readBack (distinctNames_frameMembers timeline) hmem,
      showsState_readBack hleft hright⟩

theorem remarkOf?_readBack (remark : Remark) :
    remarkOf? (remarkValue remark).readBack = some remark := by
  cases remark with
  | unknownButton name => rfl
  | _ => rfl

theorem lineOf?_readBack (line : Nat) : lineOf? (Value.ofNat line).readBack = some line := by
  change (if 0 ≤ (line : Int) then some (line : Int).toNat else none) = some line
  rw [if_pos (Int.natCast_nonneg line), Int.toNat_natCast]

/-- A diagnostic is read back with its line, and an unknown button with its name. -/
theorem diagnosticOf?_readBack (diagnostic : Diagnostic) :
    diagnosticOf? (diagnosticValue diagnostic).readBack = some diagnostic := by
  have hnames : DistinctNames [("line", .ofNat diagnostic.line),
      ("kind", remarkValue diagnostic.remark)] := by
    change ["line", "kind"].Nodup
    decide
  have hline : (diagnosticValue diagnostic).readBack.member? "line" =
      some (Value.ofNat diagnostic.line).readBack :=
    member?_readBack hnames (by simp)
  have hkind : (diagnosticValue diagnostic).readBack.member? "kind" =
      some (remarkValue diagnostic.remark).readBack :=
    member?_readBack hnames (by simp)
  simp [diagnosticOf?, hline, hkind, lineOf?_readBack, remarkOf?_readBack]

theorem distinctNames_documentMembers (name : String) (compiled : Compilation) :
    DistinctNames (documentMembers name compiled) := by
  change ["name", "last_frame", "frames", "diagnostics"].Nodup
  decide

/-- A document is read back member by member. -/
theorem showsProject_readBack {project : ProcessedProject}
    (h : ∀ frame state, project.compiled.timeline.stateAt frame = some state →
      state.left.InRange ∧ state.right.InRange) :
    ShowsProject (frameDocument project.name project.compiled).readBack project := by
  have hnames := distinctNames_documentMembers project.name project.compiled
  rw [frameDocument_eq]
  exact {
    name := member?_readBack hnames (.head _)
    lastFrame := member?_readBack hnames (.tail _ (.head _))
    frames := ⟨_, member?_readBack hnames (.tail _ (.tail _ (.head _))), showsFrames_readBack h⟩
    diagnostics := by
      have hmember := member?_readBack hnames (.tail _ (.tail _ (.tail _ (.head _))))
      rw [readBack_array] at hmember
      refine ⟨_, hmember, ?_⟩
      rw [List.map_map, List.map_map]
      exact List.map_congr_left fun diagnostic _ => diagnosticOf?_readBack diagnostic }

/-- The text of a document has the frames in their order. -/
theorem listsFrames_pretty {name : String} {compiled : Compilation}
    (h : Printable maxDepth (frameDocument name compiled)) :
    ListsFrames (frameDocument name compiled).pretty.toList compiled.timeline := by
  -- what is claimed is about the text, so it is the value of the text itself and not the one of
  -- the reader that is taken apart
  have hspells := spells_pretty h
  rw [frameDocument_eq, reread_object] at hspells
  have hframes : ("frames", (Value.object (frameMembers compiled.timeline)).reread) ∈
      (documentMembers name compiled).map (Prod.map id Value.reread) :=
    .tail _ (.tail _ (.head _))
  have hmember := ((distinctNames_documentMembers name compiled).map _).member?_of_mem hframes
  rw [reread_object] at hmember
  refine ⟨_, _, hspells, hmember, ?_, pairwise_frames compiled.timeline⟩
  rw [← map_fst_frameMembers, List.map_map]
  rfl

end InputScript.Artifact

namespace InputScript.Project

open InputScript.Artifact InputScript.Compile InputScript.Json InputScript.Pad

/-! ## 6. Documents of projects -/

/-- **A frame document is read back.** Whatever the name, the script and the keys of a
project are, as long as the script has no more characters than a word can count, the
reader accepts its document and finds in it the name, the cursor, the frames under their
numbers with what is held there, and every diagnostic with its line and the exact name of
an unknown button. In the text the frames stand in ascending order. -/
theorem json_reads_back (project : Project) (h : project.script.length < UInt64.size) :
    ListsFrames project.process.json.toList project.process.compiled.timeline ∧
      ∃ value, Value.parse? project.process.json = some value ∧
        ShowsProject value project.process := by
  have hstates : ∀ frame state, project.process.compiled.timeline.stateAt frame = some state →
      state.left.InRange ∧ state.right.InRange :=
    fun frame state => inRange_of_stateAt inRange_rounded
  have hlines : ∀ diagnostic ∈ project.process.compiled.diagnostics, diagnostic.line < 2 ^ 64 :=
    fun diagnostic hmem => lt_of_le_of_lt (line_le_length hmem) h
  have hprintable : Printable maxDepth (frameDocument project.name project.process.compiled) :=
    printable_frameDocument project.name hstates hlines
  exact ⟨listsFrames_pretty hprintable, _, parse?_pretty hprintable, showsProject_readBack hstates⟩

/-- The compilation of a script that is given as a list of characters, for evaluating it. -/
theorem compiled_ofList (name : String) (text : List Char) :
    (Project.mk name (String.ofList text) none).process.compiled =
      compileLines (.standard .builtIn) (Text.lines text) := by
  change compile (.standard .builtIn) (String.ofList text) = _
  rw [compile, String.toList_ofList]

/-- Quotes, backslashes, control characters and characters beyond the basic plane in a name
and an unknown button, and an axis that becomes null. -/
theorem json_reads_back_of_odd_names :
    let script := "9-10 \"\\😀 ".toList ++ List.replicate 309 '9' ++ ";-1\n\x7d".toList
    let project : Project :=
      { name := "\"\\\x07\n😀", script := String.ofList script, keys := none }
    project.script.length < UInt64.size ∧
      (∃ state, project.process.compiled.timeline.stateAt 9 = some state ∧
        state.left.x = .infinity false) ∧
      project.process.compiled.diagnostics =
        [⟨1, .unknownButton "\"\\😀"⟩, ⟨2, .strayLoopEnd⟩] ∧
      ListsFrames project.process.json.toList project.process.compiled.timeline ∧
      ∃ value, Value.parse? project.process.json = some value ∧
        ShowsProject value project.process := by
  intro script project
  have hsize : project.script.length < UInt64.size := by
    rw [String.length_ofList]
    decide +kernel
  have hcompiled : project.process.compiled =
      compileLines (.standard .builtIn) (Text.lines script) :=
    compiled_ofList _ script
  have haxis : (project.process.compiled.timeline.stateAt 9).map (fun state => state.left.x) =
      some (.infinity false) := by
    rw [hcompiled]
    decide +kernel
  have hdiagnostics : project.process.compiled.diagnostics =
      [⟨1, .unknownButton "\"\\😀"⟩, ⟨2, .strayLoopEnd⟩] := by
    rw [hcompiled]
    decide +kernel
  exact ⟨hsize, Option.map_eq_some_iff.1 haxis, hdiagnostics, json_reads_back project hsize⟩

end InputScript.Project
