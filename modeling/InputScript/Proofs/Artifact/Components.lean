/-
Sticks in the rows of a header.

A row gives both sticks of its frame (`stick`) by four components each. Read back, the power
and the angle are always literals, because they are small. An axis is a literal or an
infinity unless the digits that are written for it lie between two limits: from the first
one on the axis is infinite in single precision, and only from the second one on it is in
double precision too, which is where the header asks.
-/
import InputScript.Proofs.Artifact.Header
import InputScript.Proofs.Compile.Origin
import InputScript.Proofs.Pad.Axis

set_option autoImplicit false

namespace InputScript.Artifact

open InputScript.Binary InputScript.Compile InputScript.Pad InputScript.Script InputScript.Text

/-! ## 1. Readers -/

/-- The components of a stick as they are written. -/
structure StickText where
  x : List Char
  y : List Char
  power : List Char
  angle : List Char
deriving DecidableEq

/-- A row as it is written. -/
structure RowText where
  number : Nat
  mask : Nat
  left : StickText
  right : StickText
deriving DecidableEq

/-- All components of a row. -/
def RowText.components (row : RowText) : List (List Char) :=
  [row.left.x, row.left.y, row.left.power, row.left.angle,
    row.right.x, row.right.y, row.right.power, row.right.angle]

/-- Reads a stick. -/
def readStick (text : List Char) : Option (StickText × List Char) := do
  let (x, rest) ← readRun isComponentChar (← readText "\x7b " text)
  let (y, rest) ← readRun isComponentChar (← readText ", " rest)
  let (power, rest) ← readRun isComponentChar (← readText ", " rest)
  let (angle, rest) ← readRun isComponentChar (← readText ", " rest)
  return (⟨x, y, power, angle⟩, ← readText " \x7d" rest)

/-- Reads the sticks of a row, which stand behind its frame and its mask. -/
def readSticks (line : List Char) : Option (StickText × StickText) := do
  let (_, rest) ← readDecimal (← readText "    \x7b " line)
  let (_, rest) ← readHex (← readText "ull, 0x" rest)
  let (left, rest) ← readStick (← readText "u, " rest)
  let (right, rest) ← readStick (← readText ", " rest)
  if rest = " \x7d,".toList then some (left, right) else none

/-- Reads a row. -/
def RowText.ofLine (line : List Char) : Option RowText :=
  match HeaderLine.ofLine line with
  | .frame number mask => (readSticks line).map fun (left, right) => ⟨number, mask, left, right⟩
  | _ => none

/-- The rows of a header. -/
def RowText.ofText (text : String) : List RowText :=
  (lines text.toList).filterMap RowText.ofLine

/-! ## 2. Rows that are read back -/

/-- A stick as a row writes it. -/
def StickText.of (stick : Stick) : StickText where
  x := (literal stick.x).toList
  y := (literal stick.y).toList
  power := (literal stick.power).toList
  angle := (literal stick.angle).toList

/-- A literal is a run of component characters, and it ends where another character stands. -/
theorem run_literal (x : Binary) {rest : List Char}
    (hrest : ∀ c ∈ rest.head?, isComponentChar c = false) :
    Grammar.Run isComponentChar (literal x).toList rest :=
  ⟨(literal_chars x).1, List.all_eq_true.1 (literal_chars x).2, hrest⟩

/-- What is written for a stick is read back, whatever stands behind it. -/
theorem readStick_append (stick : Stick) (rest : List Char) :
    readStick ((stickInitialiser stick).toList ++ rest) = some (.of stick, rest) := by
  have hcomma : ∀ tail, ∀ c ∈ (", ".toList ++ tail).head?, isComponentChar c = false :=
    fun _ => head?_notMem (by rfl)
  have hclose : ∀ c ∈ (" \x7d".toList ++ rest).head?, isComponentChar c = false :=
    head?_notMem (by rfl)
  simp only [stickInitialiser, String.toList_append, List.append_assoc, readStick, readText_append,
    readRun_append (run_literal _ (hcomma _)), readRun_append (run_literal _ hclose),
    Option.bind_eq_bind, Option.bind_some]
  rfl

/-- Both sticks of a row are read back behind its frame and its mask. -/
theorem readSticks_rowText (frame : UInt64) (mask : Nat) (state : PadState) :
    readSticks (rowText frame mask state).toList =
      some (.of state.left, .of state.right) := by
  -- a reader takes one field off the front, so each is given all that stands behind its field
  have hnumber := readDecimal_append frame.toNat ("ull, 0x".toList ++ (Nat.toDigits 16 mask ++
    ("u, ".toList ++ ((stickInitialiser state.left).toList ++ (", ".toList ++
      ((stickInitialiser state.right).toList ++ " \x7d,".toList)))))) (head?_notMem (by rfl))
  have hhex := readHex_append mask ("u, ".toList ++ ((stickInitialiser state.left).toList ++
    (", ".toList ++ ((stickInitialiser state.right).toList ++ " \x7d,".toList))))
    (head?_notMem (by rfl))
  simp only [rowText, String.toList_append, String.toList_ofList, Nat.toList_repr,
    List.append_assoc, readSticks, readText_append, hnumber, hhex, readStick_append,
    Option.bind_eq_bind, Option.bind_some, if_true]

theorem ofLine_rowText_sticks (frame : UInt64) (mask : Nat) (state : PadState) :
    RowText.ofLine (rowText frame mask state).toList =
      some ⟨frame.toNat, mask, .of state.left, .of state.right⟩ := by
  rw [RowText.ofLine, ofLine_rowText, readSticks_rowText]
  rfl

/-- A row shows a frame with its buttons and its sticks. -/
def RowText.Shows (row : RowText) (entry : UInt64 × PadState) : Prop :=
  ShowsFrame (row.number, row.mask) entry ∧
    row.left = .of entry.2.left ∧ row.right = .of entry.2.right

/-- There are no rows where no line is read as one. -/
theorem filterMap_ofLine_eq_nil {lines : List String}
    (h : ∀ number mask, .frame number mask ∉ lines.map fun line => HeaderLine.ofLine line.toList) :
    (lines.map String.toList).filterMap RowText.ofLine = [] := by
  rw [List.filterMap_eq_nil_iff, List.forall_mem_map]
  intro line hline
  rw [RowText.ofLine]
  split
  next number mask heq => exact absurd (heq ▸ List.mem_map_of_mem hline) (h number mask)
  next => rfl

/-- Lines that are rows of some frames are read back as rows that show them, one by one. -/
theorem shows_filterMap_ofLine {lines : List String} {frames : List (UInt64 × PadState)}
    (h : List.Forall₂ RowOf lines frames) :
    List.Forall₂ RowText.Shows ((lines.map String.toList).filterMap RowText.ofLine) frames := by
  induction h with
  | nil => exact .nil
  | @cons line entry lines frames hline _ ih =>
    obtain ⟨mask, hshows, rfl⟩ := hline
    rw [List.map_cons, List.filterMap_cons, ofLine_rowText_sticks]
    exact .cons ⟨hshows, rfl, rfl⟩ ih

/-- The rows of a header that is complete show the frames of the timeline one by one. -/
theorem shows_ofText {name : String} {keys : List (String × UInt8)} {timeline : Timeline}
    (h : (headerLines name keys timeline).failure = none) :
    List.Forall₂ RowText.Shows (RowText.ofText (headerLines name keys timeline).text)
      timeline.frames := by
  obtain ⟨front, back, hlines, -, hfront, hback⟩ := headerLines_around_rows name keys timeline
  have hrows := (rows_spec timeline.frames).1
  rw [writable_of_forall (failure_headerLines_eq_none_iff.1 h)] at hrows
  -- only the lines of the table are rows, so those around it may be left out
  have hbefore : (front.map String.toList).filterMap RowText.ofLine = [] := by
    apply filterMap_ofLine_eq_nil
    intro number mask
    rw [hfront]
    cases timeline.frames.isEmpty <;> simp [HeaderLine.opening]
  have hbehind : (back.map String.toList).filterMap RowText.ofLine = [] := by
    apply filterMap_ofLine_eq_nil
    intro number mask
    rw [hback]
    split <;> simp
  rw [RowText.ofText, lines_text_headerLines, hlines, List.map_append, List.map_append,
    List.filterMap_append, List.filterMap_append, hbefore, hbehind, List.nil_append,
    List.append_nil]
  exact shows_filterMap_ofLine hrows

/-! ## 3. Axes and polar forms -/

/-- The digits stand for a number that is finite in double precision and infinite in single
precision when it is scaled to an axis. -/
def BetweenLimits (n : Nat) : Prop :=
  singleLimit ≤ n ∧ n < doubleLimit

/-- The two questions of finiteness meet here: a component is what is finite in both precisions
or in neither of them. -/
theorem isComponent_axis_iff (negative : Bool) (n : Nat) :
    IsComponent (literal (axis (.ofNat binary64 negative n))).toList ↔ ¬BetweenLimits n := by
  -- each precision has a limit of its own for the number that is written
  have hdouble := isFinite_axis_eq_false_iff negative n
  have hsingle := isFinite_convert_axis_eq_false_iff negative n
  rw [isComponent_literal_iff, BetweenLimits, ← hsingle, not_and, not_lt, ← hdouble,
    ← Bool.not_eq_true, ← Bool.not_eq_true, not_imp_not]

/-- A number that is small enough is a literal. -/
theorem isComponent_literal_of_within {x : Binary} {k : Int} (h : x.Within k) (hk : k ≤ 100) :
    IsComponent (literal x).toList := by
  rw [isComponent_literal_iff]
  intro hfinite
  have hne : x ≠ .nan := by
    rintro rfl
    exact h.atMost
  rw [← Bool.not_eq_false, isFinite_convert_binary32_iff hne]
  cases x with
  | nan => exact absurd rfl hne
  | infinity => cases hfinite
  | finite negative significand exponent =>
    refine not_le.2 (lt_of_le_of_lt (h.mono hk).atMost ?_)
    norm_num

/-- What is written for a stick that is given by a pair of numerals or, without one, at
rest: all of it is components, but an axis only if its numeral is not between the limits. -/
structure StickText.Spells (text : StickText) (pair : Option StickPair) : Prop where
  x : IsComponent text.x ↔ ∀ given ∈ pair.map StickPair.x, ¬BetweenLimits given.magnitude
  y : IsComponent text.y ↔ ∀ given ∈ pair.map StickPair.y, ¬BetweenLimits given.magnitude
  power : IsComponent text.power
  angle : IsComponent text.angle

theorem isComponent_axis_value (numeral : Option SignedNumeral) :
    IsComponent (literal (axis (numeral.getD ⟨false, 0⟩).value)).toList ↔
      ∀ given ∈ numeral, ¬BetweenLimits given.magnitude := by
  rw [SignedNumeral.value, isComponent_axis_iff]
  cases numeral with
  | none =>
    -- a stick at rest has the axes of a written zero, which is below both limits
    have hsmall : ¬BetweenLimits 0 := fun h => absurd h.1 (by decide +kernel)
    simp [hsmall]
  | some numeral => simp

/-- What is written for the stick of a pair: its polar form is small, and its axes are as large
as their digits make them. -/
theorem spells_of (pair : Option StickPair) : (StickText.of (stickOf pair)).Spells pair := by
  rw [stickOf_eq]
  have hne (numeral : SignedNumeral) : axis numeral.value ≠ .nan := (axisInRange_axis _ _).ne_nan
  exact
    { x := isComponent_axis_value _
      y := isComponent_axis_value _
      power := isComponent_literal_of_within (within_power (canonical_hypotenuse _ _)) (by decide)
      angle := isComponent_literal_of_within (within_direction (hne _) (hne _)) (by decide) }

end InputScript.Artifact

namespace InputScript.Project

open InputScript.Artifact InputScript.Compile InputScript.Pad InputScript.Script InputScript.Text
open InputScript.Timeline

/-! ## 4. Projects -/

/-- A row shows a frame of a script, and what it writes for the sticks are components except
for axes between the limits. -/
structure RowShows (layout : Layout) (script : String) (row : RowText)
    (entry : UInt64 × PadState) : Prop where
  frame : ShowsFrame (row.number, row.mask) entry
  origin : ∃ line ∈ lines script.toList, ∃ written,
    Statement.ofLine line = .instruction written ∧ written.state layout = entry.2
  sticks : ∀ written : Instruction, written.state layout = entry.2 →
    row.left.Spells written.left ∧ row.right.Spells written.right

/-- **Components of rows.** A complete header has one row for each frame of the timeline, and
each comes from an instruction line of the script. Both powers and both angles are floating
literals or infinities, and an axis is one unless it is given by digits that stand for a
number between the limits: there it is infinite in single precision, but not in double
precision, and what is written is no component. -/
theorem components_of_rows (project : Project) (h : project.process.header.failure = none) :
    List.Forall₂ (RowShows (.standard project.keyTable) project.script)
      (RowText.ofText project.process.header.text)
      project.process.compiled.timeline.frames := by
  have horigins : ∀ entry ∈ project.process.compiled.timeline.frames,
      ∃ line ∈ lines project.script.toList, ∃ written,
        Statement.ofLine line = .instruction written ∧
          written.state (.standard project.keyTable) = entry.2 :=
    fun entry hentry => exists_line_of_stateAt (mem_frames.1 hentry)
  have hrows := (List.forall₂_and_left _ _).2 ⟨horigins, (shows_ofText h).flip⟩
  refine (hrows.imp ?_).flip
  rintro ⟨frame, state⟩ row ⟨horigin, hframe, hleft, hright⟩
  refine ⟨hframe, horigin, ?_⟩
  rintro written rfl
  rw [hleft, hright]
  exact ⟨spells_of written.left, spells_of written.right⟩

/-- A frame with an axis between the limits, and one with a greater one. -/
theorem components_of_rows_of_long_digits :
    let project : Project :=
      { name := "demo"
        script := "0 A 200000000000000000000000000000000000000000;-7\n+1 B 1;2"
        keys := none }
    project.process.header.failure = none ∧
      List.Forall₂ (RowShows (.standard project.keyTable) project.script)
        (RowText.ofText project.process.header.text)
        project.process.compiled.timeline.frames := by
  intro project
  have hcomplete : project.process.header.failure = none := by decide +kernel
  exact ⟨hcomplete, components_of_rows project hcomplete⟩

/-- Not every component of a complete header is a literal or an infinity. -/
theorem components_of_rows_between_limits :
    ¬∀ project : Project, project.process.header.failure = none →
      ∀ row ∈ RowText.ofText project.process.header.text,
        ∀ component ∈ row.components, IsComponent component := by
  intro hall
  let project : Project :=
    { name := "demo"
      script := "0 A 200000000000000000000000000000000000000000;0"
      keys := some ⟨[("A", 1)], by decide⟩ }
  have hcomplete : project.process.header.failure = none := by decide +kernel
  have hframe : project.process.compiled.timeline.frames.map (fun entry =>
      (literal entry.2.left.x).toList) = ["inff".toList] := by
    decide +kernel
  obtain ⟨entry, hentry, hx⟩ := List.mem_map.1 (hframe ▸ List.mem_singleton_self "inff".toList)
  obtain ⟨row, hrow, -, hleft, -⟩ := exists_match (shows_ofText hcomplete).flip hentry
  have hcomponent := hall project hcomplete row hrow row.left.x List.mem_cons_self
  rw [hleft, StickText.of, hx] at hcomponent
  exact not_isComponent_inff false hcomponent

end InputScript.Project
