/-
A header loses nothing.

Whatever the names of a project and its keys are, they reach the header as identifiers,
and an identifier neither ends a line nor looks like the text around it. So each line of
a header is read as what it was written for, and the header of a project gives back its
keys and, frame by frame, its held buttons. The cursor needs an argument of its own: it
is the frame of the last row because the compiler keeps it at the greatest frame.
-/
import InputScript.Project.Process
import InputScript.Proofs.Artifact.HeaderLine
import InputScript.Proofs.Artifact.Literal
import InputScript.Proofs.Compile.Run
import InputScript.Proofs.Script.Grammar
import InputScript.Proofs.Timeline.Listing
import Mathlib.Data.List.Forall2
import Mathlib.Data.List.TakeWhile

set_option autoImplicit false

namespace InputScript.Artifact

open InputScript.Compile InputScript.Pad InputScript.Script InputScript.Text InputScript.Timeline

/-! ## 1. Readers in front of what they read -/

/-- A run of characters is read up to where it ends. -/
theorem readRun_append {belongs : Char → Bool} {run rest : List Char}
    (h : Grammar.Run belongs run rest) : readRun belongs (run ++ rest) = some (run, rest) := by
  rw [readRun, h.takeWhile_eq, h.dropWhile_eq, if_neg h.ne_nil]

theorem readText_append (expected : String) (rest : List Char) :
    readText expected (expected.toList ++ rest) = some rest :=
  List.dropPrefix?_append_of_beq rest (beq_self_eq_true _)

/-- A decimal numeral is read as its number if no digit stands behind it. -/
theorem readDecimal_append (n : Nat) (rest : List Char)
    (h : ∀ c ∈ rest.head?, c.isDigit = false) :
    readDecimal (Nat.toDigits 10 n ++ rest) = some (n, rest) := by
  have hdigits := Numeral.allDigits_toDigits n
  have hrun : Grammar.Run Char.isDigit (Nat.toDigits 10 n) rest := ⟨hdigits.ne_nil, hdigits.digit, h⟩
  simp only [readDecimal, readRun_append hrun, Option.map_some,
    Nat.ofDigitChars_toDigits (b := 10) (by decide) (by decide)]

/-- A hexadecimal numeral is read as its number if no digit stands behind it. -/
theorem readHex_append (n : Nat) (rest : List Char)
    (h : ∀ c ∈ rest.head?, isHexDigit c = false) :
    readHex (Nat.toDigits 16 n ++ rest) = some (n, rest) := by
  obtain ⟨hdigits, hvalue⟩ := hexDigits_toDigits n
  simp only [readHex, readRun_append ⟨Nat.toDigits_ne_nil, hdigits, h⟩, Option.map_some, hvalue]

/-- A minus sign is not a digit, so a number is not negative by its digits. -/
theorem readSigned_append (n : Int) (rest : List Char)
    (h : ∀ c ∈ rest.head?, c.isDigit = false) :
    readSigned (n.repr.toList ++ rest) = some (n, rest) := by
  cases n with
  | ofNat n =>
    rw [Int.repr, Nat.toList_repr, readSigned, readDecimal_append n rest h]
    · rfl
    · exact (Numeral.allDigits_toDigits n).append_ne_cons rfl rest
  | negSucc n =>
    have hread := readDecimal_append (n + 1) rest h
    rw [Int.repr, String.toList_append, Nat.toList_repr]
    change (readDecimal (Nat.toDigits 10 (n + 1) ++ rest)).map _ = _
    rw [hread]
    rfl

/-! ## 2. Identifiers -/

/-- What is no letter, digit or underscore becomes one. -/
theorem isIdentifierChar_plain (name : List Char) :
    ∀ c ∈ name.map fun c => if c.isAlphanum then c else '_', isIdentifierChar c = true := by
  intro c hc
  obtain ⟨original, -, rfl⟩ := List.mem_map.1 hc
  split
  next halphanum => simp [isIdentifierChar, halphanum]
  next => rfl

/-- An identifier is not empty and holds no other characters than those of identifiers. -/
theorem identifierChars_spec (name : List Char) :
    identifierChars name ≠ [] ∧ ∀ c ∈ identifierChars name, isIdentifierChar c = true := by
  -- only what was replaced matters from here on, and not how
  have hplain := isIdentifierChar_plain name
  have hunderscore : isIdentifierChar '_' = true := rfl
  unfold identifierChars
  dsimp only
  generalize name.map (fun c => if c.isAlphanum then c else '_') = plain at hplain
  split
  · exact ⟨List.cons_ne_nil _ _, by simpa using hunderscore⟩
  · split
    · exact ⟨List.cons_ne_nil _ _, List.forall_mem_cons.2 ⟨hunderscore, hplain⟩⟩
    · exact ⟨List.cons_ne_nil _ _, hplain⟩

/-- An identifier is read up to a character that cannot be in one. -/
theorem run_identifier (name rest : List Char)
    (hrest : ∀ c ∈ rest.head?, isIdentifierChar c = false) :
    Grammar.Run isIdentifierChar (identifierChars name) rest :=
  ⟨(identifierChars_spec name).1, (identifierChars_spec name).2, hrest⟩

/-- A constant is named by an identifier and an ending of its own. -/
theorem readName_append (name ending : String)
    (hending : ending.toList.all isIdentifierChar = true) (rest : List Char)
    (hrest : ∀ c ∈ rest.head?, isIdentifierChar c = false) :
    readName ending ((identifier name).toList ++ (ending.toList ++ rest)) = some rest := by
  obtain ⟨hne, hall⟩ := identifierChars_spec name.toList
  have hrun : Grammar.Run isIdentifierChar ((identifier name).toList ++ ending.toList) rest := by
    rw [identifier, String.toList_ofList]
    exact ⟨List.append_ne_nil_of_left_ne_nil hne _, List.forall_mem_append.2 ⟨hall, List.all_eq_true.1 hending⟩,
      hrest⟩
  -- the name may contain the ending itself, so it is looked for at the end only
  have hsuffix : ending.toList.isSuffixOf ((identifier name).toList ++ ending.toList) = true :=
    List.isSuffixOf_iff_suffix.2 (List.suffix_append _ _)
  rw [← List.append_assoc, readName, readRun_append hrun]
  exact if_pos hsuffix

/-! ## 3. Lines that are read as what they say -/

/-- A character that does not go on with what stands in front of it. -/
theorem head?_notMem {belongs : Char → Bool} {first : Char} (h : belongs first = false)
    {rest : List Char} : ∀ c ∈ (first :: rest).head?, belongs c = false := by
  simpa using h

/-- The line of a key is read as its identifier and its code. -/
theorem ofLine_enumerator (key : String × UInt8) :
    HeaderLine.ofLine (enumerator key).toList =
      .key (identifierChars key.1.toList) key.2.toNat := by
  have hname := readRun_append (run_identifier key.1.toList
    (" = ".toList ++ (Nat.toDigits 10 key.2.toNat ++ ",".toList)) (head?_notMem (by rfl)))
  have hcode := readDecimal_append key.2.toNat ",".toList (head?_notMem (by rfl))
  have hread : readKey (enumerator key).toList =
      some (.key (identifierChars key.1.toList) key.2.toNat) := by
    simp only [enumerator, identifier, String.toList_append, String.toList_ofList, Nat.toList_repr,
      List.append_assoc, readKey, readText_append, Option.bind_eq_bind, Option.bind_some, hname,
      hcode, if_true]
  rw [HeaderLine.ofLine, List.findSome?_cons, hread]
  rfl

/-- The line of the cursor. -/
theorem ofLine_lastFrame (name : String) (number : Int) :
    HeaderLine.ofLine ("static const int64_t  " ++ identifier name ++ "_last_frame = "
      ++ number.repr ++ ";").toList = .lastFrame number := by
  have hending : "_last_frame = ".toList = "_last_frame".toList ++ " = ".toList := rfl
  -- the text behind the name is cut where the ending of the name stops
  have hname := readName_append name "_last_frame" (by decide)
    (" = ".toList ++ (number.repr.toList ++ ";".toList)) (head?_notMem (by rfl))
  have hnumber := readSigned_append number ";".toList (head?_notMem (by rfl))
  simp only [String.toList_append, hending, List.append_assoc]
  have hread : readLastFrame ("static const int64_t  ".toList ++ ((identifier name).toList ++
      ("_last_frame".toList ++ (" = ".toList ++ (number.repr.toList ++ ";".toList))))) =
        some (.lastFrame number) := by
    simp only [readLastFrame, readText_append, hname, hnumber, Option.bind_eq_bind,
      Option.bind_some, if_true]
  simp only [HeaderLine.ofLine, List.findSome?_cons, hread]
  rfl

/-- The line of the number of rows. -/
theorem ofLine_frameCount (name : String) (count : Nat) :
    HeaderLine.ofLine ("static const uint32_t " ++ identifier name ++ "_frame_count = "
      ++ count.repr ++ ";").toList = .frameCount count := by
  have hending : "_frame_count = ".toList = "_frame_count".toList ++ " = ".toList := rfl
  have hname := readName_append name "_frame_count" (by decide)
    (" = ".toList ++ (Nat.toDigits 10 count ++ ";".toList)) (head?_notMem (by rfl))
  have hcount := readDecimal_append count ";".toList (head?_notMem (by rfl))
  simp only [String.toList_append, hending, Nat.toList_repr, List.append_assoc]
  have hread : readFrameCount ("static const uint32_t ".toList ++ ((identifier name).toList ++
      ("_frame_count".toList ++ (" = ".toList ++ (Nat.toDigits 10 count ++ ";".toList))))) =
        some (.frameCount count) := by
    simp only [readFrameCount, readText_append, hname, hcount, Option.bind_eq_bind,
      Option.bind_some, if_true]
  simp only [HeaderLine.ofLine, List.findSome?_cons, hread]
  rfl

/-- The line that stands for an empty table. -/
theorem ofLine_noTable (name : String) :
    HeaderLine.ofLine ("static const PadFrame* const " ++ identifier name
      ++ "_frames = nullptr;").toList = .noTable := by
  have hending : "_frames = nullptr;".toList = "_frames".toList ++ " = nullptr;".toList := rfl
  have hname := readName_append name "_frames" (by decide) " = nullptr;".toList
    (head?_notMem (by rfl))
  simp only [String.toList_append, hending, List.append_assoc]
  have hread : readNoTable ("static const PadFrame* const ".toList ++ ((identifier name).toList ++
      ("_frames".toList ++ " = nullptr;".toList))) = some .noTable := by
    simp only [readNoTable, readText_append, hname, Option.bind_eq_bind, Option.bind_some, if_true]
  simp only [HeaderLine.ofLine, List.findSome?_cons, hread]
  rfl

/-- The line that opens a table, whatever the table is called. -/
theorem ofLine_tableStart (rest : String) :
    HeaderLine.ofLine ("static const PadFrame " ++ rest).toList = .other := by
  rw [String.toList_append]
  rfl

/-! ## 4. Rows -/

/-- Every held button has a bit in the mask. -/
def Maskable (state : PadState) : Prop :=
  ∀ code ∈ state.buttons.codes, code < 32

instance (state : PadState) : Decidable (Maskable state) :=
  List.decidableBAll _ state.buttons.codes

/-- A row, by its frame and its mask, shows a frame with its state. -/
def ShowsFrame (row : Nat × Nat) (entry : UInt64 × PadState) : Prop :=
  row.1 = entry.1.toNat ∧
    ∀ bit, row.2.testBit bit = true ↔ ∃ code ∈ entry.2.buttons.codes, code.toNat = bit

/-- The text of a row with this mask. -/
def rowText (frame : UInt64) (mask : Nat) (state : PadState) : String :=
  "    \x7b " ++ frame.toNat.repr ++ "ull, 0x" ++ String.ofList (Nat.toDigits 16 mask)
    ++ "u, " ++ stickInitialiser state.left ++ ", " ++ stickInitialiser state.right ++ " \x7d,"

/-- The line is the row of the frame, with a mask that shows it. -/
def RowOf (line : String) (entry : UInt64 × PadState) : Prop :=
  ∃ mask, ShowsFrame (entry.1.toNat, mask) entry ∧ line = rowText entry.1 mask entry.2

/-- A bit of the mask comes from the mask so far or from one of the codes. -/
theorem testBit_foldl (codes : List UInt8) (mask bit : Nat) :
    (codes.foldl (fun mask code => mask ||| pow2 code.toNat) mask).testBit bit = true ↔
      mask.testBit bit = true ∨ ∃ code ∈ codes, code.toNat = bit := by
  induction codes generalizing mask with
  | nil => simp
  | cons first rest ih =>
    have hbit : (pow2 first.toNat).testBit bit = decide (first.toNat = bit) := Nat.testBit_two_pow
    rw [List.foldl_cons, ih, Nat.testBit_or, hbit]
    simp [or_assoc]

/-- A set has a mask, with exactly the bits of its codes, unless one of them has no bit. -/
theorem buttonMask_cases (buttons : ButtonSet) :
    (∃ failure, buttonMask buttons = .error failure ∧ failure.code ∈ buttons.codes ∧
      32 ≤ failure.code) ∨
    (∀ code ∈ buttons.codes, code < 32) ∧ ∃ mask, buttonMask buttons = .ok mask ∧
      ∀ bit, mask.testBit bit = true ↔ ∃ code ∈ buttons.codes, code.toNat = bit := by
  unfold buttonMask
  split
  next code hfound =>
    refine .inl ⟨⟨code⟩, rfl, List.mem_of_find?_eq_some hfound, ?_⟩
    exact of_decide_eq_true (List.find?_some (p := fun code => decide (32 ≤ code)) hfound)
  next hnone =>
    refine .inr ⟨fun code hcode => ?_, _, rfl, fun bit => ?_⟩
    · have hfits := List.find?_eq_none.1 hnone code hcode
      exact UInt8.not_le.1 (by simpa using hfits)
    · rw [testBit_foldl]
      simp

/-- A frame has a row exactly if its buttons have a mask. -/
theorem row_cases (frame : UInt64) (state : PadState) :
    (¬Maskable state ∧ ∃ failure, row frame state = .error failure) ∨
    Maskable state ∧ ∃ line, row frame state = .ok line ∧ RowOf line (frame, state) := by
  rcases buttonMask_cases state.buttons with ⟨failure, hmask, hcode, hwide⟩ |
    ⟨hfits, mask, hmask, hbits⟩
  · refine .inl ⟨fun h => absurd (h _ hcode) (UInt8.not_lt.2 hwide), failure, ?_⟩
    rw [row, hmask]
    rfl
  · refine .inr ⟨hfits, rowText frame mask state, ?_, mask, ⟨rfl, hbits⟩, rfl⟩
    rw [row, hmask]
    rfl

/-- The frames in front of the first one that has no row. -/
def writable (frames : List (UInt64 × PadState)) : List (UInt64 × PadState) :=
  frames.takeWhile fun entry => decide (Maskable entry.2)

/-- Where every frame has a row, no frame is left out. -/
theorem writable_of_forall {frames : List (UInt64 × PadState)}
    (h : ∀ entry ∈ frames, Maskable entry.2) : writable frames = frames :=
  List.takeWhile_eq_self_iff.2 fun entry hentry => decide_eq_true (h entry hentry)

/-- The rows of frames are those of the frames that can be written, and nothing is left out
if that is all of them. -/
theorem rows_spec (frames : List (UInt64 × PadState)) :
    List.Forall₂ RowOf (rows frames).lines (writable frames) ∧
      ((rows frames).failure = none ↔ ∀ entry ∈ frames, Maskable entry.2) := by
  induction frames with
  | nil => exact ⟨.nil, by simp [rows]⟩
  | cons entry rest ih =>
    obtain ⟨frame, state⟩ := entry
    obtain ⟨hrows, hfailure⟩ := ih
    rw [rows, List.forall_mem_cons, writable]
    rcases row_cases frame state with ⟨hwide, failure, hrow⟩ | ⟨hfits, line, hrow, hline⟩
    · rw [hrow, List.takeWhile_cons_of_neg (by simpa using hwide)]
      refine ⟨.nil, ?_⟩
      simp [hwide]
    · rw [hrow, List.takeWhile_cons_of_pos (by simpa using hfits)]
      refine ⟨.cons hline hrows, hfailure.trans ?_⟩
      simp [hfits]

/-- In two lists that match, each member of the first has its match in the second. -/
theorem exists_match {α β : Type} {matching : α → β → Prop} {first : List α} {second : List β}
    (h : List.Forall₂ matching first second) {a : α} (ha : a ∈ first) :
    ∃ b ∈ second, matching a b := by
  induction h with
  | nil => exact absurd ha List.not_mem_nil
  | cons hmatch _ ih =>
    rcases List.mem_cons.1 ha with rfl | hlater
    · exact ⟨_, List.mem_cons_self, hmatch⟩
    · obtain ⟨b, hb, hmatches⟩ := ih hlater
      exact ⟨b, List.mem_cons_of_mem _ hb, hmatches⟩

theorem plain_stickInitialiser (stick : Stick) : Plain (stickInitialiser stick).toList := by
  have hopen : Plain "\x7b ".toList := by decide
  have hcomma : Plain ", ".toList := by decide
  have hclose : Plain " \x7d".toList := by decide
  simp only [stickInitialiser, String.toList_append, plain_append, plain_literal, hopen, hcomma,
    hclose, and_self]

/-- A row holds nothing but values, blanks, commas and braces. -/
theorem plain_rowText (frame : UInt64) (mask : Nat) (state : PadState) :
    Plain (rowText frame mask state).toList := by
  simp only [rowText, String.toList_append, String.toList_ofList, plain_append,
    plain_stickInitialiser, plain_natRepr, plain_hexDigits]
  decide

/-- A row is read as its frame and its mask. -/
theorem ofLine_rowText (frame : UInt64) (mask : Nat) (state : PadState) :
    HeaderLine.ofLine (rowText frame mask state).toList = .frame frame.toNat mask := by
  unfold rowText
  -- what the sticks are written as does not matter for the number and the mask
  generalize stickInitialiser state.left = left, stickInitialiser state.right = right
  simp only [String.toList_append, String.toList_ofList, Nat.toList_repr, List.append_assoc]
  have hnumber := readDecimal_append frame.toNat
    ("ull, 0x".toList ++ (Nat.toDigits 16 mask ++ ("u, ".toList ++ (left.toList ++
      (", ".toList ++ (right.toList ++ " \x7d,".toList)))))) (head?_notMem (by rfl))
  have hhex := readHex_append mask
    ("u, ".toList ++ (left.toList ++ (", ".toList ++ (right.toList ++ " \x7d,".toList))))
    (head?_notMem (by rfl))
  have hread : readFrame ("    \x7b ".toList ++ (Nat.toDigits 10 frame.toNat ++
      ("ull, 0x".toList ++ (Nat.toDigits 16 mask ++ ("u, ".toList ++ (left.toList ++
        (", ".toList ++ (right.toList ++ " \x7d,".toList)))))))) =
          some (.frame frame.toNat mask) := by
    simp only [readFrame, readText_append, hnumber, hhex, Option.bind_eq_bind, Option.bind_some]
    rfl
  simp only [HeaderLine.ofLine, List.findSome?_cons, hread]
  rfl

/-- No row is split into lines. -/
theorem oneLine_rows (frames : List (UInt64 × PadState)) :
    ∀ line ∈ (rows frames).lines, OneLine line.toList := by
  intro line hline
  obtain ⟨entry, -, mask, -, rfl⟩ := exists_match (rows_spec frames).1 hline
  exact (plain_rowText entry.1 mask entry.2).oneLine

/-- Rows show their frames one by one. -/
theorem ofLine_rows {lines : List String} {frames : List (UInt64 × PadState)}
    (h : List.Forall₂ RowOf lines frames) :
    ∃ shown : List (Nat × Nat), List.Forall₂ ShowsFrame shown frames ∧
      lines.map (fun line => HeaderLine.ofLine line.toList) =
        shown.map fun row => .frame row.1 row.2 := by
  induction h with
  | nil => exact ⟨[], .nil, rfl⟩
  | @cons line entry lines frames hline _ ih =>
    obtain ⟨mask, hshows, rfl⟩ := hline
    obtain ⟨shown, hrest, hreads⟩ := ih
    refine ⟨(entry.1.toNat, mask) :: shown, .cons hshows hrest, ?_⟩
    simp only [List.map_cons, ofLine_rowText, hreads]

/-! ## 5. Whole headers -/

/-- The lines in front of the sizes: the keys, each by its identifier and its code, and
lines that are the same in every header. -/
def HeaderLine.opening (keys : List (String × UInt8)) : List HeaderLine :=
  List.replicate 6 .other
    ++ keys.map (fun key => .key (identifierChars key.1.toList) key.2.toNat)
    ++ List.replicate 5 .other

/-- The lines behind the sizes: the rows between the two ends of the table, or the null
pointer if there are none. -/
def HeaderLine.table (shown : List (Nat × Nat)) : List HeaderLine :=
  if shown.isEmpty then [.noTable]
  else .other :: shown.map (fun row => .frame row.1 row.2) ++ [.other]

/-- The rows of a header stand in its table. -/
theorem frame_mem_header {keys : List (String × UInt8)} {shown : List (Nat × Nat)}
    {lastFrame : Int} {count number mask : Nat} :
    .frame number mask ∈ HeaderLine.opening keys ++ [.lastFrame lastFrame, .frameCount count]
      ++ HeaderLine.table shown ↔ (number, mask) ∈ shown := by
  have hopening : .frame number mask ∉ HeaderLine.opening keys := by
    simp [HeaderLine.opening]
  cases shown <;> simp [hopening, HeaderLine.table, Prod.ext_iff]

/-- The enumerators of a header are those of its keys. -/
theorem key_mem_header {keys : List (String × UInt8)} {shown : List (Nat × Nat)}
    {lastFrame : Int} {count code : Nat} {name : List Char} :
    .key name code ∈ HeaderLine.opening keys ++ [.lastFrame lastFrame, .frameCount count]
      ++ HeaderLine.table shown ↔
        ∃ key ∈ keys, identifierChars key.1.toList = name ∧ key.2.toNat = code := by
  have htable : .key name code ∉ HeaderLine.table shown := by
    cases shown <;> simp [HeaderLine.table]
  simp [htable, HeaderLine.opening]

/-- The two ways to end lines agree, on texts and on characters. -/
theorem toList_unlines (lines : List String) :
    (Artifact.unlines lines).toList = Text.unlines (lines.map String.toList) := by
  induction lines with
  | nil => rfl
  | cons line rest ih =>
    have hcons : Artifact.unlines (line :: rest) = line ++ "\n" ++ Artifact.unlines rest := rfl
    rw [hcons, String.toList_append, String.toList_append, ih]
    rfl

/-- An identifier ends no line, whatever characters the name has. -/
theorem oneLine_identifier (name : String) : OneLine (identifier name).toList := by
  rw [identifier, String.toList_ofList]
  exact oneLine_of_all rfl rfl (identifierChars_spec name.toList).2

/-- The lines in front of the sizes are one line each, and are read as the keys. -/
theorem declarations_spec (keys : List (String × UInt8)) :
    (∀ line ∈ declarations keys, OneLine line.toList) ∧
      (declarations keys).map (fun line => HeaderLine.ofLine line.toList) =
        HeaderLine.opening keys := by
  constructor
  · rw [declarations, List.forall_mem_append, List.forall_mem_append, List.forall_mem_map]
    refine ⟨⟨by decide, fun key _ => ?_⟩, by decide⟩
    have hspaces : OneLine "    ".toList := by decide
    have hequals : OneLine " = ".toList := by decide
    have hcomma : OneLine ",".toList := by decide
    simp only [enumerator, String.toList_append, oneLine_append, oneLine_identifier,
      (plain_natRepr _).oneLine, hspaces, hequals, hcomma, and_self]
  · simp only [declarations, List.map_append, List.map_map, Function.comp_def, ofLine_enumerator,
      HeaderLine.opening]
    rfl

/-- The sizes are one line each, and are read as the cursor and the number of frames. -/
theorem sizes_spec (name : String) (timeline : Timeline) :
    (∀ line ∈ sizes (identifier name) timeline, OneLine line.toList) ∧
      (sizes (identifier name) timeline).map (fun line => HeaderLine.ofLine line.toList) =
        [.lastFrame timeline.lastFrame.toInt, .frameCount timeline.size] := by
  constructor
  · simp only [sizes, List.forall_mem_cons, String.toList_append, oneLine_append,
      oneLine_identifier, (plain_natRepr _).oneLine, (plain_intRepr _).oneLine]
    decide
  · simp only [sizes, List.map_cons, List.map_nil, ofLine_lastFrame, ofLine_frameCount]

/-- The rows of a header stand between lines that are read as its keys, its sizes and the
beginning of the table, and the end of the table if there are rows and none is missing. -/
theorem headerLines_around_rows (name : String) (keys : List (String × UInt8))
    (timeline : Timeline) :
    ∃ front back : List String,
      (headerLines name keys timeline).lines = front ++ (rows timeline.frames).lines ++ back ∧
      (∀ line ∈ front ++ back, OneLine line.toList) ∧
      front.map (fun line => HeaderLine.ofLine line.toList) =
        HeaderLine.opening keys
          ++ [.lastFrame timeline.lastFrame.toInt, .frameCount timeline.size]
          ++ [if timeline.frames.isEmpty then .noTable else .other] ∧
      back.map (fun line => HeaderLine.ofLine line.toList) =
        if timeline.frames.isEmpty || (rows timeline.frames).failure.isSome then [] else [.other] := by
  obtain ⟨hdeclared, hopening⟩ := declarations_spec keys
  obtain ⟨hsized, hsizes⟩ := sizes_spec name timeline
  have hsymbol := oneLine_identifier name
  unfold headerLines
  dsimp only
  split
  next hempty =>
    refine ⟨declarations keys ++ sizes (identifier name) timeline
      ++ ["static const PadFrame* const " ++ identifier name ++ "_frames = nullptr;"], [],
      ?_, ?_, ?_, ?_⟩
    · rw [List.isEmpty_iff.1 hempty, rows, List.append_nil, List.append_nil]
    · simp only [List.append_nil, List.forall_mem_append, List.forall_mem_cons,
        String.toList_append, oneLine_append, hsymbol]
      exact ⟨⟨hdeclared, hsized⟩, by decide⟩
    · simp only [List.map_append, List.map_cons, List.map_nil, hopening, hsizes, ofLine_noTable]
    · rw [hempty]
      rfl
  next hframes =>
    refine ⟨_, _, rfl, ?_, ?_, ?_⟩
    · -- the end of the table is missing if a row is
      have hend : ∀ line ∈ (if (rows timeline.frames).failure.isNone then ["\x7d;"] else []),
          OneLine line.toList := by
        split <;> decide
      simp only [List.forall_mem_append, List.forall_mem_cons, String.toList_append,
        oneLine_append, hsymbol]
      exact ⟨⟨⟨hdeclared, hsized⟩, by decide⟩, hend⟩
    · simp only [List.map_append, List.map_cons, List.map_nil, hopening, hsizes,
        String.append_assoc, ofLine_tableStart]
    · rw [Bool.not_eq_true] at hframes
      rw [hframes, Bool.false_or]
      cases (rows timeline.frames).failure <;> rfl

/-- No line of a header is split by what stands in it. -/
theorem oneLine_headerLines (name : String) (keys : List (String × UInt8)) (timeline : Timeline) :
    ∀ line ∈ (headerLines name keys timeline).lines, OneLine line.toList := by
  obtain ⟨front, back, hlines, haround, -⟩ := headerLines_around_rows name keys timeline
  rw [List.forall_mem_append] at haround
  rw [hlines, List.forall_mem_append, List.forall_mem_append]
  exact ⟨⟨haround.1, oneLine_rows timeline.frames⟩, haround.2⟩

/-- The lines of a header are those of its text. -/
theorem lines_text_headerLines (name : String) (keys : List (String × UInt8))
    (timeline : Timeline) :
    lines (headerLines name keys timeline).text.toList =
      (headerLines name keys timeline).lines.map String.toList := by
  rw [Written.text, toList_unlines, lines_unlines_of_oneLine]
  exact List.forall_mem_map.2 (oneLine_headerLines name keys timeline)

/-- Reading the text of a header comes to reading its lines. -/
theorem ofText_text_headerLines (name : String) (keys : List (String × UInt8))
    (timeline : Timeline) :
    HeaderLine.ofText (headerLines name keys timeline).text =
      (headerLines name keys timeline).lines.map fun line => HeaderLine.ofLine line.toList := by
  rw [HeaderLine.ofText, lines_text_headerLines, List.map_map]
  rfl

/-- A header is complete if all frames can be written. -/
theorem failure_headerLines_eq_none_iff {name : String} {keys : List (String × UInt8)}
    {timeline : Timeline} :
    (headerLines name keys timeline).failure = none ↔
      ∀ entry ∈ timeline.frames, Maskable entry.2 := by
  unfold headerLines
  dsimp only
  split
  next hempty => simp [List.isEmpty_iff.1 hempty]
  next => exact (rows_spec timeline.frames).2

/-- A header that is complete is read as its keys, its sizes and its rows, and the rows
show the frames of the timeline one by one. -/
theorem ofText_headerLines {name : String} {keys : List (String × UInt8)} {timeline : Timeline}
    (h : (headerLines name keys timeline).failure = none) :
    ∃ shown, List.Forall₂ ShowsFrame shown timeline.frames ∧
      HeaderLine.ofText (headerLines name keys timeline).text =
        HeaderLine.opening keys
          ++ [.lastFrame timeline.lastFrame.toInt, .frameCount timeline.size]
          ++ HeaderLine.table shown := by
  obtain ⟨hrows, hfailure⟩ := rows_spec timeline.frames
  have hfits := failure_headerLines_eq_none_iff.1 h
  rw [writable_of_forall hfits] at hrows
  obtain ⟨shown, hshown, hread⟩ := ofLine_rows hrows
  obtain ⟨front, back, hlines, -, hfront, hback⟩ := headerLines_around_rows name keys timeline
  -- there are as many rows as frames, so one table is empty if the other is
  have hempty : timeline.frames.isEmpty = shown.isEmpty := by
    rw [Bool.eq_iff_iff, List.isEmpty_iff_length_eq_zero, List.isEmpty_iff_length_eq_zero,
      hshown.length_eq]
  rw [hfailure.2 hfits, Option.isSome_none, Bool.or_false] at hback
  refine ⟨shown, hshown, ?_⟩
  rw [ofText_text_headerLines, hlines, List.map_append, List.map_append, hfront, hread, hback,
    hempty, HeaderLine.table]
  cases shown <;> simp

theorem ShowsFrame.map_fst {shown : List (Nat × Nat)} {frames : List (UInt64 × PadState)}
    (h : List.Forall₂ ShowsFrame shown frames) :
    shown.map Prod.fst = frames.map fun entry => entry.1.toNat := by
  induction h with
  | nil => rfl
  | cons hfirst _ ih => rw [List.map_cons, List.map_cons, hfirst.1, ih]

end InputScript.Artifact

namespace InputScript.Project

open InputScript.Artifact InputScript.Compile InputScript.Timeline

/-! ## 6. Headers of projects -/

/-- A header is complete exactly if no frame uses a code without a bit in the mask. -/
theorem failure_header_eq_none_iff (project : ProcessedProject) :
    project.header.failure = none ↔
      ∀ frame state, project.compiled.timeline.stateAt frame = some state →
        ∀ code ∈ state.buttons.codes, code < 32 := by
  rw [ProcessedProject.header, failure_headerLines_eq_none_iff]
  constructor
  · intro h frame state hstate
    exact h (frame, state) (mem_frames.2 hstate)
  · rintro h ⟨frame, state⟩ hentry
    exact h frame state (mem_frames.1 hentry)

/-- The cursor of a processed project is the greatest frame of its timeline, or -1. -/
theorem anchored_timeline (project : Project) : project.process.compiled.timeline.Anchored := by
  change (compileLines _ _).timeline.Anchored
  rw [Progress.timeline_compileLines]
  exact (Progress.anchored_start.run _ _).timeline

/-- **A header loses nothing.** A complete header consists of lines that are the same in
every header, one enumerator for each key in order and with its code, the two sizes, and
the table. The rows of the table show the frames of the timeline one by one, and so in
ascending order: they have the frames' numbers and exactly the bits of the buttons that
are held there. The sizes are the frame of the last row, -1 if there is none, and the
number of rows, and the null pointer takes the place of a table without rows. The lines
are all there is, so no name adds a line or takes one away. -/
theorem header_shows_keys_and_frames (project : Project)
    (h : project.process.header.failure = none) :
    ∃ shown : List (Nat × Nat),
      List.Forall₂ ShowsFrame shown project.process.compiled.timeline.frames ∧
      (shown.map Prod.fst).Pairwise (· < ·) ∧
      HeaderLine.ofText project.process.header.text =
        HeaderLine.opening project.process.keys
          ++ [.lastFrame ((shown.map Prod.fst).getLast?.elim (-1) fun frame => (frame : Int)),
            .frameCount shown.length]
          ++ HeaderLine.table shown := by
  obtain ⟨shown, hshown, hread⟩ := ofText_headerLines h
  have hnumbers := ShowsFrame.map_fst hshown
  refine ⟨shown, hshown, ?_, ?_⟩
  · rw [hnumbers]
    exact pairwise_frames project.process.compiled.timeline
  · -- the size is counted on the timeline and not on the rows, and the cursor is kept by the
    -- compiler
    have hcount : project.process.compiled.timeline.size = shown.length := by
      rw [hshown.length_eq]
      exact Std.ExtTreeMap.length_toList.symm
    rw [hnumbers, ← project.anchored_timeline.lastFrame_eq_getLast?, ← hcount]
    exact hread

/-- Names with line feeds, quotes and braces, and a table with rows. -/
theorem header_shows_keys_and_frames_of_odd_names :
    let project : Project :=
      { name := "7\n\x7d;\r\n"
        script := "2-3 \"/*\n+1 \"/*;#"
        keys := some ⟨[("\"/*", 31), ("#", 0), ("A = 1,\n", 5)], by decide⟩ }
    project.process.header.failure = none ∧
      ∃ shown : List (Nat × Nat),
        List.Forall₂ ShowsFrame shown project.process.compiled.timeline.frames ∧
        (shown.map Prod.fst).Pairwise (· < ·) ∧
        HeaderLine.ofText project.process.header.text =
          HeaderLine.opening project.process.keys
            ++ [.lastFrame ((shown.map Prod.fst).getLast?.elim (-1) fun frame => (frame : Int)),
              .frameCount shown.length]
            ++ HeaderLine.table shown := by
  intro project
  have hcomplete : project.process.header.failure = none := by decide +kernel
  exact ⟨hcomplete, header_shows_keys_and_frames project hcomplete⟩

end InputScript.Project
