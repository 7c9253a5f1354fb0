/-
Keys by their names.

A key file and a script fold the case of a name each in its own way: the file name by
name while it is read, the script line by line before it is scanned. This file proves
that the two meet. A table that was read from a file knows the upper-cased names of the
members and nothing else, and a token of a script reaches it upper-cased and in one
piece, unless it holds white space or a semicolon. So every such name of a file can be
pressed in a script, in any case, and also without the `KEY_` in front of it.
-/
import InputScript.Project.KeyFile
import InputScript.Proofs.Compile.Run
import InputScript.Proofs.Script.Parse
import InputScript.Proofs.Text.UpperCase

set_option autoImplicit false

namespace InputScript.Project

open InputScript.Compile InputScript.Pad InputScript.Script InputScript.Text
open InputScript.Json (Value)

/-! ## 1. What a key file defines -/

/-- Only numbers of one byte are codes. -/
theorem codeOf?_eq_some_iff {value : Value} {code : UInt8} :
    codeOf? value = some code ↔ value = .ofNat code.toNat := by
  constructor
  · intro h
    unfold codeOf? at h
    split at h
    next n =>
      split at h
      next hrange =>
        obtain rfl := Option.some_inj.1 h
        have hn : n.toNat.toUInt8.toNat = n.toNat := by simp; omega
        rw [Value.ofNat, hn, Int.toNat_of_nonneg hrange.1]
      next => cases h
    next => cases h
  · rintro rfl
    have hrange := code.toNat_lt
    rw [Value.ofNat, codeOf?, if_pos (by omega)]
    simp

/-- The members of an object with the codes that their values stand for. -/
def codesOf : Value → List (String × Option UInt8)
  | .object members => members.map fun member => (member.1, codeOf? member.2)
  | _ => []

/-- A member of a key file that gives a name, once it is upper-cased, a code. -/
def Defines (member : String × Value) (name : String) (code : UInt8) : Prop :=
  upperCase member.1 = name ∧ codeOf? member.2 = some code

/-- The table that members are read into knows what it knew before and what the members
define. -/
theorem code?_of_readMembers {keys table : KeyTable} {members : List (String × Value)}
    (h : (readMembers keys members).result = .ok table) (name : String) (code : UInt8) :
    table.code? name = some code ↔
      keys.code? name = some code ∨ ∃ member ∈ members, Defines member name code := by
  induction members generalizing keys with
  | nil =>
    obtain rfl : keys = table := by simpa [readMembers] using h
    simp
  | cons member rest ih =>
    obtain ⟨first, value⟩ := member
    rw [readMembers] at h
    cases hvalue : codeOf? value with
    | none =>
      rw [hvalue] at h
      cases h
    | some firstCode =>
      rw [hvalue] at h
      dsimp only at h
      split at h
      next => cases h
      next hnew =>
        have hfresh : keys.code? (upperCase first) = none := by simpa using hnew
        rw [ih h, KeyTable.code?_insert]
        -- the name is the one that is added here, or all is as before
        by_cases hname : name = upperCase first
        · subst hname
          simp [hfresh, Defines, hvalue]
        · simp [hname, Defines, Ne.symm hname]

/-- Tables can be compared and errors cannot, so a text is evaluated for its table alone. -/
theorem result_readKeys_of_toOption {text : String} {table : KeyTable}
    (h : (readKeys text).result.toOption = some table) : (readKeys text).result = .ok table := by
  cases hresult : (readKeys text).result with
  | error _ =>
    rw [hresult] at h
    cases h
  | ok found =>
    rw [hresult] at h
    exact congrArg Except.ok (Option.some_inj.1 h)

/-- A table that is read from a text is that of an object, and has the keys which its
members define. -/
theorem code?_of_readKeys {text : String} {table : KeyTable}
    (h : (readKeys text).result = .ok table) :
    ∃ members, Value.parse? text = some (.object members) ∧ ∀ name code,
      table.code? name = some code ↔ ∃ member ∈ members, Defines member name code := by
  rw [readKeys] at h
  cases hparse : Value.parse? text with
  | none =>
    rw [hparse] at h
    cases h
  | some value =>
    rw [hparse] at h
    unfold readKeyValue at h
    dsimp only at h
    -- an empty object is turned down, and so is every value that is none
    split at h
    next => cases h
    next members hne =>
      refine ⟨members, rfl, fun name code => ?_⟩
      rw [code?_of_readMembers h]
      simp
    next => cases h

/-! ## 2. Names that fit a script -/

/-- A text that a script reads as one name: it is not empty and holds neither white space
nor a semicolon. -/
def OneName (text : List Char) : Prop :=
  text ≠ [] ∧ ∀ c ∈ text, isWhiteSpace c = false ∧ c ≠ ';'

-- looks at the characters of the text, and not at every character there is
instance {text : List Char} : Decidable (OneName text) :=
  have := List.decidableBAll (fun c => isWhiteSpace c = false ∧ c ≠ ';') text
  instDecidableAnd

/-- Upper-casing keeps a name in one piece. -/
theorem OneName.upperChars {text : List Char} (h : OneName text) : OneName (upperChars text) := by
  refine ⟨fun hnil => h.1 (upperChars_eq_nil_iff.1 hnil), fun d hd => ?_⟩
  obtain ⟨c, hc, hform⟩ := List.mem_flatMap.1 hd
  refine ⟨(isWhiteSpace_of_mem_upperChar hform).trans (h.2 c hc).1, ?_⟩
  rintro rfl
  exact semicolon_notMem_upperChar (h.2 c hc).2 hform

/-- White space does not go away when a text is upper-cased. -/
theorem solid_of_oneName_upperChars {text : List Char} (h : OneName (Text.upperChars text)) :
    text ≠ [] ∧ ∀ c ∈ text, isWhiteSpace c = false := by
  refine ⟨fun hnil => h.1 (upperChars_eq_nil_iff.2 hnil), fun c hc => ?_⟩
  obtain ⟨d, more, hforms⟩ := List.exists_cons_of_ne_nil (upperChar_ne_nil c)
  have hd : d ∈ upperChar c := by simp [hforms]
  rw [← isWhiteSpace_of_mem_upperChar hd]
  exact (h.2 d (List.mem_flatMap.2 ⟨c, hc, hd⟩)).1

/-! ## 3. Lines that press one button -/

/-- The line that presses a token in frame 0. -/
def pressLine (token : String) : String := "0-0 " ++ token

/-- Upper-casing changes nothing of the line but its token. -/
theorem upperChars_pressLine (token : String) :
    upperChars (pressLine token).toList = '0' :: '-' :: '0' :: ' ' :: upperChars token.toList := by
  rw [pressLine, String.toList_append, upperChars_append]
  rfl

/-- Without a semicolon there is nothing to cut. -/
theorem names_of_oneName {field : List Char} (h : OneName field) :
    Grammar.names field = [String.ofList field] := by
  have hwhole : pieces ';' field = [field] := pieces_of_notMem fun hmem => (h.2 _ hmem).2 rfl
  rw [← buttonNames_eq, buttonNames, hwhole]
  simp [h.1]

/-- The one name of a line is the upper-cased token. -/
theorem ofLine_pressLine {token : String} (h : OneName (upperChars token.toList)) :
    Statement.ofLine (pressLine token).toList =
      .instruction ⟨.absolute 0 (some 0), [upperCase token], none, none⟩ := by
  have hnames := names_of_oneName h
  obtain ⟨hne, hsolid⟩ := h
  rw [Statement.ofLine, upperChars_pressLine, upperCase]
  generalize upperChars token.toList = field at hne hsolid hnames
  have hzero : ∀ (c : Char) (rest : List Char), c.isDigit = false →
      Grammar.Run Char.isDigit ['0'] (c :: rest) := by
    intro c rest hc
    exact ⟨List.cons_ne_nil _ _, List.forall_mem_singleton.2 rfl, by simpa using hc⟩
  -- a number and a hyphen start neither kind of loop marker
  have hscan : Token.scan ('0' :: '-' :: '0' :: ' ' :: field) =
      ⟨.number, ['0']⟩ :: ⟨.minus, ['-']⟩ :: Token.scan ('0' :: ' ' :: field) := by
    exact Token.scan_eq_number_cons_iff.2
      ⟨_, rfl, hzero '-' _ rfl, Token.scan_symbol_cons (c := '-') rfl _⟩
  have hwritten : Grammar.InstructionLine ('0' :: '-' :: '0' :: ' ' :: field)
      ⟨.absolute 0 (some 0), [.ofList field], none, none⟩ := by
    refine ⟨_, ' ' :: field, field, [], ⟨[], rfl, by simp⟩, ?_, ?_, ?_, hnames.symm, ?_⟩
    · exact .absolute ⟨['0'], rfl, hzero '-' _ rfl, rfl⟩
        (.present ⟨['0'], rfl, hzero ' ' field rfl, rfl⟩)
    · exact ⟨[' '], by simp, List.cons_ne_nil _ _, List.forall_mem_singleton.2 rfl⟩
    · exact ⟨hne, fun c hc => by simp [(hsolid c hc).1], by simp⟩
    · refine .neither ?_
      rintro pair rest ⟨first, second, ⟨gap, hgap, hnil, -⟩, -⟩
      exact hnil (List.append_eq_nil_iff.1 hgap.symm).1
  rw [Statement.ofTokens, instruction?_scan_eq_some_iff.2 hwritten, hscan]
  rfl

/-- A token presses a button if the line for it puts one frame on the timeline, frame 0,
in which that button is down and no other, and there is nothing to remark. -/
def Presses (keys : KeyTable) (token : String) (code : UInt8) : Prop :=
  let compiled := compile (.standard keys) (pressLine token)
  (∃ state, compiled.timeline.frames = [(0, state)] ∧ state.buttons.codes = [code]) ∧
    compiled.diagnostics = []

/-- The line is a script of its own, since no token brings a line feed along. -/
theorem lines_pressLine {token : String} (h : OneName (upperChars token.toList)) :
    lines (pressLine token).toList = [(pressLine token).toList] := by
  rw [pressLine, String.toList_append]
  apply lines_of_notMem
  · intro hmem
    rcases List.mem_append.1 hmem with hfront | htoken
    · exact absurd hfront (by decide)
    · exact absurd ((solid_of_oneName_upperChars h).2 _ htoken) (by decide)
  · exact List.append_ne_nil_of_left_ne_nil (by decide) _

/-- A token that the layout knows presses its button. -/
theorem presses_of_code? {keys : KeyTable} {token : String} {code : UInt8}
    (hname : OneName (upperChars token.toList))
    (hcode : (Layout.standard keys).code? (upperCase token) = some code) :
    Presses keys token code := by
  -- the range is the first frame, and the token is known
  have hcue : (⟨.absolute 0 (some 0), [upperCase token], none, none⟩ : Instruction).resolve 0
      (.standard keys) = ⟨some ⟨0, 1⟩, ⟨.ofList [code], .centred, .centred⟩, []⟩ := by
    simp only [Instruction.resolve, List.filterMap_cons, hcode, List.filter_cons]
    rfl
  have hstep : Progress.start.step (.standard keys) (pressLine token).toList =
      (⟨Timeline.empty.write ⟨0, 1⟩ ⟨.ofList [code], .centred, .centred⟩, none⟩, []) := by
    rw [Progress.step, ofLine_pressLine hname]
    dsimp only
    rw [show Progress.start.base = 0 from rfl, hcue]
    rfl
  rw [Presses, compile, lines_pressLine hname]
  rw [Progress.timeline_compileLines, Progress.diagnostics_compileLines, Progress.run_cons,
    Progress.steps, hstep]
  refine ⟨⟨_, rfl, rfl⟩, rfl⟩

/-! ## 4. Keys that can be pressed -/

/-- **Every key of a file can be pressed.** A name of a key file that a script reads as one
name presses its code, in whatever case it is written in the script. If it starts with
`KEY_`, what follows that does so as well, unless it is a name of the file itself. -/
theorem presses_of_readKeys {text : String} {keys : KeyTable}
    (h : (readKeys text).result = .ok keys) :
    ∃ members, Value.parse? text = some (.object members) ∧
      ∀ name code, (name, Value.ofNat code.toNat) ∈ members → OneName name.toList →
        (∀ token, upperCase token = upperCase name → Presses keys token code) ∧
        ∀ short, short ≠ "" → upperCase name = "KEY_" ++ short →
          (∀ member ∈ members, upperCase member.1 ≠ short) →
          ∀ token, upperCase token = short → Presses keys token code := by
  obtain ⟨members, hparse, hkeys⟩ := code?_of_readKeys h
  refine ⟨members, hparse, ?_⟩
  intro name code hmem hname
  have hupper := hname.upperChars
  have hfound : keys.code? (upperCase name) = some code :=
    (hkeys _ _).2 ⟨_, hmem, rfl, codeOf?_eq_some_iff.2 rfl⟩
  rw [← toList_upperCase] at hupper
  constructor
  · intro token htoken
    apply presses_of_code?
    · rw [← toList_upperCase, htoken]
      exact hupper
    · rw [htoken, Layout.code?, Layout.standard, List.findSome?_cons, Spelling.name, hfound]
  · intro short hshort hleading hfree token htoken
    -- the short form is no name of its own, so the spelling with the prefix decides
    have hmissing : keys.code? short = none := by
      rw [Option.eq_none_iff_forall_ne_some]
      intro other hother
      obtain ⟨member, hmember, hsame, -⟩ := (hkeys _ _).1 hother
      exact hfree member hmember hsame
    apply presses_of_code?
    · rw [← toList_upperCase, htoken]
      rw [hleading, String.toList_append] at hupper
      refine ⟨fun hnil => hshort (String.toList_eq_nil_iff.1 hnil), fun c hc => ?_⟩
      exact hupper.2 c (List.mem_append_right _ hc)
    · simp only [htoken, Layout.code?, Layout.standard, List.findSome?_cons, Spelling.name,
        hmissing, ← hleading, hfound]

/-- A letter that becomes two, a short form, and a name with braces and signs in it. -/
theorem presses_of_readKeys_folded :
    let text := "\x7b\"key_größe\": 7, \"\x7b-Turbo+\": 0\x7d"
    let keys := (KeyTable.empty.insert "KEY_GRÖSSE" 7).insert "\x7b-TURBO+" 0
    (readKeys text).result = .ok keys ∧ Presses keys "Key_GRÖSSE" 7 ∧ Presses keys "größe" 7 ∧
      Presses keys "\x7b-tURBO+" 0 := by
  intro text keys
  have hread : (readKeys text).result = .ok keys :=
    result_readKeys_of_toOption (by decide +kernel)
  obtain ⟨members, hparse, hpress⟩ := presses_of_readKeys hread
  have hcodes : members.map (fun member => (member.1, codeOf? member.2)) =
      [("key_größe", some 7), ("\x7b-Turbo+", some 0)] := by
    have hvalue : (Value.parse? text).map codesOf =
        some [("key_größe", some 7), ("\x7b-Turbo+", some 0)] := by
      decide +kernel
    rw [hparse] at hvalue
    exact Option.some_inj.1 hvalue
  -- a value with a code is the number of this code, so codes may be compared for values
  have hmember : ∀ name code, (name, some code) ∈ members.map (fun member =>
      (member.1, codeOf? member.2)) → (name, .ofNat code.toNat) ∈ members := by
    intro name code hmem
    obtain ⟨⟨_, value⟩, hmem, hmember⟩ := List.mem_map.1 hmem
    obtain ⟨rfl, hcode⟩ := Prod.mk.inj hmember
    rwa [← codeOf?_eq_some_iff.1 hcode]
  rw [hcodes] at hmember
  have hsize := hpress "key_größe" 7 (hmember _ _ (by simp)) (by decide +kernel)
  have hturbo := hpress "\x7b-Turbo+" 0 (hmember _ _ (by simp)) (by decide +kernel)
  refine ⟨hread, hsize.1 _ (by decide +kernel), ?_, hturbo.1 _ (by decide +kernel)⟩
  have hnames : members.map Prod.fst = ["key_größe", "\x7b-Turbo+"] := by
    have hfirst := congrArg (List.map Prod.fst) hcodes
    rwa [List.map_map] at hfirst
  have hfree : ∀ name ∈ members.map Prod.fst, upperCase name ≠ "GRÖSSE" := by
    rw [hnames, List.forall_mem_cons, List.forall_mem_singleton]
    decide +kernel
  exact hsize.2 "GRÖSSE" (by decide) (by decide +kernel)
    (fun member hmember => hfree member.1 (List.mem_map_of_mem hmember)) _ (by decide +kernel)

end InputScript.Project
