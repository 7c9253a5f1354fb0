/-
Declared names.

The names of a project and of its keys may be any texts, and the names that a header
declares are made of them. They are identifiers for all that (`c_ident`): what may not stand
in one is replaced, and a digit does not come first. A name that is an identifier already is
left as it is, so nothing is replaced twice, and the length of a name grows by one character
at most. What a line declares is told by the texts around the name, whatever the name is.
-/
import InputScript.Proofs.Artifact.Enumerators

set_option autoImplicit false

namespace InputScript.Artifact

open InputScript.Compile InputScript.Pad InputScript.Text InputScript.Timeline

/-! ## 1. Identifiers -/

/-- A letter or an underscore, which an identifier may start with. -/
def IsNondigit (c : Char) : Prop :=
  'A' ≤ c ∧ c ≤ 'Z' ∨ 'a' ≤ c ∧ c ≤ 'z' ∨ c = '_'

/-- A text has the form of an identifier: letters, digits and underscores, at least one of
them and no digit in front. -/
def IsIdentifier (text : List Char) : Prop :=
  ∃ first rest, text = first :: rest ∧ IsNondigit first ∧
    ∀ c ∈ rest, IsNondigit c ∨ '0' ≤ c ∧ c ≤ '9'

theorem isDigit_iff {c : Char} : c.isDigit = true ↔ '0' ≤ c ∧ c ≤ '9' := by
  rw [Char.isDigit, Bool.and_eq_true, decide_eq_true_iff, decide_eq_true_iff]
  rfl

/-- The characters that replacement leaves are those of the form of an identifier. -/
theorem isIdentifierChar_iff {c : Char} :
    isIdentifierChar c = true ↔ IsNondigit c ∨ '0' ≤ c ∧ c ≤ '9' := by
  have hupper : c.isUpper = true ↔ 'A' ≤ c ∧ c ≤ 'Z' := decide_eq_true_iff
  have hlower : c.isLower = true ↔ 'a' ≤ c ∧ c ≤ 'z' :=
    Bool.and_eq_true_iff.trans (and_congr decide_eq_true_iff decide_eq_true_iff)
  have halpha : c.isAlpha = true ↔ c.isUpper = true ∨ c.isLower = true := Bool.or_eq_true_iff
  simp only [isIdentifierChar, Char.isAlphanum, Bool.or_eq_true, beq_iff_eq, halpha, hupper,
    hlower, isDigit_iff, IsNondigit]
  exact or_right_comm.trans (or_congr_left or_assoc)

/-- Letters and the underscore are no digits. -/
theorem isDigit_of_isNondigit {c : Char} (h : IsNondigit c) : c.isDigit = false := by
  rw [← Bool.not_eq_true, isDigit_iff]
  rintro ⟨-, hnine⟩
  rcases h with ⟨hupper, -⟩ | ⟨hlower, -⟩ | rfl
  · exact absurd (Char.le_trans hupper hnine) (by decide)
  · exact absurd (Char.le_trans hlower hnine) (by decide)
  · exact absurd hnine (by decide)

/-- Identifiers are the texts of their characters that need no underscore in front. -/
theorem isIdentifier_iff {text : List Char} :
    IsIdentifier text ↔ underscored text = text ∧ text.all isIdentifierChar = true := by
  rw [List.all_eq_true]
  constructor
  · rintro ⟨first, rest, rfl, hfirst, hrest⟩
    rw [underscored, isDigit_of_isNondigit hfirst, List.forall_mem_cons]
    exact ⟨rfl, isIdentifierChar_iff.2 (.inl hfirst),
      fun c hc => isIdentifierChar_iff.2 (hrest c hc)⟩
  · rintro ⟨hplain, hall⟩
    cases text with
    | nil => exact absurd hplain (by decide)
    | cons first rest =>
      obtain ⟨hfirst, hrest⟩ := List.forall_mem_cons.1 hall
      refine ⟨first, rest, rfl, ?_, fun c hc => isIdentifierChar_iff.1 (hrest c hc)⟩
      refine (isIdentifierChar_iff.1 hfirst).resolve_right fun hdigit => ?_
      rw [underscored, if_pos (isDigit_iff.2 hdigit)] at hplain
      exact List.cons_ne_self _ _ hplain

instance (text : List Char) : Decidable (IsIdentifier text) :=
  decidable_of_iff _ isIdentifier_iff.symm

/-- An ending of identifier characters may hold digits in front, since something stands before
it. -/
theorem IsIdentifier.append {text ending : List Char} (h : IsIdentifier text)
    (hending : ending.all isIdentifierChar = true) : IsIdentifier (text ++ ending) := by
  obtain ⟨first, rest, rfl, hfirst, hrest⟩ := h
  refine ⟨first, rest ++ ending, rfl, hfirst, List.forall_mem_append.2 ⟨hrest, fun c hc => ?_⟩⟩
  exact isIdentifierChar_iff.1 (List.all_eq_true.1 hending c hc)

/-! ## 2. Names as identifiers -/

/-- Every name becomes an identifier: the empty one by its underscore, and one with a digit in
front by the same. -/
theorem isIdentifier_identifierChars (name : List Char) : IsIdentifier (identifierChars name) := by
  refine isIdentifier_iff.2 ⟨?_, List.all_eq_true.2 (identifierChars_spec name).2⟩
  rw [identifierChars_eq_map]
  cases name with
  | nil => rfl
  | cons first rest =>
    by_cases hdigit : first.isDigit = true
    · rw [underscored, if_pos hdigit]
      rfl
    · rw [underscored, if_neg hdigit, List.map_cons, underscored, isDigit_replaced, if_neg hdigit]

/-- The identifiers are what is left as it is. -/
theorem identifierChars_eq_self_iff {name : List Char} :
    identifierChars name = name ↔ IsIdentifier name := by
  constructor
  · intro h
    exact h ▸ isIdentifier_identifierChars name
  · intro h
    obtain ⟨hplain, hall⟩ := isIdentifier_iff.1 h
    -- a character that belongs is alphanumeric, or it is the underscore already
    have hkept : ∀ c ∈ name, (if c.isAlphanum then c else '_') = c := by
      intro c hc
      have hbelongs := List.all_eq_true.1 hall c hc
      rw [isIdentifierChar, Bool.or_eq_true, beq_iff_eq] at hbelongs
      split
      next => rfl
      next hnot => exact (hbelongs.resolve_left hnot).symm
    rw [identifierChars_eq_map, hplain, List.map_congr_left hkept, List.map_id']

theorem length_identifierChars (name : List Char) :
    (identifierChars name).length =
      if name.head?.all Char.isDigit then name.length + 1 else name.length := by
  rw [identifierChars_eq_map, List.length_map]
  cases name with
  | nil => rfl
  | cons first rest =>
    rw [underscored, List.head?_cons, Option.all_some]
    split <;> rfl

/-! ## 3. Declarations -/

/-- How a name is declared: the text in front of the name, and what stands between the name
and the character that its meaning comes behind. -/
structure DeclarationForm where
  before : String
  gap : String
  mark : Char
deriving DecidableEq

/-- The declarations of a header: of an enumerator, of the constants, of the table, of the
enumeration and of a structure. -/
def declarationForms : List DeclarationForm :=
  [⟨"    ", " ", '='⟩, ⟨"static const int64_t  ", " ", '='⟩, ⟨"static const uint32_t ", " ", '='⟩,
    ⟨"static const PadFrame* const ", " ", '='⟩, ⟨"static const PadFrame ", "[] ", '='⟩,
    ⟨"enum class ", " ", ':'⟩, ⟨"struct ", " ", '\x7b'⟩]

/-- The line that declares a name in this form. -/
def DeclarationForm.line (form : DeclarationForm) (name rest : List Char) : List Char :=
  form.before.toList ++ (name ++ (form.gap.toList ++ form.mark :: rest))

/-- The line declares the name in some form. It need not be a name that could be meant: any
way to find the texts of a form in the line will do. -/
def Declares (line name : List Char) : Prop :=
  ∃ form ∈ declarationForms, ∃ rest, line = form.line name rest

/-- The form of a declaration is known by how it begins. -/
theorem eq_of_before_prefix {form other : DeclarationForm} (hform : form ∈ declarationForms)
    (hother : other ∈ declarationForms) {line : List Char} (h : form.before.toList <+: line)
    (h' : other.before.toList <+: line) : form = other := by
  -- of two beginnings of a line one begins with the other, so the forms settle it on their own
  have hforms : ∀ form ∈ declarationForms, ∀ other ∈ declarationForms,
      form.before.toList <+: other.before.toList → form = other := by decide
  rcases List.prefix_or_prefix_of_prefix h h' with hprefix | hprefix
  · exact hforms form hform other hother hprefix
  · exact (hforms other hother form hform hprefix).symm

/-- A line that declares an identifier declares nothing else, as long as the mark stands in it
only once. -/
theorem declares_line_iff {form : DeclarationForm} (hform : form ∈ declarationForms)
    {name rest : List Char} (hname : name.all isIdentifierChar = true)
    (hrest : form.mark ∉ rest) (declared : List Char) :
    Declares (form.line name rest) declared ↔ declared = name := by
  have hmarks : ∀ form ∈ declarationForms, isIdentifierChar form.mark = false := by decide
  have hgaps : ∀ form ∈ declarationForms, form.mark ∉ form.gap.toList := by decide
  -- the mark ends the name: it is in no identifier and not in the gap
  have hfront : form.mark ∉ name ++ form.gap.toList := by
    rw [List.mem_append, not_or]
    refine ⟨fun hmem => ?_, hgaps form hform⟩
    exact absurd (List.all_eq_true.1 hname _ hmem) (Bool.eq_false_iff.1 (hmarks form hform))
  constructor
  · rintro ⟨other, hother, rest', hline⟩
    obtain rfl : form = other :=
      eq_of_before_prefix hform hother (List.prefix_append _ _) ⟨_, hline.symm⟩
    -- no mark stands in a name that is an identifier, so both names end at the same mark
    have hbehind := List.append_cancel_left hline
    rw [← List.append_assoc, ← List.append_assoc,
      List.append_cons_inj_of_notMem hfront hrest] at hbehind
    exact (List.append_cancel_right hbehind.1).symm
  · rintro rfl
    exact ⟨form, hform, rest, rfl⟩

/-- A line declares nothing that begins like no declaration or has no mark. -/
theorem not_declares {line : List Char}
    (h : ∀ form ∈ declarationForms, form.before.toList <+: line → form.mark ∉ line)
    (declared : List Char) : ¬Declares line declared := by
  rintro ⟨form, hform, rest, rfl⟩
  refine h form hform (List.prefix_append _ _) ?_
  simp [DeclarationForm.line]

/-! ## 4. Lines of a header -/

/-- The lines declare these names and no others. -/
def DeclareAll (lines : List String) (names : List (List Char)) : Prop :=
  ∀ declared, (∃ line ∈ lines, Declares line.toList declared) ↔ declared ∈ names

variable {front back : List String} {names others : List (List Char)}

theorem DeclareAll.append (hfront : DeclareAll front names) (hback : DeclareAll back others) :
    DeclareAll (front ++ back) (names ++ others) := by
  intro declared
  rw [List.mem_append, ← hfront declared, ← hback declared]
  simp only [List.mem_append, or_and_right, exists_or]

theorem declareAll_nothing (h : ∀ line ∈ front, ∀ declared, ¬Declares line.toList declared) :
    DeclareAll front [] := by
  intro declared
  refine iff_of_false ?_ List.not_mem_nil
  rintro ⟨line, hline, hdeclares⟩
  exact h line hline declared hdeclares

/-- An enumerator declares the identifier of its key, whatever the key is called. -/
theorem declares_enumerator (key : String × UInt8) (declared : List Char) :
    Declares (enumerator key).toList declared ↔ declared = identifierChars key.1.toList := by
  have hline : (enumerator key).toList =
      DeclarationForm.line ⟨"    ", " ", '='⟩ (identifierChars key.1.toList)
        (" ".toList ++ (key.2.toNat.repr.toList ++ ",".toList)) := by
    simp only [enumerator, identifier, String.toList_append, String.toList_ofList,
      List.append_assoc]
    rfl
  have hcode := (plain_natRepr key.2.toNat).equals_notMem
  rw [hline]
  refine declares_line_iff (by decide) (List.all_eq_true.2 (identifierChars_spec _).2) ?_ declared
  simp only [List.mem_append, hcode]
  decide

theorem declareAll_enumerators (keys : List (String × UInt8)) :
    DeclareAll (keys.map enumerator) (keys.map fun key => identifierChars key.1.toList) := by
  intro declared
  rw [List.mem_map]
  constructor
  · rintro ⟨line, hline, hdeclares⟩
    obtain ⟨key, hkey, rfl⟩ := List.mem_map.1 hline
    exact ⟨key, hkey, ((declares_enumerator key declared).1 hdeclares).symm⟩
  · rintro ⟨key, hkey, rfl⟩
    exact ⟨enumerator key, List.mem_map_of_mem hkey, (declares_enumerator key _).2 rfl⟩

/-- A line that is written in a form with an identifier declares the identifier. -/
theorem declareAll_line (form : DeclarationForm) (hform : form ∈ declarationForms)
    {name : List Char} (hname : name.all isIdentifierChar = true) (rest : List Char)
    (hrest : form.mark ∉ rest) {line : String} (hline : line.toList = form.line name rest) :
    DeclareAll [line] [name] := by
  intro declared
  simp only [List.mem_singleton, exists_eq_left, hline, declares_line_iff hform hname hrest]

/-- A constant is named by the identifier of the project and an ending of its own. -/
def constantName (name ending : String) : List Char :=
  identifierChars name.toList ++ ending.toList

theorem all_isIdentifierChar_constantName {name ending : String}
    (hending : ending.toList.all isIdentifierChar = true) :
    (constantName name ending).all isIdentifierChar = true := by
  rw [constantName, List.all_append, hending, Bool.and_true]
  exact List.all_eq_true.2 (identifierChars_spec _).2

/-- The two sizes declare a constant each. -/
theorem declareAll_sizes (name : String) (timeline : Timeline) :
    DeclareAll (sizes (identifier name) timeline)
      [constantName name "_last_frame", constantName name "_frame_count"] := by
  have hlast : '=' ∉ " ".toList ++ (timeline.lastFrame.toInt.repr.toList ++ ";".toList) := by
    simp only [List.mem_append, (plain_intRepr _).equals_notMem]
    decide
  have hcount : '=' ∉ " ".toList ++ (timeline.size.repr.toList ++ ";".toList) := by
    simp only [List.mem_append, (plain_natRepr _).equals_notMem]
    decide
  refine (declareAll_line ⟨"static const int64_t  ", " ", '='⟩ (by decide)
    (all_isIdentifierChar_constantName (by decide)) _ hlast ?_).append
    (declareAll_line ⟨"static const uint32_t ", " ", '='⟩ (by decide)
      (all_isIdentifierChar_constantName (by decide)) _ hcount ?_)
  · simp only [identifier, constantName, String.toList_append, String.toList_ofList,
      List.append_assoc, DeclarationForm.line]
    rfl
  · simp only [identifier, constantName, String.toList_append, String.toList_ofList,
      List.append_assoc, DeclarationForm.line]
    rfl

/-- No row declares anything: it begins like an enumerator and gives nothing a value. -/
theorem declareAll_rows (frames : List (UInt64 × PadState)) :
    DeclareAll (rows frames).lines [] := by
  apply declareAll_nothing
  intro line hline
  obtain ⟨entry, -, mask, -, rfl⟩ := exists_match (rows_spec frames).1 hline
  apply not_declares
  intro form hform hprefix
  have hspaces : "    ".toList <+: (rowText entry.1 mask entry.2).toList := by
    simp only [rowText, String.toList_append, List.append_assoc]
    exact ⟨_, rfl⟩
  -- among the forms only that of an enumerator begins with these spaces
  have henumerator : (⟨"    ", " ", '='⟩ : DeclarationForm) ∈ declarationForms := by decide
  obtain rfl := eq_of_before_prefix henumerator hform hspaces hprefix
  exact (plain_rowText entry.1 mask entry.2).equals_notMem

/-! ## 5. Headers -/

/-- The types of a header besides the enumeration, and what they are made of. -/
theorem declareAll_declarations (keys : List (String × UInt8)) :
    DeclareAll (declarations keys)
      ("PadKey".toList :: (keys.map fun key => identifierChars key.1.toList)
        ++ ["PadStick".toList, "PadFrame".toList]) := by
  -- line by line: those that declare nothing, and one type with its keyword each
  have hsilent : DeclareAll ["#pragma once", "#include <cmath>", "#include <cstdint>",
      "// Auto-generated – DO NOT EDIT", ""] [] :=
    declareAll_nothing fun line hline => not_declares (by revert line; decide)
  have hkeys : DeclareAll ["enum class PadKey : uint8_t \x7b"] ["PadKey".toList] :=
    declareAll_line ⟨"enum class ", " ", ':'⟩ (by decide) (by decide) " uint8_t \x7b".toList
      (by decide) rfl
  have hclose : DeclareAll ["\x7d;", ""] [] :=
    declareAll_nothing fun line hline => not_declares (by revert line; decide)
  have hstick : DeclareAll ["struct PadStick \x7b float x, y, power, angle; \x7d;"]
      ["PadStick".toList] :=
    declareAll_line ⟨"struct ", " ", '\x7b'⟩ (by decide) (by decide)
      " float x, y, power, angle; \x7d;".toList (by decide) rfl
  have hframe : DeclareAll
      ["struct PadFrame \x7b uint64_t frame; uint32_t buttons; PadStick left; PadStick right; \x7d;"]
      ["PadFrame".toList] :=
    declareAll_line ⟨"struct ", " ", '\x7b'⟩ (by decide) (by decide)
      " uint64_t frame; uint32_t buttons; PadStick left; PadStick right; \x7d;".toList
      (by decide +kernel) (by decide +kernel)
  have hblank : DeclareAll [""] [] :=
    declareAll_nothing fun line hline => not_declares (by revert line; decide)
  exact ((hsilent.append hkeys).append (declareAll_enumerators keys)).append
    (hclose.append (hstick.append (hframe.append hblank)))

/-- The names that a header declares, in order: the types, among them the keys, and the
constants. -/
def declaredNames (name : String) (keys : List (String × UInt8)) : List (List Char) :=
  "PadKey".toList :: (keys.map fun key => identifierChars key.1.toList)
    ++ ["PadStick".toList, "PadFrame".toList]
    ++ ["_last_frame", "_frame_count", "_frames"].map (constantName name)

/-- A header declares its types, its keys and three constants, with rows or without. -/
theorem declareAll_headerLines (name : String) (keys : List (String × UInt8))
    (timeline : Timeline) :
    DeclareAll (headerLines name keys timeline).lines (declaredNames name keys) := by
  have hopening := (declareAll_declarations keys).append (declareAll_sizes name timeline)
  have hnames : declaredNames name keys =
      "PadKey".toList :: (keys.map fun key => identifierChars key.1.toList)
        ++ ["PadStick".toList, "PadFrame".toList]
        ++ [constantName name "_last_frame", constantName name "_frame_count"]
        ++ [constantName name "_frames"] := by
    rw [declaredNames, List.append_assoc _ [_, _] [_]]
    rfl
  rw [headerLines, hnames]
  dsimp only
  split
  next =>
    -- a project without frames has no table to declare, but the name stands for one still
    refine hopening.append (declareAll_line ⟨"static const PadFrame* const ", " ", '='⟩ (by decide)
      (all_isIdentifierChar_constantName (by decide)) " nullptr;".toList (by decide) ?_)
    simp only [identifier, constantName, String.toList_append, String.toList_ofList,
      List.append_assoc, DeclarationForm.line]
    rfl
  next =>
    have htable : DeclareAll ["static const PadFrame " ++ identifier name ++ "_frames[] = \x7b"]
        [constantName name "_frames"] := by
      refine declareAll_line ⟨"static const PadFrame ", "[] ", '='⟩ (by decide)
        (all_isIdentifierChar_constantName (by decide)) " \x7b".toList (by decide) ?_
      simp only [identifier, constantName, String.toList_append, String.toList_ofList,
        List.append_assoc, DeclarationForm.line]
      rfl
    -- the brace is missing if the table breaks off, and it declares nothing if it is there
    have hend : DeclareAll (if (rows timeline.frames).failure.isNone then ["\x7d;"] else []) [] := by
      apply declareAll_nothing
      split <;> exact fun line hline => not_declares (by revert line; decide)
    have hlines := ((hopening.append htable).append (declareAll_rows timeline.frames)).append hend
    rwa [List.append_nil, List.append_nil] at hlines

/-- All names of a header are identifiers: the fixed ones as they stand, and the others because
they are made of identifiers. -/
theorem isIdentifier_of_mem_declaredNames (name : String) (keys : List (String × UInt8)) :
    ∀ declared ∈ declaredNames name keys, IsIdentifier declared := by
  have hendings : ∀ ending ∈ ["_last_frame", "_frame_count", "_frames"],
      ending.toList.all isIdentifierChar = true := by decide
  have htypes : ∀ declared ∈ ["PadStick".toList, "PadFrame".toList], IsIdentifier declared := by
    decide
  rw [declaredNames, List.forall_mem_append, List.forall_mem_append, List.forall_mem_cons,
    List.forall_mem_map, List.forall_mem_map]
  refine ⟨⟨⟨by decide, fun key _ => isIdentifier_identifierChars _⟩, htypes⟩,
    fun ending hending => ?_⟩
  exact (isIdentifier_identifierChars _).append (hendings ending hending)

/-- The names that the text of a header declares are known, whatever the names of the project
and of its keys are. -/
theorem declares_text_headerLines_iff {name : String} {keys : List (String × UInt8)}
    {timeline : Timeline} {declared : List Char} :
    (∃ line ∈ lines (headerLines name keys timeline).text.toList, Declares line declared) ↔
      declared ∈ declaredNames name keys := by
  rw [lines_text_headerLines, ← declareAll_headerLines name keys timeline declared]
  simp only [List.mem_map, exists_exists_and_eq_and]

end InputScript.Artifact

namespace InputScript.Project

open InputScript.Artifact InputScript.Text

/-! ## 6. Headers of projects -/

/-- **Names in a header are identifiers.** The identifier of a name has the form of one, a name
is left as it is exactly if it has this form already, so that nothing changes a second time,
and a character is added exactly if the name is empty or starts with a digit. A header
declares its types, an enumerator for each key and three constants, and no name of a project
or of a key makes it declare anything else; all that it declares has the form of an
identifier. -/
theorem declared_names_are_identifiers (project : ProcessedProject) :
    (∀ name : String,
      IsIdentifier (identifier name).toList ∧
      (identifier name = name ↔ IsIdentifier name.toList) ∧
      identifier (identifier name) = identifier name ∧
      (identifier name).length =
        if name.toList.head?.all Char.isDigit then name.length + 1 else name.length) ∧
    (∀ declared, (∃ line ∈ lines project.header.text.toList, Declares line declared) ↔
      declared ∈ declaredNames project.name project.keys) ∧
    ∀ declared ∈ declaredNames project.name project.keys, IsIdentifier declared := by
  have hform : ∀ name : String, IsIdentifier (identifier name).toList := by
    intro name
    rw [identifier, String.toList_ofList]
    exact isIdentifier_identifierChars name.toList
  -- with the form of the result this is also why nothing changes a second time
  have hkept : ∀ name : String, identifier name = name ↔ IsIdentifier name.toList := by
    intro name
    rw [← identifierChars_eq_self_iff, identifier, ← String.toList_inj, String.toList_ofList]
  have hlength : ∀ name : String, (identifier name).length =
      if name.toList.head?.all Char.isDigit then name.length + 1 else name.length := by
    intro name
    rw [identifier, String.length_ofList, length_identifierChars, String.length_toList]
  refine ⟨fun name => ⟨hform name, hkept name, (hkept _).2 (hform name), hlength name⟩,
    fun declared => declares_text_headerLines_iff, isIdentifier_of_mem_declaredNames _ _⟩

/-- Names that are no texts of one line, the empty name, and digits of another script, in a
header that breaks off. -/
theorem declared_names_are_identifiers_of_odd_names :
    let keys : Pad.KeyTable := ⟨[("", 0), ("A = 1,\n", 3), ("٣", 40)], by decide⟩
    let project := Project.process ⟨"7\n[] = \x7b", "0 ٣", some keys⟩
    identifier "A_1" = "A_1" ∧
      (∃ line ∈ lines project.header.text.toList, Declares line "_7________frames".toList) ∧
      IsIdentifier "_7________frames".toList := by
  intro keys project
  obtain ⟨hnames, hdeclared, hform⟩ := declared_names_are_identifiers project
  have hmem : "_7________frames".toList ∈ declaredNames project.name project.keys :=
    List.mem_append_right _ (by decide)
  exact ⟨(hnames "A_1").2.1.2 (by decide), (hdeclared _).2 hmem, hform _ hmem⟩

end InputScript.Project
