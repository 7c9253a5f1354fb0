/-
What upper-casing leaves alone.

The case table gives some code points an upper-case form, and the forms it gives
have none themselves. White space stands apart from both: it has no upper-case form
and is none. These three facts are about the table, and hold of every character
because they hold of the finitely many code points in it. Everything else here follows
without the table: upper-casing twice is upper-casing once, a text stays blank or stays
not blank, and the lines of an upper-cased text are the upper-cased lines.
-/
import InputScript.Proofs.Text.Lines
import InputScript.Text.UpperCase
import InputScript.Text.WhiteSpace

set_option autoImplicit false

namespace InputScript.Text

/-! ## 1. Code points as bits

There are some thousand code points on either side, too many to compare one by one.
As the bits of two numbers they are compared at once. -/

/-- The number whose bits are the given code points. -/
def codeSet (codes : List Nat) : Nat :=
  codes.foldr (fun code set => set ||| 1 <<< code) 0

/-- The bits of the number are the code points. -/
@[simp]
theorem testBit_codeSet {codes : List Nat} {code : Nat} :
    (codeSet codes).testBit code = true ↔ code ∈ codes := by
  induction codes with
  | nil => simp [codeSet]
  | cons first rest ih =>
    have hcons : codeSet (first :: rest) = codeSet rest ||| 1 <<< first := rfl
    rw [hcons, Nat.testBit_or, Bool.or_eq_true, ih, Nat.one_shiftLeft, Nat.testBit_two_pow,
      decide_eq_true_iff, List.mem_cons, or_comm, eq_comm]

/-- Sets without a bit in common have no code point in common. -/
theorem notMem_of_codeSet_and {codes others : List Nat} (h : codeSet codes &&& codeSet others = 0)
    {code : Nat} (hcode : code ∈ codes) : code ∉ others := by
  intro hother
  have hbit : (codeSet codes &&& codeSet others).testBit code = true := by
    rw [Nat.testBit_and, Bool.and_eq_true, testBit_codeSet, testBit_codeSet]
    exact ⟨hcode, hother⟩
  simp [h] at hbit

/-! ## 2. The table -/

/-- The numbers of the letters in a run, counted from its first. -/
def CaseRun.indices (run : CaseRun) : List Nat :=
  List.range ((run.last - run.first) / run.stride + 1)

/-- The code points that have an upper-case form. -/
def casedCodes : List Nat :=
  (caseRuns.flatMap fun run => run.indices.map fun i => run.first + run.stride * i) ++
    caseExpansions.map Prod.fst

/-- The code points of the upper-case forms. -/
def upperCodes : List Nat :=
  (caseRuns.flatMap fun run => run.indices.map fun i => run.image + run.stride * i) ++
    caseExpansions.flatMap Prod.snd

/-- The code points of the white space characters. -/
def whiteSpaceCodes : List Nat :=
  [9, 10, 11, 12, 13, 0x20, 0x85, 0xA0, 0x1680, 0x2000, 0x2001, 0x2002, 0x2003, 0x2004, 0x2005,
    0x2006, 0x2007, 0x2008, 0x2009, 0x200A, 0x2028, 0x2029, 0x202F, 0x205F, 0x3000]

theorem toNat_mem_whiteSpaceCodes {c : Char} (hc : isWhiteSpace c = true) :
    c.toNat ∈ whiteSpaceCodes := by
  simp only [isWhiteSpace, Bool.or_eq_true, Bool.and_eq_true, beq_iff_eq, decide_eq_true_eq] at hc
  simp only [whiteSpaceCodes, List.mem_cons, List.not_mem_nil, or_false]
  omega

/-- No upper-case form has an upper-case form. -/
theorem upperCodes_and_casedCodes : codeSet upperCodes &&& codeSet casedCodes = 0 := by
  decide +kernel

/-- White space has no upper-case form. -/
theorem whiteSpaceCodes_and_casedCodes : codeSet whiteSpaceCodes &&& codeSet casedCodes = 0 := by
  decide +kernel

/-- And it is none. -/
theorem upperCodes_and_whiteSpaceCodes : codeSet upperCodes &&& codeSet whiteSpaceCodes = 0 := by
  decide +kernel

/-- Every upper-case form is a character. -/
theorem toNat_ofNat_upperCodes : ∀ code ∈ upperCodes, (Char.ofNat code).toNat = code := by
  decide +kernel

/-! ## 3. One character -/

/-- A letter in a run and its form have the same number in it. -/
theorem CaseRun.exists_index {run : CaseRun} {code image : Nat} (h : run.upper? code = some image) :
    ∃ i ∈ run.indices, code = run.first + run.stride * i ∧ image = run.image + run.stride * i := by
  simp only [upper?, Option.ite_none_right_eq_some, Option.some_inj] at h
  obtain ⟨⟨hfirst, hlast, hstride⟩, rfl⟩ := h
  have hdistance := Nat.mul_div_cancel' (Nat.dvd_of_mod_eq_zero hstride)
  refine ⟨(code - run.first) / run.stride, ?_, by omega, by omega⟩
  rw [indices, List.mem_range, Nat.lt_succ_iff]
  exact Nat.div_le_div_right (by omega)

/-- What the search finds is found by one of the runs. -/
theorem exists_of_upperInRuns? {code image : Nat} {runs : List CaseRun}
    (h : upperInRuns? code runs = some image) : ∃ run ∈ runs, run.upper? code = some image := by
  induction runs with
  | nil => cases h
  | cons run rest ih =>
    simp only [upperInRuns?, Option.ite_none_left_eq_some, Option.or_eq_some_iff] at h
    obtain ⟨-, hfound | ⟨-, hrest⟩⟩ := h
    · exact ⟨run, List.mem_cons_self, hfound⟩
    · obtain ⟨other, hother, hfound⟩ := ih hrest
      exact ⟨other, List.mem_cons_of_mem run hother, hfound⟩

/-- A character either is left alone, or it is one of those with an upper-case form and
becomes characters that are such forms. -/
theorem upperChar_cases (c : Char) :
    upperChar c = [c] ∨
      c.toNat ∈ casedCodes ∧ upperChar c ≠ [] ∧ ∀ d ∈ upperChar c, d.toNat ∈ upperCodes := by
  -- all the forms are characters, so none is replaced by another one
  have hform : ∀ code ∈ upperCodes, (Char.ofNat code).toNat ∈ upperCodes := by
    intro code hcode
    rw [toNat_ofNat_upperCodes code hcode]
    exact hcode
  unfold upperChar
  cases hruns : upperInRuns? c.toNat caseRuns with
  | some image =>
    right
    obtain ⟨run, hrun, hfound⟩ := exists_of_upperInRuns? hruns
    obtain ⟨i, hi, hcode, rfl⟩ := CaseRun.exists_index hfound
    refine ⟨?_, List.cons_ne_nil _ _, ?_⟩
    · apply List.mem_append_left
      exact List.mem_flatMap.2 ⟨run, hrun, List.mem_map.2 ⟨i, hi, hcode.symm⟩⟩
    · intro d hd
      rw [List.mem_singleton.1 hd]
      apply hform
      apply List.mem_append_left
      exact List.mem_flatMap.2 ⟨run, hrun, List.mem_map.2 ⟨i, hi, rfl⟩⟩
  | none =>
    -- a letter that is in no run may still become several characters
    cases hexpansion : caseExpansions.lookup c.toNat with
    | none => exact .inl rfl
    | some images =>
      right
      obtain ⟨front, back, hsplit, -⟩ := List.lookup_eq_some_iff.1 hexpansion
      have hentry : (c.toNat, images) ∈ caseExpansions := by simp [hsplit]
      have hnotNil : ∀ entry ∈ caseExpansions, entry.2 ≠ [] := by decide
      refine ⟨?_, ?_, ?_⟩
      · apply List.mem_append_right
        exact List.mem_map.2 ⟨_, hentry, rfl⟩
      · simpa using hnotNil _ hentry
      · intro d hd
        obtain ⟨code, hcode, rfl⟩ := List.mem_map.1 hd
        apply hform
        apply List.mem_append_right
        exact List.mem_flatMap.2 ⟨_, hentry, hcode⟩

theorem upperChar_ne_nil (c : Char) : upperChar c ≠ [] := by
  rcases upperChar_cases c with hsame | ⟨-, hne, -⟩
  · simp [hsame]
  · exact hne

/-- White space is no letter. -/
theorem upperChar_of_isWhiteSpace {c : Char} (hc : isWhiteSpace c = true) : upperChar c = [c] := by
  rcases upperChar_cases c with hsame | ⟨hcased, -, -⟩
  · exact hsame
  · exact absurd hcased
      (notMem_of_codeSet_and whiteSpaceCodes_and_casedCodes (toNat_mem_whiteSpaceCodes hc))

/-- No letter becomes white space. -/
theorem isWhiteSpace_of_mem_upperChar {c d : Char} (h : d ∈ upperChar c) :
    isWhiteSpace d = isWhiteSpace c := by
  rcases upperChar_cases c with hsame | ⟨hcased, -, hforms⟩
  · rw [hsame, List.mem_singleton] at h
    rw [h]
  · have hc : isWhiteSpace c = false := by
      refine Bool.eq_false_iff.2 fun hspace => ?_
      exact notMem_of_codeSet_and whiteSpaceCodes_and_casedCodes (toNat_mem_whiteSpaceCodes hspace)
        hcased
    have hd : isWhiteSpace d = false := by
      refine Bool.eq_false_iff.2 fun hspace => ?_
      exact notMem_of_codeSet_and upperCodes_and_whiteSpaceCodes (hforms d h)
        (toNat_mem_whiteSpaceCodes hspace)
    rw [hc, hd]

/-- What a character becomes is left alone afterwards. -/
theorem upperChar_of_mem_upperChar {c d : Char} (h : d ∈ upperChar c) : upperChar d = [d] := by
  rcases upperChar_cases c with hsame | ⟨-, -, hforms⟩
  · rw [hsame, List.mem_singleton] at h
    rw [h, hsame]
  · rcases upperChar_cases d with hsame | ⟨hcased, -, -⟩
    · exact hsame
    · exact absurd hcased (notMem_of_codeSet_and upperCodes_and_casedCodes (hforms d h))

/-- Letters do not become semicolons. -/
theorem semicolon_notMem_upperChar {c : Char} (hc : c ≠ ';') : ';' ∉ upperChar c := by
  have hcode : ';'.toNat ∉ upperCodes := by decide +kernel
  rcases upperChar_cases c with hsame | ⟨-, -, hforms⟩
  · simpa [hsame] using Ne.symm hc
  · exact fun hmem => hcode (hforms ';' hmem)

/-! ## 4. Texts -/

@[simp]
theorem upperChars_cons (c : Char) (rest : List Char) :
    upperChars (c :: rest) = upperChar c ++ upperChars rest := rfl

/-- Only an empty text is upper-cased to one. -/
theorem upperChars_eq_nil_iff {text : List Char} : upperChars text = [] ↔ text = [] := by
  cases text with
  | nil => simp
  | cons c rest => simp [upperChar_ne_nil]

/-- Upper-casing twice is upper-casing once. -/
theorem upperChars_upperChars (text : List Char) : upperChars (upperChars text) = upperChars text := by
  -- forms of which none changes do not change together
  have hfixed : ∀ forms : List Char, (∀ d ∈ forms, upperChar d = [d]) → upperChars forms = forms := by
    intro forms
    induction forms with
    | nil => simp
    | cons d rest ih =>
      intro h
      rw [upperChars_cons, h d List.mem_cons_self,
        ih fun e he => h e (List.mem_cons_of_mem d he), List.singleton_append]
  apply hfixed
  intro d hd
  obtain ⟨c, -, hform⟩ := List.mem_flatMap.1 hd
  exact upperChar_of_mem_upperChar hform

/-- A text that is white space throughout, or nowhere, is so afterwards. -/
theorem isWhiteSpace_of_mem_upperChars {text : List Char} {white : Bool}
    (h : ∀ c ∈ text, isWhiteSpace c = white) : ∀ d ∈ upperChars text, isWhiteSpace d = white := by
  intro d hd
  obtain ⟨c, hc, hform⟩ := List.mem_flatMap.1 hd
  rw [isWhiteSpace_of_mem_upperChar hform]
  exact h c hc

/-- An upper-cased text starts with white space exactly if the text does. -/
theorem head?_upperChars {text : List Char} {d : Char} (hd : d ∈ (upperChars text).head?) :
    ∃ c ∈ text.head?, d ∈ upperChar c := by
  cases text with
  | nil => cases hd
  | cons c rest =>
    obtain ⟨first, more, hforms⟩ := List.exists_cons_of_ne_nil (upperChar_ne_nil c)
    rw [upperChars_cons, hforms] at hd
    cases hd
    exact ⟨c, rfl, by simp [hforms]⟩

/-- Blank texts stay blank, and no others become so. -/
theorem isBlank_upperChars (text : List Char) : isBlank (upperChars text) = isBlank text := by
  have hchar : ∀ c, (upperChar c).all isWhiteSpace = isWhiteSpace c := by
    intro c
    obtain ⟨first, more, hforms⟩ := List.exists_cons_of_ne_nil (upperChar_ne_nil c)
    have hall : ∀ d ∈ upperChar c, isWhiteSpace d = isWhiteSpace c :=
      fun d hd => isWhiteSpace_of_mem_upperChar hd
    rw [hforms] at hall ⊢
    cases hc : isWhiteSpace c with
    | true => exact List.all_eq_true.2 fun d hd => (hall d hd).trans hc
    | false => simp [hall first List.mem_cons_self, hc]
  simp only [isBlank, upperChars, List.all_flatMap, hchar]

/-! ## 5. Lines -/

/-- A word without white space in it belongs to the first line of the rest. -/
theorem lines_append_of_solid {word : List Char} (hword : ∀ c ∈ word, isWhiteSpace c = false)
    (hne : word ≠ []) (rest : List Char) :
    lines (word ++ rest) = (word ++ (lines rest).headD []) :: (lines rest).tail := by
  induction word with
  | nil => exact absurd rfl hne
  | cons c more ih =>
    -- neither ending of a line is a word character
    have hc : c ≠ '\n' ∧ c ≠ '\r' := by
      constructor <;>
        · rintro rfl
          exact absurd (hword _ List.mem_cons_self) (by decide)
    rw [List.cons_append, lines_cons hc.1 fun tail hcr => absurd hcr hc.2]
    by_cases hmore : more = []
    · simp [hmore]
    · rw [ih (fun d hd => hword d (List.mem_cons_of_mem c hd)) hmore]
      simp

/-- A line feed in front of an upper-cased text is one in front of the text. -/
theorem exists_newline_cons_of_upperChars {text tail : List Char}
    (h : upperChars text = '\n' :: tail) : ∃ rest, text = '\n' :: rest := by
  have hhead : '\n' ∈ (upperChars text).head? := by
    rw [h]
    rfl
  obtain ⟨c, hc, hform⟩ := head?_upperChars hhead
  obtain ⟨rest, rfl⟩ := List.head?_eq_some_iff.1 hc
  have hspace : isWhiteSpace c = true := by
    rw [← isWhiteSpace_of_mem_upperChar hform]
    decide
  rw [upperChar_of_isWhiteSpace hspace, List.mem_singleton] at hform
  exact ⟨rest, by rw [hform]⟩

/-- A character that does not end a line belongs to the first line, and so does its
upper-case form. -/
theorem lines_upperChars_cons {c : Char} {rest : List Char} (hc : c ≠ '\n')
    (hreturn : ∀ tail, c = '\r' → rest ≠ '\n' :: tail) :
    lines (upperChars (c :: rest)) =
      (upperChar c ++ (lines (upperChars rest)).headD []) :: (lines (upperChars rest)).tail := by
  rw [upperChars_cons]
  by_cases hspace : isWhiteSpace c = true
  · rw [upperChar_of_isWhiteSpace hspace, List.singleton_append, List.singleton_append]
    apply lines_cons hc
    intro tail hcr hnext
    obtain ⟨more, hmore⟩ := exists_newline_cons_of_upperChars hnext
    exact hreturn more hcr hmore
  · apply lines_append_of_solid ?_ (upperChar_ne_nil c)
    intro d hd
    rw [isWhiteSpace_of_mem_upperChar hd]
    simpa using hspace

/-- The lines of an upper-cased text are the upper-cased lines of the text. -/
theorem lines_upperChars (text : List Char) :
    lines (upperChars text) = (lines text).map upperChars := by
  have hnewline : upperChar '\n' = ['\n'] := upperChar_of_isWhiteSpace (by decide)
  have hcr : upperChar '\r' = ['\r'] := upperChar_of_isWhiteSpace (by decide)
  -- a character that does not end a line becomes characters that do not either
  fun_induction lines text with
  | case1 => rfl
  | case2 rest ih =>
    rw [upperChars_cons, hnewline, List.singleton_append, lines_newline, ih]
    rfl
  | case3 rest ih =>
    rw [upperChars_cons, upperChars_cons, hcr, hnewline]
    change [] :: lines (upperChars rest) = _
    rw [ih]
    rfl
  | case4 c rest hc hreturn hnil ih =>
    rw [lines_upperChars_cons hc hreturn, ih, hnil]
    simp
  | case5 c rest hc hreturn first others hlines ih =>
    rw [lines_upperChars_cons hc hreturn, ih, hlines]
    simp

end InputScript.Text
