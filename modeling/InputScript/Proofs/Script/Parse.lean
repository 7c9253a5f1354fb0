/-
Lines are parsed by their grammar.

The readers of statements (`parse_line`) work over tokens and take what they find
first; the grammar works over characters and only says what may stand where. For
each reader a theorem says that, on the tokens of a text, it finds exactly what
the grammar allows, and leaves the tokens of the rest. The last theorem puts them
together in the order in which a line is tried.
-/
import InputScript.Proofs.Script.Grammar
import InputScript.Proofs.Script.Scan

set_option autoImplicit false

namespace InputScript.Script

open InputScript.Text InputScript.Timeline Grammar

/-! ## 1. Single tokens -/

namespace Token

/-- The longest match of a kind that comes in runs is a maximal run. -/
theorem heads_run_iff {kind : TokenKind} {belongs : Char → Bool} (hrun : kind.isRun = true)
    (hkind : ∀ c, TokenKind.ofChar c = kind ↔ belongs c = true) {run rest : List Char} :
    Heads ⟨kind, run⟩ rest ↔ Run belongs run rest := by
  constructor
  · intro h
    refine ⟨h.ne_nil, ?_, ?_⟩
    · intro c hc
      exact (hkind c).1 (h.kinds c hc)
    · intro c hc
      rw [← Bool.not_eq_true, ← hkind c]
      exact h.longest hrun c hc
  · intro h
    refine ⟨h.ne_nil, ?_, ?_, ?_⟩
    · intro c hc
      exact (hkind c).2 (h.all c hc)
    · intro hsymbol
      rw [hrun] at hsymbol
      cases hsymbol
    · intro _ c hc
      rw [Ne, hkind c, Bool.not_eq_true]
      exact h.maximal c hc

/-- A line starts with a number where it starts with a maximal run of digits. -/
theorem scan_eq_number_cons_iff {text digits : List Char} {tokens : List Token} :
    scan text = ⟨.number, digits⟩ :: tokens ↔
      ∃ rest, text = digits ++ rest ∧ Run Char.isDigit digits rest ∧ scan rest = tokens := by
  simp only [scan_eq_cons_iff, heads_run_iff rfl TokenKind.ofChar_eq_number_iff]

/-- A line starts with white space where it starts with a maximal run of it. -/
theorem scan_eq_space_cons_iff {text gap : List Char} {tokens : List Token} :
    scan text = ⟨.space, gap⟩ :: tokens ↔
      ∃ rest, text = gap ++ rest ∧ Run isWhiteSpace gap rest ∧ scan rest = tokens := by
  simp only [scan_eq_cons_iff, heads_run_iff rfl TokenKind.ofChar_eq_space_iff]

/-- A symbol is a token wherever it stands. -/
theorem scan_symbol_cons {c : Char} (hsymbol : (TokenKind.ofChar c).isRun = false)
    (rest : List Char) : scan (c :: rest) = ⟨.ofChar c, [c]⟩ :: scan rest := by
  apply scan_cons_of_ne
  intro hrun
  rw [hsymbol] at hrun
  cases hrun

end Token

open Token

theorem expect_scan_cons {c : Char} (hsymbol : (TokenKind.ofChar c).isRun = false)
    (rest : List Char) : expect (.ofChar c) (scan (c :: rest)) = some (scan rest) := by
  rw [scan_symbol_cons hsymbol, expect, if_pos rfl]

/-- A symbol is expected where it is the next character. -/
theorem expect_scan_eq_some_iff {c : Char} (hsymbol : (TokenKind.ofChar c).isRun = false)
    {text : List Char} {tokens : List Token} :
    expect (.ofChar c) (scan text) = some tokens ↔
      ∃ rest, text = c :: rest ∧ scan rest = tokens := by
  constructor
  · intro h
    cases text with
    | nil => cases h
    | cons d rest =>
      obtain ⟨token, more, hscan⟩ := List.exists_cons_of_ne_nil (scan_cons_ne_nil d rest)
      -- the kind that is asked for has one character, so `d` is that one
      have hkind := kind_of_scan_cons hscan
      rw [hscan, expect, Option.ite_none_right_eq_some, hkind,
        TokenKind.ofChar_eq_ofChar_iff hsymbol] at h
      obtain ⟨rfl, hmore⟩ := h
      rw [scan_symbol_cons hsymbol] at hscan
      cases hscan
      exact ⟨rest, rfl, Option.some_inj.1 hmore⟩
  · rintro ⟨rest, rfl, rfl⟩
    exact expect_scan_cons hsymbol rest

/-- A symbol is not found where another character comes next. -/
theorem expect_scan_eq_none {c : Char} (hsymbol : (TokenKind.ofChar c).isRun = false)
    {text : List Char} (h : ∀ d ∈ text.head?, d ≠ c) : expect (.ofChar c) (scan text) = none := by
  rw [Option.eq_none_iff_forall_ne_some]
  intro tokens hsome
  obtain ⟨rest, rfl, -⟩ := (expect_scan_eq_some_iff hsymbol).1 hsome
  exact h c rfl rfl

/-- White space is expected where there is some, and all of it is taken. -/
theorem expect_space_scan_eq_some_iff {text : List Char} {tokens : List Token} :
    expect .space (scan text) = some tokens ↔
      ∃ rest, Gap text rest ∧ Solid rest ∧ scan rest = tokens := by
  constructor
  · intro h
    cases hscan : scan text with
    | nil =>
      rw [hscan] at h
      cases h
    | cons token more =>
      obtain ⟨kind, gap⟩ := token
      rw [hscan, expect, Option.ite_none_right_eq_some, Option.some_inj] at h
      obtain ⟨rfl, rfl⟩ := h
      obtain ⟨rest, rfl, hgap, rfl⟩ := scan_eq_space_cons_iff.1 hscan
      exact ⟨rest, ⟨gap, rfl, hgap.ne_nil, hgap.all⟩, hgap.maximal, rfl⟩
  · rintro ⟨rest, ⟨gap, rfl, hnil, hall⟩, hsolid, rfl⟩
    rw [scan_eq_space_cons_iff.2 ⟨rest, rfl, ⟨hnil, hall, hsolid⟩, rfl⟩, expect, if_pos rfl]

/-- There is nothing to step over in front of anything solid. -/
theorem skipSpace_scan_of_solid {text : List Char} (h : Solid text) :
    skipSpace (scan text) = scan text := by
  cases text with
  | nil => rfl
  | cons c text =>
    obtain ⟨⟨kind, run⟩, more, hscan⟩ := List.exists_cons_of_ne_nil (scan_cons_ne_nil c text)
    have hkind : kind = .ofChar c := kind_of_scan_cons hscan
    have hspace : kind ≠ .space := by
      rw [hkind, Ne, TokenKind.ofChar_eq_space_iff, h c rfl]
      decide
    rw [hscan]
    cases kind with
    | space => exact absurd rfl hspace
    | _ => rfl

/-- Stepping over white space steps over all of it. -/
theorem skipSpace_scan {text rest : List Char} (h : Blank text rest) (hsolid : Solid rest) :
    skipSpace (scan text) = scan rest := by
  obtain ⟨blank, rfl, hall⟩ := h
  by_cases hnil : blank = []
  · subst hnil
    exact skipSpace_scan_of_solid hsolid
  · rw [scan_eq_space_cons_iff.2 ⟨rest, rfl, ⟨hnil, hall, hsolid⟩, rfl⟩]
    rfl

/-! ## 2. Numbers -/

/-- The reader of numbers finds what the grammar allows. -/
theorem readNumber_scan_eq_some_iff {text : List Char} {value : UInt64} {tokens : List Token} :
    readNumber (scan text) = some (value, tokens) ↔
      ∃ rest, Number text value rest ∧ scan rest = tokens := by
  constructor
  · intro h
    cases hscan : scan text with
    | nil =>
      rw [hscan] at h
      cases h
    | cons token more =>
      obtain ⟨kind, digits⟩ := token
      rw [hscan] at h
      -- only a token of digits is read, and it may still be too large for a word
      cases kind with
      | number =>
        rw [readNumber, Option.map_eq_some_iff] at h
        obtain ⟨word, hword, hpair⟩ := h
        cases hpair
        obtain ⟨rest, rfl, hdigits, rfl⟩ := scan_eq_number_cons_iff.1 hscan
        exact ⟨rest, ⟨digits, rfl, hdigits, wordOfDigits?_eq_some_iff.1 hword⟩, rfl⟩
      | _ => cases h
  · rintro ⟨rest, ⟨digits, rfl, hdigits, hvalue⟩, rfl⟩
    rw [scan_eq_number_cons_iff.2 ⟨rest, rfl, hdigits, rfl⟩, readNumber,
      wordOfDigits?_eq_some_iff.2 hvalue]
    rfl

/-- The digits stand behind the sign, or at the front if there is none. -/
theorem readSigned_eq_some_iff {tokens rest : List Token} {numeral : SignedNumeral} :
    readSigned tokens = some (numeral, rest) ↔
      ∃ digits, (expect .minus tokens).getD tokens = ⟨.number, digits⟩ :: rest ∧
        ⟨(expect .minus tokens).isSome, Nat.ofDigitChars 10 digits 0⟩ = numeral := by
  unfold readSigned
  dsimp only
  generalize (expect .minus tokens).getD tokens = behindSign
  constructor
  · intro h
    split at h
    next digits more =>
      cases h
      exact ⟨digits, rfl, rfl⟩
    next => cases h
  · rintro ⟨digits, rfl, rfl⟩
    rfl

/-- The reader of signed numbers finds what the grammar allows, of any size. -/
theorem readSigned_scan_eq_some_iff {text : List Char} {numeral : SignedNumeral}
    {tokens : List Token} :
    readSigned (scan text) = some (numeral, tokens) ↔
      ∃ rest, Signed text numeral rest ∧ scan rest = tokens := by
  rw [readSigned_eq_some_iff]
  constructor
  · rintro ⟨digits, hdigits, rfl⟩
    -- with a sign or without, the digits are the next token
    cases hsign : expect .minus (scan text) with
    | none =>
      rw [hsign] at hdigits
      obtain ⟨rest, rfl, hrun, rfl⟩ := scan_eq_number_cons_iff.1 hdigits
      exact ⟨rest, .unsigned hrun, rfl⟩
    | some behind =>
      rw [hsign] at hdigits
      obtain ⟨body, rfl, rfl⟩ := (expect_scan_eq_some_iff (c := '-') rfl).1 hsign
      obtain ⟨rest, rfl, hrun, rfl⟩ := scan_eq_number_cons_iff.1 hdigits
      exact ⟨rest, .negative hrun, rfl⟩
  · rintro ⟨rest, hsigned, rfl⟩
    cases hsigned with
    | @unsigned digits _ hrun =>
      -- a digit comes first, and that is no hyphen
      have hsign : expect .minus (scan (digits ++ rest)) = none := by
        apply expect_scan_eq_none (c := '-') rfl
        rintro d hd rfl
        exact absurd (hrun.head?_mem _ hd) (by decide)
      rw [hsign]
      exact ⟨digits, scan_eq_number_cons_iff.2 ⟨rest, rfl, hrun, rfl⟩, rfl⟩
    | @negative digits _ hrun =>
      have hsign : expect .minus (scan ('-' :: (digits ++ rest))) = some (scan (digits ++ rest)) :=
        expect_scan_cons (c := '-') rfl _
      rw [hsign]
      exact ⟨digits, scan_eq_number_cons_iff.2 ⟨rest, rfl, hrun, rfl⟩, rfl⟩

/-! ## 3. Sticks -/

/-- A stick is four parts one behind the other. -/
theorem readStick_eq_some_iff {tokens rest : List Token} {pair : StickPair} :
    readStick tokens = some (pair, rest) ↔
      ∃ first semicolon second, expect .space tokens = some first ∧
        readSigned first = some (pair.x, semicolon) ∧ expect .semicolon semicolon = some second ∧
        readSigned second = some (pair.y, rest) := by
  unfold readStick
  simp only [Option.bind_eq_bind, Option.bind_eq_some_iff, Option.pure_def, Option.some_inj,
    Prod.exists, Prod.mk.injEq]
  constructor
  · rintro ⟨first, hfirst, x, semicolon, hx, second, hsecond, y, behind, hy, rfl, rfl⟩
    exact ⟨first, semicolon, second, hfirst, hx, hsecond, hy⟩
  · rintro ⟨first, semicolon, second, hfirst, hx, hsecond, hy⟩
    exact ⟨first, hfirst, pair.x, semicolon, hx, second, hsecond, pair.y, rest, hy, rfl, rfl⟩

/-- The reader of sticks finds what the grammar allows. -/
theorem readStick_scan_eq_some_iff {text : List Char} {pair : StickPair} {tokens : List Token} :
    readStick (scan text) = some (pair, tokens) ↔
      ∃ rest, StickField text pair rest ∧ scan rest = tokens := by
  rw [readStick_eq_some_iff]
  constructor
  · rintro ⟨first, semicolon, second, hfirst, hx, hsecond, hy⟩
    obtain ⟨xText, hgap, -, rfl⟩ := expect_space_scan_eq_some_iff.1 hfirst
    obtain ⟨middle, hxText, rfl⟩ := readSigned_scan_eq_some_iff.1 hx
    obtain ⟨yText, rfl, rfl⟩ := (expect_scan_eq_some_iff (c := ';') rfl).1 hsecond
    obtain ⟨rest, hyText, rfl⟩ := readSigned_scan_eq_some_iff.1 hy
    exact ⟨rest, ⟨xText, yText, hgap, hxText, hyText⟩, rfl⟩
  · rintro ⟨rest, ⟨xText, yText, hgap, hx, hy⟩, rfl⟩
    refine ⟨scan xText, scan (';' :: yText), scan yText, ?_, ?_, ?_, ?_⟩
    · exact expect_space_scan_eq_some_iff.2 ⟨xText, hgap, hx.solid, rfl⟩
    · exact readSigned_scan_eq_some_iff.2 ⟨_, hx, rfl⟩
    · exact expect_scan_cons (c := ';') rfl yText
    · exact readSigned_scan_eq_some_iff.2 ⟨rest, hy, rfl⟩

/-! ## 4. Frames -/

/-- Reads `[- NUMBER]`. -/
def readUpTo (tokens : List Token) : Option (Option UInt64 × List Token) :=
  match expect .minus tokens with
  | some rest => (readNumber rest).map fun (number, rest) => (some number, rest)
  | none => some (none, tokens)

/-- Frames are one number or two, and a sign makes them relative. -/
theorem readFrames_eq_some_iff {tokens rest : List Token} {address : FrameAddress} :
    readFrames tokens = some (address, rest) ↔
      ∃ first middle second, readNumber ((expect .plus tokens).getD tokens) = some (first, middle) ∧
        readUpTo middle = some (second, rest) ∧
        (if (expect .plus tokens).isSome then FrameAddress.relative else .absolute) first second =
          address := by
  unfold readFrames
  dsimp only
  generalize (if (expect .plus tokens).isSome then FrameAddress.relative else .absolute) = form
  rw [Option.bind_eq_bind, Option.bind_eq_some_iff, Prod.exists]
  apply exists_congr
  intro first
  apply exists_congr
  intro middle
  rw [exists_and_left]
  apply and_congr_right
  intro _
  unfold readUpTo
  -- behind a minus sign the second number must be there, without one it must not
  cases expect .minus middle with
  | none => simp [and_comm]
  | some behind =>
    constructor
    · intro h
      obtain ⟨⟨second, more⟩, hsecond, hpair⟩ := Option.bind_eq_some_iff.1 h
      cases hpair
      exact ⟨some second, Option.map_eq_some_iff.2 ⟨_, hsecond, rfl⟩, rfl⟩
    · rintro ⟨_, h, rfl⟩
      obtain ⟨⟨second, more⟩, hsecond, hpair⟩ := Option.map_eq_some_iff.1 h
      cases hpair
      exact Option.bind_eq_some_iff.2 ⟨_, hsecond, rfl⟩

/-- What is read up to is what the grammar allows there. -/
theorem readUpTo_scan_of_eq_some {text : List Char} {second : Option UInt64} {tokens : List Token}
    (h : readUpTo (scan text) = some (second, tokens)) :
    ∃ rest, UpTo text second rest ∧ scan rest = tokens := by
  unfold readUpTo at h
  cases hminus : expect .minus (scan text) with
  | none =>
    rw [hminus] at h
    cases h
    exact ⟨text, .absent, rfl⟩
  | some behind =>
    obtain ⟨number, rfl, rfl⟩ := (expect_scan_eq_some_iff (c := '-') rfl).1 hminus
    rw [hminus] at h
    obtain ⟨⟨value, more⟩, hvalue, hpair⟩ := Option.map_eq_some_iff.1 h
    cases hpair
    obtain ⟨rest, hnumber, rfl⟩ := readNumber_scan_eq_some_iff.1 hvalue
    exact ⟨rest, .present hnumber, rfl⟩

/-- The number behind a hyphen may only be left out where no hyphen is. -/
theorem readUpTo_scan {text rest : List Char} {second : Option UInt64} (h : UpTo text second rest)
    (hrest : ∀ c ∈ rest.head?, c ≠ '-') : readUpTo (scan text) = some (second, scan rest) := by
  unfold readUpTo
  cases h with
  | absent =>
    have hminus : expect .minus (scan text) = none := expect_scan_eq_none (c := '-') rfl hrest
    rw [hminus]
  | @present number _ value hnumber =>
    have hminus : expect .minus (scan ('-' :: number)) = some (scan number) :=
      expect_scan_cons (c := '-') rfl number
    rw [hminus]
    dsimp only
    rw [readNumber_scan_eq_some_iff.2 ⟨rest, hnumber, rfl⟩]
    rfl

/-- What is read as frames is what the grammar allows there. -/
theorem readFrames_scan_of_eq_some {text : List Char} {address : FrameAddress} {tokens : List Token}
    (h : readFrames (scan text) = some (address, tokens)) :
    ∃ rest, Frames text address rest ∧ scan rest = tokens := by
  obtain ⟨first, middle, second, hfirst, hsecond, rfl⟩ := readFrames_eq_some_iff.1 h
  -- a sign in front makes the frames relative, and nothing else does
  cases hplus : expect .plus (scan text) with
  | none =>
    rw [hplus] at hfirst
    obtain ⟨behind, hnumber, rfl⟩ := readNumber_scan_eq_some_iff.1 hfirst
    obtain ⟨rest, hupTo, rfl⟩ := readUpTo_scan_of_eq_some hsecond
    exact ⟨rest, .absolute hnumber hupTo, rfl⟩
  | some signless =>
    rw [hplus] at hfirst
    obtain ⟨number, rfl, rfl⟩ := (expect_scan_eq_some_iff (c := '+') rfl).1 hplus
    obtain ⟨behind, hnumber, rfl⟩ := readNumber_scan_eq_some_iff.1 hfirst
    obtain ⟨rest, hupTo, rfl⟩ := readUpTo_scan_of_eq_some hsecond
    exact ⟨rest, .relative hnumber hupTo, rfl⟩

/-- What the grammar allows as frames is read, if no hyphen could make it longer. -/
theorem readFrames_scan {text rest : List Char} {address : FrameAddress}
    (h : Frames text address rest) (hrest : ∀ c ∈ rest.head?, c ≠ '-') :
    readFrames (scan text) = some (address, scan rest) := by
  rw [readFrames_eq_some_iff]
  cases h with
  | @absolute _ middle _ first second hfirst hsecond =>
    have hplus : expect .plus (scan text) = none := by
      apply expect_scan_eq_none (c := '+') rfl
      rintro c hc rfl
      exact absurd (hfirst.isDigit_head? _ hc) (by decide)
    rw [hplus]
    exact ⟨first, scan middle, second, readNumber_scan_eq_some_iff.2 ⟨middle, hfirst, rfl⟩,
      readUpTo_scan hsecond hrest, rfl⟩
  | @relative number middle _ first second hfirst hsecond =>
    have hplus : expect .plus (scan ('+' :: number)) = some (scan number) :=
      expect_scan_cons (c := '+') rfl number
    rw [hplus]
    exact ⟨first, scan middle, second, readNumber_scan_eq_some_iff.2 ⟨middle, hfirst, rfl⟩,
      readUpTo_scan hsecond hrest, rfl⟩

/-! ## 5. Lines -/

/-- A loop start is a number, the word and the brace, with white space anywhere. -/
theorem loopStart?_eq_some_iff {tokens : List Token} {repetitions : UInt64} :
    loopStart? tokens = some repetitions ↔
      ∃ behind brace rest, readNumber (skipSpace tokens) = some (repetitions, behind) ∧
        skipSpace behind = ⟨.word, ['X']⟩ :: brace ∧
        expect .openBrace (skipSpace brace) = some rest := by
  unfold loopStart?
  constructor
  · intro h
    obtain ⟨⟨value, behind⟩, hvalue, h⟩ := Option.bind_eq_some_iff.1 h
    dsimp only at h
    split at h
    next brace hword =>
      obtain ⟨rest, hrest, h⟩ := Option.bind_eq_some_iff.1 h
      cases h
      exact ⟨behind, brace, rest, hvalue, hword, hrest⟩
    next => cases h
  · rintro ⟨behind, brace, rest, hvalue, hword, hrest⟩
    rw [hvalue]
    dsimp only [Option.bind_eq_bind, Option.bind_some]
    rw [hword]
    exact Option.bind_eq_some_iff.2 ⟨rest, hrest, rfl⟩

/-- The word `X` is an `X` that no other character of a word follows. -/
theorem scan_eq_x_cons_iff {text : List Char} {tokens : List Token} :
    scan text = ⟨.word, ['X']⟩ :: tokens ↔
      ∃ rest, text = 'X' :: rest ∧ (∀ c ∈ rest.head?, TokenKind.ofChar c ≠ .word) ∧
        scan rest = tokens := by
  rw [scan_eq_cons_iff]
  apply exists_congr
  intro rest
  constructor
  · rintro ⟨htext, h, htokens⟩
    exact ⟨htext, h.longest rfl, htokens⟩
  · rintro ⟨htext, h, htokens⟩
    refine ⟨htext, ⟨List.cons_ne_nil 'X' [], ?_, fun _ => rfl, fun _ => h⟩, htokens⟩
    intro c hc
    rw [List.mem_singleton.1 hc]
    rfl

/-- The reader of loop starts finds what the grammar allows. -/
theorem loopStart?_scan_eq_some_iff {text : List Char} {repetitions : UInt64} :
    loopStart? (scan text) = some repetitions ↔ LoopStartLine text repetitions := by
  rw [loopStart?_eq_some_iff]
  constructor
  · rintro ⟨behind, brace, rest, hvalue, hword, hrest⟩
    obtain ⟨number, hblank, hsolid⟩ := exists_blank text
    rw [skipSpace_scan hblank hsolid] at hvalue
    obtain ⟨behindNumber, hnumber, rfl⟩ := readNumber_scan_eq_some_iff.1 hvalue
    obtain ⟨x, hblankX, hsolidX⟩ := exists_blank behindNumber
    rw [skipSpace_scan hblankX hsolidX] at hword
    obtain ⟨behindX, rfl, -, rfl⟩ := scan_eq_x_cons_iff.1 hword
    obtain ⟨opening, hblankBrace, hsolidBrace⟩ := exists_blank behindX
    rw [skipSpace_scan hblankBrace hsolidBrace] at hrest
    obtain ⟨rest, rfl, rfl⟩ := (expect_scan_eq_some_iff (c := '{') rfl).1 hrest
    exact ⟨number, behindNumber, behindX, rest, hblank, hnumber, hblankX, hblankBrace⟩
  · rintro ⟨number, behindNumber, behindX, rest, hblank, hnumber, hblankX, hblankBrace⟩
    refine ⟨scan behindNumber, scan behindX, scan rest, ?_, ?_, ?_⟩
    · rw [skipSpace_scan hblank hnumber.solid]
      exact readNumber_scan_eq_some_iff.2 ⟨behindNumber, hnumber, rfl⟩
    · rw [skipSpace_scan hblankX (solid_cons (by decide) _)]
      refine scan_eq_x_cons_iff.2 ⟨behindX, rfl, ?_, rfl⟩
      -- white space or the brace ends the word behind the `X`
      obtain ⟨blank, rfl, hall⟩ := hblankBrace
      intro c hc
      cases blank with
      | nil =>
        cases hc
        decide
      | cons d blank =>
        cases hc
        rw [(TokenKind.ofChar_eq_space_iff _).2 (hall _ List.mem_cons_self)]
        decide
    · rw [skipSpace_scan hblankBrace (solid_cons (by decide) _)]
      exact expect_scan_cons (c := '{') rfl rest

/-- The reader of loop ends finds what the grammar allows. -/
theorem isLoopEnd_scan_iff {text : List Char} :
    isLoopEnd (scan text) = true ↔ LoopEndLine text := by
  rw [isLoopEnd, Option.isSome_iff_exists]
  constructor
  · rintro ⟨tokens, htokens⟩
    obtain ⟨closing, hblank, hsolid⟩ := exists_blank text
    rw [skipSpace_scan hblank hsolid] at htokens
    obtain ⟨rest, rfl, -⟩ := (expect_scan_eq_some_iff (c := '}') rfl).1 htokens
    exact ⟨rest, hblank⟩
  · rintro ⟨rest, hblank⟩
    rw [skipSpace_scan hblank (solid_cons (by decide) _)]
    exact ⟨scan rest, expect_scan_cons (c := '}') rfl rest⟩

/-- The tokens of an instruction, with the sticks as the readers find them. -/
theorem instruction?_eq_some_iff {tokens : List Token} {written : Instruction} :
    instruction? tokens = some written ↔
      ∃ behind rest, readFrames (skipSpace tokens) = some (written.frames, behind) ∧
        expect .space behind = some rest ∧ rest.takeWhile isSolid ≠ [] ∧
        buttonNames (joined (rest.takeWhile isSolid)) = written.buttons ∧
        (readStick (rest.dropWhile isSolid)).map Prod.fst = written.left ∧
        ((readStick (rest.dropWhile isSolid)).bind fun found => readStick found.2).map Prod.fst =
          written.right := by
  obtain ⟨frames, buttons, left, right⟩ := written
  unfold instruction?
  constructor
  · intro h
    obtain ⟨⟨address, behind⟩, hframes, h⟩ := Option.bind_eq_some_iff.1 h
    obtain ⟨rest, hrest, h⟩ := Option.bind_eq_some_iff.1 h
    dsimp only at h
    -- the field of buttons must not be empty, whereas the sticks may both be missing
    split at h
    next => cases h
    next hfield =>
      cases h
      exact ⟨behind, rest, hframes, hrest, fun hnil => hfield (List.isEmpty_iff.2 hnil), rfl, rfl, rfl⟩
  · rintro ⟨behind, rest, hframes, hrest, hfield, rfl, rfl, rfl⟩
    refine Option.bind_eq_some_iff.2 ⟨_, hframes, Option.bind_eq_some_iff.2 ⟨rest, hrest, ?_⟩⟩
    exact if_neg fun hnil => hfield (List.isEmpty_iff.1 hnil)

/-- No stick is read where the grammar allows none. -/
theorem readStick_scan_eq_none_iff {text : List Char} :
    readStick (scan text) = none ↔ ∀ pair rest, ¬StickField text pair rest := by
  constructor
  · intro h pair rest hstick
    rw [readStick_scan_eq_some_iff.2 ⟨rest, hstick, rfl⟩] at h
    cases h
  · intro h
    rw [Option.eq_none_iff_forall_ne_some]
    rintro ⟨pair, tokens⟩ hsome
    obtain ⟨rest, hstick, -⟩ := readStick_scan_eq_some_iff.1 hsome
    exact h pair rest hstick

/-- The right stick is only looked for behind the left one. -/
theorem sticks_iff {text : List Char} {left right : Option StickPair} :
    Sticks text left right ↔
      (readStick (scan text)).map Prod.fst = left ∧
        ((readStick (scan text)).bind fun found => readStick found.2).map Prod.fst = right := by
  constructor
  · intro h
    cases h with
    | neither hnone =>
      rw [readStick_scan_eq_none_iff.2 hnone]
      exact ⟨rfl, rfl⟩
    | leftOnly hleft hnone =>
      rw [readStick_scan_eq_some_iff.2 ⟨_, hleft, rfl⟩]
      exact ⟨rfl, congrArg (Option.map Prod.fst) (readStick_scan_eq_none_iff.2 hnone)⟩
    | both hleft hright =>
      -- the second reading starts at the tokens of what the first one left
      rw [readStick_scan_eq_some_iff.2 ⟨_, hleft, rfl⟩]
      exact ⟨rfl, congrArg (Option.map Prod.fst) (readStick_scan_eq_some_iff.2 ⟨_, hright, rfl⟩)⟩
  · rintro ⟨rfl, rfl⟩
    cases hleft : readStick (scan text) with
    | none => exact .neither (readStick_scan_eq_none_iff.1 hleft)
    | some found =>
      obtain ⟨pair, tokens⟩ := found
      obtain ⟨rest, hfirst, rfl⟩ := readStick_scan_eq_some_iff.1 hleft
      rw [Option.bind_some]
      dsimp only
      cases hright : readStick (scan rest) with
      | none => exact .leftOnly hfirst (readStick_scan_eq_none_iff.1 hright)
      | some found =>
        obtain ⟨other, tokens⟩ := found
        obtain ⟨tail, hsecond, rfl⟩ := readStick_scan_eq_some_iff.1 hright
        exact .both hfirst hsecond

/-- The names of a field are its pieces between semicolons. -/
theorem buttonNames_eq (field : List Char) : buttonNames field = names field := by
  rw [buttonNames, names, pieces_eq_splitOn]

/-- The reader of instructions finds what the grammar allows. -/
theorem instruction?_scan_eq_some_iff {text : List Char} {written : Instruction} :
    instruction? (scan text) = some written ↔ InstructionLine text written := by
  rw [instruction?_eq_some_iff]
  constructor
  · rintro ⟨behind, rest, hframes, hrest, hfield, hbuttons, hsticks⟩
    obtain ⟨start, hblank, hsolid⟩ := exists_blank text
    rw [skipSpace_scan hblank hsolid] at hframes
    obtain ⟨behindFrames, hread, rfl⟩ := readFrames_scan_of_eq_some hframes
    obtain ⟨line, hgap, -, rfl⟩ := expect_space_scan_eq_some_iff.1 hrest
    rw [Ne, takeWhile_isSolid_scan_eq_nil_iff] at hfield
    rw [joined_takeWhile_isSolid_scan, buttonNames_eq] at hbuttons
    rw [dropWhile_isSolid_scan, ← sticks_iff] at hsticks
    -- the field is what is left of the line in front of its next white space
    refine ⟨start, behindFrames, _, _, hblank, hread, ?_, run_takeWhile hfield, hbuttons.symm,
      hsticks⟩
    rw [List.takeWhile_append_dropWhile]
    exact hgap
  · rintro ⟨start, behindFrames, field, rest, hblank, hframes, hgap, hfield, hbuttons, hsticks⟩
    have hsolid : Solid (field ++ rest) := by
      intro c hc
      exact Bool.not_eq_true' _ ▸ hfield.head?_mem c hc
    refine ⟨scan behindFrames, scan (field ++ rest), ?_, ?_, ?_, ?_, ?_⟩
    · -- white space follows, so no hyphen can ask for a second number
      rw [skipSpace_scan hblank hframes.solid]
      apply readFrames_scan hframes
      rintro c hc rfl
      exact absurd (hgap.isWhiteSpace_head? _ hc) (by decide)
    · exact expect_space_scan_eq_some_iff.2 ⟨_, hgap, hsolid, rfl⟩
    · rw [Ne, takeWhile_isSolid_scan_eq_nil_iff, hfield.takeWhile_eq]
      exact hfield.ne_nil
    · rw [joined_takeWhile_isSolid_scan, hfield.takeWhile_eq, buttonNames_eq, hbuttons]
    · rw [dropWhile_isSolid_scan, hfield.dropWhile_eq]
      exact sticks_iff.1 hsticks

/-- **Lines are parsed by their grammar.** A line is a loop start if the grammar
reads one at its front, with the repetitions it reads; failing that a loop end; and
failing both the instruction the grammar reads. Every other line is ignored. -/
theorem parse_eq_iff (line : String) :
    let text := upperChars line.toList
    let isStart := ∃ repetitions, LoopStartLine text repetitions
    (∀ repetitions, Statement.parse line = .loopStart repetitions ↔
        LoopStartLine text repetitions) ∧
      (Statement.parse line = .loopEnd ↔ ¬isStart ∧ LoopEndLine text) ∧
      (∀ written, Statement.parse line = .instruction written ↔
        ¬isStart ∧ ¬LoopEndLine text ∧ InstructionLine text written) ∧
      (Statement.parse line = .ignored ↔
        ¬isStart ∧ ¬LoopEndLine text ∧ ¬∃ written, InstructionLine text written) := by
  intro text isStart
  have hstart : ∀ repetitions, loopStart? (scan text) = some repetitions ↔
      LoopStartLine text repetitions := fun _ => loopStart?_scan_eq_some_iff
  have hend : isLoopEnd (scan text) = true ↔ LoopEndLine text := isLoopEnd_scan_iff
  have hwritten : ∀ written, instruction? (scan text) = some written ↔
      InstructionLine text written := fun _ => instruction?_scan_eq_some_iff
  have hparse : Statement.parse line = .ofTokens (scan text) := rfl
  simp only [isStart, ← hstart, ← hend, ← hwritten, hparse, Statement.ofTokens]
  -- one case for each form that is tried, and one for a line that fits none
  cases loopStart? (scan text) with
  | some repetitions => simp
  | none =>
    cases isLoopEnd (scan text) with
    | true => simp
    | false =>
      cases instruction? (scan text) with
      | some written => simp
      | none => simp

end InputScript.Script
