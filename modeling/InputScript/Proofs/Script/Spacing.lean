/-
White space does not matter.

Between two fields any white space does as well as any other, and at the ends of a line
none is needed. The readers of statements never look at the characters of a white space
token, and where they ask for one, they ask for something behind it. So on two token
lists that differ in this way only, each reader finds the same and hands back rests that
differ in this way only. A line and the same line with even spaces scan to two such
lists, once the white space in front is stepped over, and therefore say the same.
-/
import InputScript.Proofs.Script.Parse
import InputScript.Proofs.Text.Fields

set_option autoImplicit false

namespace InputScript.Script

open InputScript.Text InputScript.Timeline Grammar

/-! ## 1. Tokens with other white space -/

/-- Tokens that differ in white space only: in its characters, and in whether there is
some at the end. -/
inductive Respaced : List Token → List Token → Prop
  | nil : Respaced [] []
  | atEnd (gap : List Char) : Respaced [⟨.space, gap⟩] []
  | gap {tokens others : List Token} (first second : List Char) (h : Respaced tokens others) :
    Respaced (⟨.space, first⟩ :: tokens) (⟨.space, second⟩ :: others)
  | solid {tokens others : List Token} {token : Token} (hsolid : token.kind ≠ .space)
    (h : Respaced tokens others) : Respaced (token :: tokens) (token :: others)

/-- What two readers have found: both nothing, or both the same in front of rests that
differ in white space only. -/
def Agree {α : Type} : Option (α × List Token) → Option (α × List Token) → Prop :=
  Option.Rel fun found other => found.1 = other.1 ∧ Respaced found.2 other.2

/-- Two readers that go on where two others agree. -/
theorem rel_bind {α β γ : Type} {related : α → β → Prop} {first : Option α} {second : Option β}
    {read : α → Option γ} {readOther : β → Option γ} {result : γ → γ → Prop}
    (h : Option.Rel related first second)
    (hread : ∀ a b, related a b → Option.Rel result (read a) (readOther b)) :
    Option.Rel result (first.bind read) (second.bind readOther) := by
  cases h with
  | none => exact .none
  | some h => exact hread _ _ h

theorem Agree.map_fst {α : Type} {found other : Option (α × List Token)} (h : Agree found other) :
    found.map Prod.fst = other.map Prod.fst := by
  cases h with
  | none => rfl
  | some h => simp [h.1]

theorem eq_of_rel_eq {α : Type} {first second : Option α} (h : Option.Rel Eq first second) :
    first = second := by
  cases h with
  | none => rfl
  | some h => rw [h]

namespace Respaced

/-- The same tokens in front make no difference. -/
theorem append {tokens others : List Token} (h : Respaced tokens others) (front : List Token) :
    Respaced (front ++ tokens) (front ++ others) := by
  induction front with
  | nil => exact h
  | cons token front ih =>
    obtain ⟨kind, text⟩ := token
    by_cases hkind : kind = .space
    · subst hkind
      exact .gap text text ih
    · exact .solid hkind ih

variable {tokens others : List Token} (h : Respaced tokens others)
include h

/-! ## 2. Readers -/

/-- Stepping over white space keeps tokens alike. -/
theorem skipSpace : Respaced (skipSpace tokens) (skipSpace others) := by
  cases h with
  | nil => exact .nil
  | atEnd gap => exact .nil
  | gap first second h => exact h
  | @solid _ _ token hsolid h =>
    obtain ⟨kind, text⟩ := token
    cases kind with
    | space => exact absurd rfl hsolid
    | _ => exact .solid hsolid h

/-- A symbol is found in both or in neither. -/
theorem expect {kind : TokenKind} (hkind : kind ≠ .space) :
    Option.Rel Respaced (expect kind tokens) (expect kind others) := by
  cases h with
  | nil => exact .none
  | atEnd gap =>
    simp only [Script.expect, hkind.symm, if_false]
    exact .none
  | gap first second h =>
    simp only [Script.expect, hkind.symm, if_false]
    exact .none
  | solid hsolid h =>
    simp only [Script.expect]
    split
    · exact .some h
    · exact .none

/-- White space at the end is not enough for what asks for white space in front of
something else. -/
theorem expect_space_bind {α : Type} {read : List Token → Option α} {result : α → α → Prop}
    (hnil : read [] = none)
    (hread : ∀ {tokens others : List Token}, Respaced tokens others →
      Option.Rel result (read tokens) (read others)) :
    Option.Rel result ((Script.expect .space tokens).bind read)
      ((Script.expect .space others).bind read) := by
  cases h with
  | nil => exact .none
  | atEnd gap =>
    have hgap : (Script.expect .space [⟨.space, gap⟩]).bind read = none := hnil
    rw [hgap]
    exact .none
  | gap first second h => exact hread h
  | solid hsolid h =>
    simp only [Script.expect, hsolid, if_false]
    exact .none

/-- The reader of numbers does not see white space. -/
theorem readNumber : Agree (readNumber tokens) (readNumber others) := by
  cases h with
  | nil => exact .none
  | atEnd gap => exact .none
  | gap first second h => exact .none
  | @solid _ _ token hsolid h =>
    obtain ⟨kind, digits⟩ := token
    cases kind with
    | number =>
      simp only [Script.readNumber]
      cases wordOfDigits? digits with
      | none => exact .none
      | some value => exact .some ⟨rfl, h⟩
    | _ => exact .none

/-- Behind a symbol that may be left out the tokens are still alike. -/
theorem getD_expect {kind : TokenKind} (hkind : kind ≠ .space) :
    Respaced ((Script.expect kind tokens).getD tokens) ((Script.expect kind others).getD others) ∧
      (Script.expect kind tokens).isSome = (Script.expect kind others).isSome := by
  have hexpect := h.expect hkind
  generalize Script.expect kind tokens = first at hexpect ⊢
  generalize Script.expect kind others = second at hexpect ⊢
  cases hexpect with
  | none => exact ⟨h, rfl⟩
  | some hrest => exact ⟨hrest, rfl⟩

/-- The reader of frames finds the same behind white space of any extent. -/
theorem readFrames : Agree (readFrames tokens) (readFrames others) := by
  obtain ⟨hfirst, hplus⟩ := h.getD_expect (by decide : TokenKind.plus ≠ .space)
  unfold Script.readFrames
  dsimp only
  rw [hplus]
  apply rel_bind hfirst.readNumber
  rintro ⟨first, middle⟩ ⟨_, otherMiddle⟩ ⟨rfl, hmiddle⟩
  -- either a second number follows on both sides, or none does
  have hminus := hmiddle.expect (by decide : TokenKind.minus ≠ .space)
  dsimp only
  generalize Script.expect .minus middle = behind at hminus ⊢
  generalize Script.expect .minus otherMiddle = otherBehind at hminus ⊢
  cases hminus with
  | none => exact .some ⟨rfl, hmiddle⟩
  | some hsecond =>
    apply rel_bind hsecond.readNumber
    rintro ⟨second, rest⟩ ⟨_, otherRest⟩ ⟨rfl, hrest⟩
    exact .some ⟨rfl, hrest⟩

/-- So does the reader of signed numbers. -/
theorem readSigned : Agree (readSigned tokens) (readSigned others) := by
  obtain ⟨hdigits, hsign⟩ := h.getD_expect (by decide : TokenKind.minus ≠ .space)
  unfold Script.readSigned
  dsimp only
  rw [hsign]
  generalize (Script.expect .minus tokens).getD tokens = first at hdigits ⊢
  generalize (Script.expect .minus others).getD others = second at hdigits ⊢
  cases hdigits with
  | nil => exact .none
  | atEnd gap => exact .none
  | gap first second h => exact .none
  | @solid _ _ token hsolid h =>
    obtain ⟨kind, digits⟩ := token
    cases kind with
    | number => exact .some ⟨rfl, h⟩
    | _ => exact .none

/-- The reader of sticks asks for white space, but not for any one character of it. -/
theorem readStick : Agree (readStick tokens) (readStick others) := by
  unfold Script.readStick
  -- white space at the end of a line has no stick behind it
  apply h.expect_space_bind rfl
  intro _ _ h
  apply rel_bind h.readSigned
  rintro ⟨x, behindX⟩ ⟨_, otherBehindX⟩ ⟨rfl, hbehindX⟩
  apply rel_bind (hbehindX.expect (by decide))
  intro _ _ hsemicolon
  apply rel_bind hsemicolon.readSigned
  rintro ⟨y, behindY⟩ ⟨_, otherBehindY⟩ ⟨rfl, hbehindY⟩
  exact .some ⟨rfl, hbehindY⟩

/-- Fields end at the same token. -/
theorem takeWhile_isSolid : tokens.takeWhile Token.isSolid = others.takeWhile Token.isSolid := by
  induction h with
  | nil => rfl
  | atEnd gap => rfl
  | gap first second h ih => rfl
  | solid hsolid h ih => simp only [List.takeWhile_cons, ih]

/-- What follows a field is alike. -/
theorem dropWhile_isSolid :
    Respaced (tokens.dropWhile Token.isSolid) (others.dropWhile Token.isSolid) := by
  induction h with
  | nil => exact .nil
  | atEnd gap => exact .atEnd gap
  | gap first second h ih => exact .gap first second h
  | @solid _ _ token hsolid h ih =>
    have htoken : token.isSolid = true := decide_eq_true hsolid
    rw [List.dropWhile_cons_of_pos htoken, List.dropWhile_cons_of_pos htoken]
    exact ih

end Respaced

/-! ## 3. Statements

All forms of lines start by stepping over white space, so it does not matter whether there
is some in front. -/

section

variable {tokens others : List Token} (h : Respaced (skipSpace tokens) (skipSpace others))
include h

/-- Loop starts are told by other tokens than white space. -/
theorem loopStart?_eq_of_respaced : loopStart? tokens = loopStart? others := by
  apply eq_of_rel_eq
  unfold loopStart?
  apply rel_bind h.readNumber
  rintro ⟨repetitions, behind⟩ ⟨_, otherBehind⟩ ⟨rfl, hbehind⟩
  have hword := hbehind.skipSpace
  dsimp only
  generalize skipSpace behind = first at hword ⊢
  generalize skipSpace otherBehind = second at hword ⊢
  cases hword with
  | nil => exact .none
  | atEnd gap => exact .none
  | gap first second hword => exact .none
  | @solid _ _ token hsolid hbrace =>
    by_cases htoken : token = ⟨.word, ['X']⟩
    · subst htoken
      apply rel_bind (hbrace.skipSpace.expect (by decide))
      intro _ _ _
      exact .some rfl
    · -- neither goes on behind any other token
      split
      · rename_i heq
        exact absurd (List.cons.inj heq).1 htoken
      · split
        · rename_i heq
          exact absurd (List.cons.inj heq).1 htoken
        · exact .none

theorem isLoopEnd_eq_of_respaced : isLoopEnd tokens = isLoopEnd others := by
  have hbrace := h.getD_expect (by decide : TokenKind.closeBrace ≠ .space)
  exact hbrace.2

/-- Instructions are read alike from tokens that differ in white space only. -/
theorem instruction?_eq_of_respaced : instruction? tokens = instruction? others := by
  apply eq_of_rel_eq
  unfold instruction?
  apply rel_bind h.readFrames
  rintro ⟨frames, behind⟩ ⟨_, otherBehind⟩ ⟨rfl, hbehind⟩
  apply hbehind.expect_space_bind rfl
  intro tokens others h
  have hfield := h.takeWhile_isSolid
  have hleft := h.dropWhile_isSolid.readStick
  -- the right stick is read from where the left one ends, which is alike
  have hright := rel_bind hleft fun found other hfound => hfound.2.readStick
  have hrightFirst := Agree.map_fst hright
  unfold Token.isSolid at hfield hleft hrightFirst
  dsimp only
  rw [hfield, hleft.map_fst, hrightFirst]
  split
  · exact .none
  · exact .some rfl

/-- Lines whose tokens differ in white space only say the same. -/
theorem ofTokens_eq_of_respaced : Statement.ofTokens tokens = Statement.ofTokens others := by
  rw [Statement.ofTokens, Statement.ofTokens, loopStart?_eq_of_respaced h,
    isLoopEnd_eq_of_respaced h, instruction?_eq_of_respaced h]

end

/-! ## 4. Lines -/

namespace Token

/-- A character in front of tokens does not reach behind the first of them. -/
theorem extend_append (c : Char) {tokens : List Token} (h : tokens ≠ []) (more : List Token) :
    extend c (tokens ++ more) = extend c tokens ++ more := by
  obtain ⟨first, rest, rfl⟩ := List.exists_cons_of_ne_nil h
  rw [List.cons_append, extend, extend]
  split
  · rfl
  · rfl

/-- No token goes on from a field into the white space behind it. -/
theorem scan_field_append {field rest : List Char} (hfield : ∀ c ∈ field, isWhiteSpace c = false)
    (hrest : ∀ c ∈ rest.head?, isWhiteSpace c = true) :
    scan (field ++ rest) = scan field ++ scan rest := by
  induction field with
  | nil => rfl
  | cons c more ih =>
    have hmore := ih fun d hd => hfield d (List.mem_cons_of_mem c hd)
    cases more with
    | nil =>
      -- a character of another kind comes next
      apply scan_cons_of_ne
      intro _ d hd hkind
      have hd := (TokenKind.ofChar_eq_space_iff d).2 (hrest d hd)
      rw [hd, eq_comm, TokenKind.ofChar_eq_space_iff, hfield c List.mem_cons_self] at hkind
      cases hkind
    | cons d more =>
      rw [List.cons_append, scan_cons, hmore, extend_append c (scan_cons_ne_nil d more),
        scan_cons c (d :: more)]

/-- White space in front of a field is one token. -/
theorem scan_gap {c : Char} (hc : isWhiteSpace c = true) (rest : List Char) :
    ∃ gap, scan (c :: rest) = ⟨.space, gap⟩ :: skipSpace (scan (c :: rest)) := by
  obtain ⟨⟨kind, gap⟩, tokens, hscan⟩ := List.exists_cons_of_ne_nil (scan_cons_ne_nil c rest)
  have hkind : kind = .ofChar c := kind_of_scan_cons hscan
  rw [(TokenKind.ofChar_eq_space_iff c).2 hc] at hkind
  subst hkind
  exact ⟨gap, by rw [hscan, skipSpace]⟩

end Token

open Token

/-- Blank lines scan to nothing but white space. -/
theorem skipSpace_scan_of_isBlank {line : List Char} (h : isBlank line = true) :
    skipSpace (scan line) = [] := by
  have hblank : Blank line [] := ⟨line, (List.append_nil line).symm, List.all_eq_true.1 h⟩
  exact skipSpace_scan hblank fun c hc => nomatch hc

/-- The tokens of a line and those of the same line with even spaces. -/
theorem respaced_scan (line : List Char) :
    Respaced (skipSpace (scan line)) (scan (spaced line)) := by
  induction line using fields_induction with
  | blank line hblank =>
    rw [skipSpace_scan_of_isBlank hblank, spaced_of_isBlank hblank]
    exact .nil
  | field gap field rest hgap hne hfield hrest ih =>
    have hsolid : Solid (field ++ rest) := by
      obtain ⟨c, more, rfl⟩ := List.exists_cons_of_ne_nil hne
      exact solid_cons (hfield c List.mem_cons_self) _
    rw [skipSpace_scan ⟨gap, rfl, List.all_eq_true.1 hgap⟩ hsolid, scan_field_append hfield hrest,
      spaced_field hgap hne hfield hrest]
    cases rest with
    | nil =>
      rw [show isBlank [] = true from rfl, if_pos rfl]
      simpa using Respaced.nil.append (scan field)
    | cons c tail =>
      obtain ⟨behind, hbehind⟩ := scan_gap (hrest c rfl) tail
      rw [hbehind]
      by_cases hblank : isBlank (c :: tail) = true
      · -- the white space behind the last field
        rw [if_pos hblank, skipSpace_scan_of_isBlank hblank]
        simpa using (Respaced.atEnd behind).append (scan field)
      · have hspace : scan (' ' :: spaced (c :: tail)) =
            ⟨.space, [' ']⟩ :: scan (spaced (c :: tail)) := by
          apply scan_cons_of_ne
          intro _ d hd hkind
          have hd := head?_spaced _ d hd
          rw [show TokenKind.ofChar ' ' = .space from rfl, TokenKind.ofChar_eq_space_iff, hd] at hkind
          cases hkind
        rw [if_neg hblank, scan_field_append hfield (by simp; decide), hspace]
        exact (ih.gap behind [' ']).append (scan field)

/-- **A line says what its fields say**, with one space between each two. -/
theorem ofLine_spaced (line : List Char) :
    Statement.ofLine (spaced line) = Statement.ofLine line := by
  rw [Statement.ofLine, Statement.ofLine, ← spaced_upperChars]
  apply Eq.symm
  apply ofTokens_eq_of_respaced
  rw [skipSpace_scan_of_solid (head?_spaced _)]
  exact respaced_scan (upperChars line)

/-- White space at the end of a line says nothing. -/
theorem ofLine_concat {c : Char} (hc : isWhiteSpace c = true) (line : List Char) :
    Statement.ofLine (line ++ [c]) = Statement.ofLine line := by
  rw [← ofLine_spaced (line ++ [c]), spaced, fields_concat hc]
  exact ofLine_spaced line

/-- And a blank line says what an empty one says. -/
theorem ofLine_of_isBlank {line : List Char} (h : isBlank line = true) :
    Statement.ofLine line = .ignored := by
  rw [← ofLine_spaced, spaced_of_isBlank h]
  rfl

end InputScript.Script
