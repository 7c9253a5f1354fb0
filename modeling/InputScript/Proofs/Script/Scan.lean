/-
The scanner takes the longest match.

`Token.scan` is written from right to left, one character at a time, whereas the
grammar of lines is read from left to right and asks which token a line starts
with. A token stands in front exactly when its characters do, all of its kind,
and either it is a symbol by itself or no further character of the kind follows.
One theorem says so. Fields need no longest match: they end at white space, which
ends all other tokens as well.
-/
import InputScript.Script.Token

set_option autoImplicit false

namespace InputScript.Script

open InputScript.Text

/-! ## 1. Kinds of characters -/

namespace TokenKind

/-- White space is of one kind, and all of it is. -/
theorem ofChar_eq_space_iff (c : Char) : ofChar c = .space ↔ isWhiteSpace c = true := by
  unfold ofChar
  grind

/-- Digits are of one kind, which white space does not take from them. -/
theorem ofChar_eq_number_iff (c : Char) : ofChar c = .number ↔ c.isDigit = true := by
  have hspace : c.isDigit = true → isWhiteSpace c = false := isWhiteSpace_of_isDigit
  unfold ofChar
  grind

/-- The character of a kind that has only one. -/
def symbol? : TokenKind → Option Char
  | .plus => some '+'
  | .minus => some '-'
  | .semicolon => some ';'
  | .openBrace => some '{'
  | .closeBrace => some '}'
  | _ => none

/-- A kind that does not come in runs has the one character that is of it. -/
theorem symbol?_ofChar {c : Char} (hsymbol : (ofChar c).isRun = false) :
    (ofChar c).symbol? = some c := by
  unfold ofChar at hsymbol ⊢
  grind [isRun, symbol?]

/-- Each symbol is the only character of its kind. -/
theorem ofChar_eq_ofChar_iff {c : Char} (hsymbol : (ofChar c).isRun = false) (d : Char) :
    ofChar d = ofChar c ↔ d = c := by
  constructor
  · intro h
    have hd := symbol?_ofChar (h ▸ hsymbol : (ofChar d).isRun = false)
    rw [h, symbol?_ofChar hsymbol] at hd
    exact (Option.some_inj.1 hd).symm
  · intro h
    rw [h]

end TokenKind

/-! ## 2. The longest match -/

namespace Token

/-- What makes a token the one that the text of `token` and then `rest` starts
with. -/
structure Heads (token : Token) (rest : List Char) : Prop where
  ne_nil : token.text ≠ []
  kinds : ∀ c ∈ token.text, TokenKind.ofChar c = token.kind
  single : token.kind.isRun = false → token.text.length = 1
  longest : token.kind.isRun = true → ∀ c ∈ rest.head?, TokenKind.ofChar c ≠ token.kind

/-- A character in front of some tokens either is a token of its own, or extends
the first of them. -/
theorem extend_cases (c : Char) (tokens : List Token) :
    ((∀ token ∈ tokens.head?, token.kind = .ofChar c → (TokenKind.ofChar c).isRun = false) ∧
        extend c tokens = ⟨.ofChar c, [c]⟩ :: tokens) ∨
      ∃ text rest, tokens = ⟨.ofChar c, text⟩ :: rest ∧ (TokenKind.ofChar c).isRun = true ∧
        extend c tokens = ⟨.ofChar c, c :: text⟩ :: rest := by
  cases tokens with
  | nil => exact .inl ⟨fun token htoken => (nomatch htoken), rfl⟩
  | cons next rest =>
    obtain ⟨kind, text⟩ := next
    by_cases hmerge : kind = .ofChar c ∧ kind.isRun = true
    · obtain ⟨rfl, hrun⟩ := hmerge
      exact .inr ⟨text, rest, rfl, hrun, if_pos ⟨rfl, hrun⟩⟩
    · -- of one kind and yet apart: the kind does not come in runs
      refine .inl ⟨?_, if_neg hmerge⟩
      intro token htoken hkind
      cases htoken
      refine Bool.eq_false_iff.2 fun hrun => hmerge ⟨hkind, ?_⟩
      rw [show kind = .ofChar c from hkind]
      exact hrun

theorem scan_cons_ne_nil (c : Char) (line : List Char) : scan (c :: line) ≠ [] := by
  intro hnil
  -- the tokens hold all characters of the line
  have hjoined := joined_scan (c :: line)
  rw [hnil] at hjoined
  cases hjoined

/-- The token that was scanned first has the kind of the first character. -/
theorem kind_of_scan_cons {c : Char} {line : List Char} {token : Token} {tokens : List Token}
    (h : scan (c :: line) = token :: tokens) : token.kind = .ofChar c := by
  rw [scan_cons] at h
  rcases extend_cases c (scan line) with ⟨-, halone⟩ | ⟨text, rest, -, -, hmerged⟩
  · rw [halone] at h
    cases h
    rfl
  · rw [hmerged] at h
    cases h
    rfl

/-- A character that the rest does not go on with is a token of its own. -/
theorem scan_cons_of_ne {c : Char} {rest : List Char}
    (h : (TokenKind.ofChar c).isRun = true → ∀ d ∈ rest.head?, TokenKind.ofChar d ≠ .ofChar c) :
    scan (c :: rest) = ⟨.ofChar c, [c]⟩ :: scan rest := by
  rw [scan_cons]
  -- the first token of the rest has the kind of the first character there
  rcases extend_cases c (scan rest) with ⟨-, halone⟩ | ⟨text, more, hrest, hrun, -⟩
  · exact halone
  · cases rest with
    | nil => cases hrest
    | cons d line => exact absurd (kind_of_scan_cons hrest).symm (h hrun d rfl)

/-- The longest match is scanned. -/
theorem scan_of_heads {token : Token} {rest : List Char} (h : token.Heads rest) :
    scan (token.text ++ rest) = token :: scan rest := by
  obtain ⟨kind, text⟩ := token
  induction text with
  | nil => exact absurd rfl h.ne_nil
  | cons c text ih =>
    have hc : TokenKind.ofChar c = kind := h.kinds c List.mem_cons_self
    by_cases htext : text = []
    · subst htext hc
      exact scan_cons_of_ne h.longest
    · -- more than one character makes it a run, which `c` extends to the left
      have hrun : kind.isRun = true := by
        cases hsymbol : kind.isRun with
        | true => rfl
        | false => exact absurd (List.length_eq_zero_iff.1 (Nat.succ.inj (h.single hsymbol))) htext
      have hshorter : Heads ⟨kind, text⟩ rest := by
        refine ⟨htext, fun d hd => h.kinds d (List.mem_cons_of_mem c hd), ?_, h.longest⟩
        intro hsymbol
        exact absurd (hrun.symm.trans hsymbol) (by decide)
      have hscan : scan (text ++ rest) = ⟨kind, text⟩ :: scan rest := ih hshorter
      rw [List.cons_append, scan_cons, hscan, extend, if_pos ⟨hc.symm, hrun⟩]

/-- Every line that is not empty starts with a longest match. -/
theorem exists_heads_of_scan {line : List Char} {token : Token} {tokens : List Token}
    (h : scan line = token :: tokens) :
    ∃ rest, line = token.text ++ rest ∧ token.Heads rest ∧ scan rest = tokens := by
  induction line generalizing token tokens with
  | nil => cases h
  | cons c line ih =>
    rw [scan_cons] at h
    -- the character is a token by itself, or it extends the one that the rest starts with
    rcases extend_cases c (scan line) with ⟨hapart, halone⟩ | ⟨text, more, hline, hrun, hmerged⟩
    · rw [halone] at h
      cases h
      refine ⟨line, rfl, ⟨List.cons_ne_nil c [], by simp, fun _ => rfl, ?_⟩, rfl⟩
      intro hrun d hd hkind
      obtain ⟨tail, rfl⟩ := List.head?_eq_some_iff.1 hd
      -- the line goes on with a token of the same kind, which `c` would have extended
      obtain ⟨next, rest, hscan⟩ := List.exists_cons_of_ne_nil (scan_cons_ne_nil d tail)
      have hsymbol := hapart next (by rw [hscan]; rfl) ((kind_of_scan_cons hscan).trans hkind)
      exact absurd (hrun.symm.trans hsymbol) (by decide)
    · rw [hmerged] at h
      cases h
      obtain ⟨rest, hparts, hnext, hrest⟩ := ih hline
      refine ⟨rest, by rw [hparts]; rfl, ⟨List.cons_ne_nil c _, ?_, ?_, hnext.longest⟩, hrest⟩
      · intro d hd
        rcases List.mem_cons.1 hd with rfl | hd
        · rfl
        · exact hnext.kinds d hd
      · intro hsymbol
        exact absurd (hrun.symm.trans hsymbol) (by decide)

/-- **Longest match.** The tokens of a line start with `token` exactly when the
line starts with its characters, these are all of its kind, and no longer token
could be taken; the other tokens are those of the rest. -/
theorem scan_eq_cons_iff {line : List Char} {token : Token} {tokens : List Token} :
    scan line = token :: tokens ↔
      ∃ rest, line = token.text ++ rest ∧ token.Heads rest ∧ scan rest = tokens := by
  constructor
  · exact exists_heads_of_scan
  · rintro ⟨rest, rfl, hheads, rfl⟩
    exact scan_of_heads hheads

/-! ## 3. Fields

A field ends at white space, and white space is never inside a token of another
kind. So cutting the tokens at white space cuts the line at white space. -/

/-- Whether a token belongs to a field. -/
def isSolid (token : Token) : Bool :=
  token.kind ≠ .space

/-- A token belongs to a field if its characters are not white space. -/
theorem isSolid_of_kind {c : Char} (text : List Char) :
    isSolid ⟨.ofChar c, text⟩ = !isWhiteSpace c := by
  rw [isSolid, ← Bool.not_inj_iff]
  simp [TokenKind.ofChar_eq_space_iff]

/-- The tokens behind a field are those of the characters behind it. -/
theorem dropWhile_isSolid_scan (line : List Char) :
    (scan line).dropWhile isSolid = scan (line.dropWhile fun c => !isWhiteSpace c) := by
  induction line with
  | nil => rfl
  | cons c line ih =>
    -- at white space both stop, and in front of it both go on
    cases hspace : isWhiteSpace c with
    | true =>
      rw [List.dropWhile_cons_of_neg (by simp [hspace]), scan_cons]
      rcases extend_cases c (scan line) with ⟨-, halone⟩ | ⟨text, rest, -, -, hmerged⟩
      · rw [halone, List.dropWhile_cons_of_neg (by simp [isSolid_of_kind, hspace])]
      · rw [hmerged, List.dropWhile_cons_of_neg (by simp [isSolid_of_kind, hspace])]
    | false =>
      rw [List.dropWhile_cons_of_pos (by simp [hspace]), ← ih, scan_cons]
      rcases extend_cases c (scan line) with ⟨-, halone⟩ | ⟨text, rest, hline, -, hmerged⟩
      · rw [halone, List.dropWhile_cons_of_pos (by simp [isSolid_of_kind, hspace])]
      · rw [hmerged, hline, List.dropWhile_cons_of_pos (by simp [isSolid_of_kind, hspace]),
          List.dropWhile_cons_of_pos (by simp [isSolid_of_kind, hspace])]

/-- The tokens of a field hold its characters. -/
theorem joined_takeWhile_isSolid_scan (line : List Char) :
    joined ((scan line).takeWhile isSolid) = line.takeWhile fun c => !isWhiteSpace c := by
  have hsplit : joined ((scan line).takeWhile isSolid) ++ line.dropWhile (fun c => !isWhiteSpace c) =
      line := by
    conv => rhs; rw [← joined_scan line]
    rw [← joined_scan (line.dropWhile _), ← dropWhile_isSolid_scan, joined, joined,
      ← List.flatMap_append, List.takeWhile_append_dropWhile]
    rfl
  have hline := List.takeWhile_append_dropWhile (p := fun c => !isWhiteSpace c) (l := line)
  exact List.append_cancel_right (hsplit.trans hline.symm)

/-- A field without tokens has no characters, and the other way round. -/
theorem takeWhile_isSolid_scan_eq_nil_iff {line : List Char} :
    (scan line).takeWhile isSolid = [] ↔ (line.takeWhile fun c => !isWhiteSpace c) = [] := by
  constructor
  · intro h
    rw [← joined_takeWhile_isSolid_scan, h]
    rfl
  · intro h
    have hline := List.takeWhile_append_dropWhile (p := fun c => !isWhiteSpace c) (l := line)
    have htokens := List.takeWhile_append_dropWhile (p := isSolid) (l := scan line)
    rw [h, List.nil_append] at hline
    rw [dropWhile_isSolid_scan, hline] at htokens
    exact List.append_cancel_right (htokens.trans (List.nil_append (scan line)).symm)

end Token

end InputScript.Script
