/-
There is one way to break a line into tokens.

The scanner (`Lexer`) is checked here against what a reader of its result can see: kinds,
and ranges of bytes in the line. The ranges lie one behind the other from the first byte of
the line to its last and cut no character in two, what they cut out belongs to their kinds,
and two neighbours are never of one kind that comes in runs. Nothing else can be asked of
tokens, since there is no second list of them that has all this.
-/
import InputScript.Proofs.Script.Scan
import Mathlib.Data.List.Chain
import Mathlib.Data.String.Basic

set_option autoImplicit false

namespace InputScript.Script

open InputScript.Text

/-! ## 1. Bytes -/

theorem byteLength_eq_utf8Len (text : List Char) : byteLength text = String.utf8Len text := by
  induction text with
  | nil => rfl
  | cons c rest ih => rw [String.utf8Len_cons, ← ih, Nat.add_comm]; rfl

theorem byteLength_toList (line : String) : byteLength line.toList = line.utf8ByteSize := by
  rw [byteLength_eq_utf8Len, String.utf8Len_toList]

theorem byteLength_append (a b : List Char) :
    byteLength (a ++ b) = byteLength a + byteLength b := by
  rw [byteLength_eq_utf8Len, byteLength_eq_utf8Len, byteLength_eq_utf8Len, String.utf8Len_append]

theorem byteLength_pos {text : List Char} (h : text ≠ []) : 0 < byteLength text := by
  obtain ⟨c, rest, rfl⟩ := List.exists_cons_of_ne_nil h
  exact Nat.add_pos_left c.utf8Size_pos _

theorem byteLength_eq_zero_iff {text : List Char} : byteLength text = 0 ↔ text = [] := by
  constructor
  · intro hzero
    by_contra hne
    exact absurd hzero (byteLength_pos hne).ne'
  · rintro rfl
    rfl

/-- The positions that cut no character in two. -/
theorem isValid_iff {line : String} {position : Nat} :
    (⟨position⟩ : String.Pos.Raw).IsValid line ↔
      ∃ before after, line.toList = before ++ after ∧ byteLength before = position := by
  rw [String.Pos.Raw.isValid_iff_exists_append]
  constructor
  · rintro ⟨before, after, rfl, hposition⟩
    refine ⟨before.toList, after.toList, String.toList_append, ?_⟩
    rw [byteLength_toList]
    exact (congrArg String.Pos.Raw.byteIdx hposition).symm
  · rintro ⟨before, after, hline, rfl⟩
    refine ⟨.ofList before, .ofList after, ?_, ?_⟩
    · rw [← String.ofList_append, ← hline, String.ofList_toList]
    · rw [String.rawEndPos_ofList, byteLength_eq_utf8Len]

/-- A range of bytes that starts behind some characters cuts out a text, at least one
character of it, exactly if the text stands there. -/
theorem cuts_iff {line : String} {before rest text : List Char} {stop : Nat}
    (hline : line.toList = before ++ rest) :
    (byteLength before < stop ∧ (⟨stop⟩ : String.Pos.Raw).IsValid line ∧
        String.ofList text = String.Pos.Raw.extract line ⟨byteLength before⟩ ⟨stop⟩) ↔
      text ≠ [] ∧ stop = byteLength before + byteLength text ∧ ∃ after, rest = text ++ after := by
  -- what stands at a position is what is cut out there
  have hcut : ∀ middle after : List Char, rest = middle ++ after →
      String.Pos.Raw.extract line ⟨byteLength before⟩ ⟨byteLength before + byteLength middle⟩ =
        String.ofList middle := by
    rintro middle after rfl
    rw [byteLength_eq_utf8Len, byteLength_eq_utf8Len, ← String.extract_of_valid before middle after,
      List.append_assoc, ← hline, String.ofList_toList]
  constructor
  · rintro ⟨hlt, hvalid, htext⟩
    obtain ⟨front, after, hfront, rfl⟩ := isValid_iff.1 hvalid
    rcases List.append_eq_append_iff.1 (hline.symm.trans hfront) with
      ⟨middle, rfl, hrest⟩ | ⟨middle, rfl, -⟩
    · rw [byteLength_append] at hlt htext ⊢
      rw [hcut middle after hrest, String.ofList_inj] at htext
      subst htext
      refine ⟨?_, rfl, after, hrest⟩
      rintro rfl
      exact absurd hlt (Nat.lt_irrefl _)
    · -- the range would end in front of where it starts
      rw [byteLength_append] at hlt
      exact absurd hlt (Nat.not_lt.2 (Nat.le_add_right _ _))
  · rintro ⟨hne, rfl, after, hrest⟩
    refine ⟨Nat.lt_add_of_pos_right (byteLength_pos hne),
      isValid_iff.2 ⟨before ++ text, after, ?_, ?_⟩, (hcut text after hrest).symm⟩
    · rw [hline, hrest, List.append_assoc]
    · rw [byteLength_append]

/-! ## 2. What tokens are -/

/-- The texts that belong to a kind of token. -/
def TokenKind.Holds : TokenKind → List Char → Prop
  | .space, text => ∀ c ∈ text, isWhiteSpace c = true
  | .number, text => ∀ c ∈ text, c.isDigit = true
  | .word, text => ∀ c ∈ text,
      isWhiteSpace c = false ∧ c.isDigit = false ∧ c ∉ ['+', '-', ';', '{', '}']
  | .plus, text => text = ['+']
  | .minus, text => text = ['-']
  | .semicolon, text => text = [';']
  | .openBrace, text => text = ['{']
  | .closeBrace, text => text = ['}']

/-- A token whose range is not empty, starts and stops between two characters of the line
and cuts the token's text out of it. -/
structure PlacedToken.CutsOut (placed : PlacedToken) (line : String) : Prop where
  nonempty : placed.start < placed.stop
  start_valid : (⟨placed.start⟩ : String.Pos.Raw).IsValid line
  stop_valid : (⟨placed.stop⟩ : String.Pos.Raw).IsValid line
  text : String.ofList placed.token.text =
    String.Pos.Raw.extract line ⟨placed.start⟩ ⟨placed.stop⟩

/-- What it takes to be the tokens of a line. -/
structure Tokenises (line : String) (tokens : List PlacedToken) : Prop where
  /-- The first token starts with the line, each of the others where the one in front of it
  stops, and the line stops with the last one. -/
  adjoining : tokens.map PlacedToken.start ++ [line.utf8ByteSize] = 0 :: tokens.map PlacedToken.stop
  cutsOut : ∀ placed ∈ tokens, placed.CutsOut line
  kinds : ∀ placed ∈ tokens, placed.token.kind.Holds placed.token.text
  /-- No two neighbours are both white space, both numbers or both words. -/
  longest : tokens.IsChain fun first second =>
    first.token.kind = second.token.kind → first.token.kind.isRun = false

/-! ## 3. Ranges -/

/-- A token cuts its text out if its range is that of the text where it starts. -/
theorem cutsOut_iff {line : String} {before rest : List Char} {placed : PlacedToken}
    (hline : line.toList = before ++ rest) (hstart : placed.start = byteLength before) :
    placed.CutsOut line ↔ placed.token.text ≠ [] ∧
      placed.stop = byteLength (before ++ placed.token.text) ∧
      ∃ after, rest = placed.token.text ++ after := by
  rw [byteLength_append, ← cuts_iff hline, ← hstart]
  constructor
  · intro h
    exact ⟨h.nonempty, h.stop_valid, h.text⟩
  · rintro ⟨hlt, hvalid, htext⟩
    exact ⟨hlt, isValid_iff.2 ⟨before, rest, hline, hstart.symm⟩, hvalid, htext⟩

/-- Ranges that lie one behind the other are where the tokens are placed. -/
theorem placeFrom_iff {line : String} (tokens : List PlacedToken) {before rest : List Char}
    (hline : line.toList = before ++ rest) :
    (tokens.map PlacedToken.start ++ [line.utf8ByteSize] =
          byteLength before :: tokens.map PlacedToken.stop ∧
        ∀ placed ∈ tokens, placed.CutsOut line) ↔
      tokens = Token.placeFrom (byteLength before) (tokens.map PlacedToken.token) ∧
        Token.joined (tokens.map PlacedToken.token) = rest ∧
        ∀ placed ∈ tokens, placed.token.text ≠ [] := by
  -- each token moves its text from what follows to what stands in front
  induction tokens generalizing before rest with
  | nil =>
    -- without tokens the line stops where the ranges would start
    have hsize : line.utf8ByteSize = byteLength before + byteLength rest := by
      rw [← byteLength_toList, hline, byteLength_append]
    simp only [List.map_nil, List.nil_append, List.cons.injEq, and_true, hsize,
      Nat.add_eq_left, List.not_mem_nil, false_imp_iff, implies_true, Token.placeFrom,
      true_and, Token.joined, List.flatMap_nil]
    rw [byteLength_eq_zero_iff, eq_comm]
  | cons placed tokens ih =>
    constructor
    · rintro ⟨hadjoining, hcuts⟩
      obtain ⟨hstart, hadjoining⟩ := List.cons.inj hadjoining
      obtain ⟨hplaced, hcuts⟩ := List.forall_mem_cons.1 hcuts
      obtain ⟨hne, hstop, after, rfl⟩ := (cutsOut_iff hline hstart).1 hplaced
      rw [← List.append_assoc] at hline
      rw [List.map_cons, hstop] at hadjoining
      obtain ⟨htokens, hjoined, hnonempty⟩ := (ih hline).1 ⟨hadjoining, hcuts⟩
      refine ⟨?_, congrArg (placed.token.text ++ ·) hjoined,
        List.forall_mem_cons.2 ⟨hne, hnonempty⟩⟩
      rw [List.map_cons, Token.placeFrom, ← byteLength_append, ← htokens, ← hstart, ← hstop]
    · rintro ⟨hplaced, rfl, hnonempty⟩
      obtain ⟨hne, hnonempty⟩ := List.forall_mem_cons.1 hnonempty
      obtain ⟨hhead, htokens⟩ := List.cons.inj hplaced
      have hstart : placed.start = byteLength before := congrArg PlacedToken.start hhead
      have hstop : placed.stop = byteLength (before ++ placed.token.text) :=
        (congrArg PlacedToken.stop hhead).trans (byteLength_append _ _).symm
      have hcut : placed.CutsOut line := (cutsOut_iff hline hstart).2 ⟨hne, hstop, _, rfl⟩
      have hrest : line.toList = (before ++ placed.token.text) ++
          Token.joined (tokens.map PlacedToken.token) := by
        rw [hline, List.append_assoc]
        rfl
      rw [← byteLength_append] at htokens
      obtain ⟨hadjoining, hcuts⟩ := (ih hrest).2 ⟨htokens, rfl, hnonempty⟩
      refine ⟨?_, List.forall_mem_cons.2 ⟨hcut, hcuts⟩⟩
      rw [List.map_cons, List.map_cons, List.cons_append, hadjoining, hstart, hstop]

/-! ## 4. Kinds -/

namespace TokenKind

/-- A word is made of the characters that are of no other kind. -/
theorem ofChar_eq_word_iff (c : Char) :
    ofChar c = .word ↔
      isWhiteSpace c = false ∧ c.isDigit = false ∧ c ∉ ['+', '-', ';', '{', '}'] := by
  unfold ofChar
  grind

/-- The kind of a symbol has that character and no other. -/
theorem ofChar_eq_iff_of_symbol? {kind : TokenKind} {symbol : Char}
    (h : kind.symbol? = some symbol) (c : Char) : ofChar c = kind ↔ c = symbol := by
  have hsymbol : ofChar symbol = kind ∧ kind.isRun = false := by
    cases kind <;> cases h <;> decide
  rw [← hsymbol.1]
  exact ofChar_eq_ofChar_iff (hsymbol.1 ▸ hsymbol.2) c

/-- A symbol alone is one character of its kind. -/
theorem eq_singleton_iff_of_symbol? {kind : TokenKind} {symbol : Char}
    (h : kind.symbol? = some symbol) (text : List Char) :
    text = [symbol] ↔ (∀ c ∈ text, ofChar c = kind) ∧ text.length = 1 := by
  rw [List.length_eq_one_iff]
  constructor
  · rintro rfl
    exact ⟨by simp [ofChar_eq_iff_of_symbol? h], symbol, rfl⟩
  · rintro ⟨hkind, c, rfl⟩
    rw [(ofChar_eq_iff_of_symbol? h c).1 (hkind c List.mem_cons_self)]

/-- A token of a symbol holds one character, and the right one. -/
theorem holds_iff_of_symbol? {kind : TokenKind} {symbol : Char}
    (h : kind.symbol? = some symbol) (text : List Char) :
    kind.Holds text ↔
      (∀ c ∈ text, ofChar c = kind) ∧ (kind.isRun = false → text.length = 1) := by
  have hholds : kind.Holds text ↔ text = [symbol] := by
    cases kind <;> cases h <;> rfl
  have hsingle : kind.isRun = false := by
    cases kind <;> cases h <;> rfl
  rw [hholds, eq_singleton_iff_of_symbol? h]
  simp [hsingle]

/-- The characters of a token are of its kind, and a symbol is only one. -/
theorem holds_iff (kind : TokenKind) (text : List Char) :
    kind.Holds text ↔
      (∀ c ∈ text, ofChar c = kind) ∧ (kind.isRun = false → text.length = 1) := by
  cases kind with
  | space => simp [Holds, isRun, ofChar_eq_space_iff]
  | number => simp [Holds, isRun, ofChar_eq_number_iff]
  | word => simp [Holds, isRun, ofChar_eq_word_iff]
  | plus | minus | semicolon | openBrace | closeBrace => exact holds_iff_of_symbol? rfl text

end TokenKind

/-! ## 5. Longest matches, one behind the other -/

namespace Token

/-- Each of the tokens is the longest match in front of what the others hold. -/
def Parted : List Token → Prop
  | [] => True
  | token :: tokens => token.Heads (joined tokens) ∧ Parted tokens

/-- The tokens of a line are the longest matches that make it up. -/
theorem scan_eq_iff {line : List Char} {tokens : List Token} :
    scan line = tokens ↔ joined tokens = line ∧ Parted tokens := by
  induction tokens generalizing line with
  | nil =>
    constructor
    · intro h
      exact ⟨by rw [← h, joined_scan], trivial⟩
    · rintro ⟨rfl, -⟩
      rfl
  | cons token tokens ih =>
    rw [scan_eq_cons_iff]
    constructor
    · rintro ⟨rest, rfl, hheads, hrest⟩
      obtain ⟨rfl, hparted⟩ := ih.1 hrest
      exact ⟨rfl, hheads, hparted⟩
    · rintro ⟨rfl, hheads, hparted⟩
      exact ⟨joined tokens, rfl, hheads, ih.2 ⟨rfl, hparted⟩⟩

/-- What follows a token starts with a character of the kind of the next token. -/
theorem map_head?_joined {tokens : List Token}
    (h : ∀ token ∈ tokens, token.text ≠ [] ∧ token.kind.Holds token.text) :
    (joined tokens).head?.map TokenKind.ofChar = tokens.head?.map Token.kind := by
  cases tokens with
  | nil => rfl
  | cons token tokens =>
    obtain ⟨hne, hholds⟩ := h token List.mem_cons_self
    obtain ⟨c, text, htext⟩ := List.exists_cons_of_ne_nil hne
    have hc : TokenKind.ofChar c = token.kind :=
      ((TokenKind.holds_iff _ _).1 hholds).1 c (htext ▸ List.mem_cons_self)
    rw [joined, List.flatMap_cons, htext, List.cons_append, List.head?_cons, List.head?_cons,
      Option.map_some, Option.map_some, hc]

/-- Whether each token is the longest match shows in the tokens themselves and in the kinds
of neighbours. -/
theorem parted_iff (tokens : List Token) :
    Parted tokens ↔
      (∀ token ∈ tokens, token.text ≠ [] ∧ token.kind.Holds token.text) ∧
        tokens.IsChain fun first second => first.kind = second.kind → first.kind.isRun = false := by
  induction tokens with
  | nil => simp [Parted]
  | cons token tokens ih =>
    rw [Parted, ih, List.isChain_cons, List.forall_mem_cons, TokenKind.holds_iff]
    constructor
    · rintro ⟨hheads, htokens, hchain⟩
      refine ⟨⟨⟨hheads.ne_nil, hheads.kinds, hheads.single⟩, htokens⟩, ?_, hchain⟩
      -- a neighbour of the same kind would go on with a character of it
      intro next hnext hkind
      have hhead := map_head?_joined htokens
      rw [hnext] at hhead
      obtain ⟨c, hc, hof⟩ := Option.map_eq_some_iff.1 hhead
      refine Bool.eq_false_iff.2 fun hrun => hheads.longest hrun c hc ?_
      rw [hof, hkind]
    · rintro ⟨⟨⟨hne, hkinds, hsingle⟩, htokens⟩, hnext, hchain⟩
      refine ⟨⟨hne, hkinds, hsingle, ?_⟩, htokens, hchain⟩
      intro hrun c hc hof
      have hhead := map_head?_joined htokens
      rw [hc] at hhead
      obtain ⟨next, hmem, hkind⟩ := Option.map_eq_some_iff.1 hhead.symm
      have hsymbol := hnext next hmem (by rw [hkind, hof])
      exact absurd (hrun.symm.trans hsymbol) (by decide)

end Token

/-! ## 6. One way to break a line -/

/-- Placing tokens does not change them. -/
theorem map_token_placeFrom (start : Nat) (tokens : List Token) :
    (Token.placeFrom start tokens).map PlacedToken.token = tokens := by
  induction tokens generalizing start with
  | nil => rfl
  | cons token tokens ih => rw [Token.placeFrom, List.map_cons, ih]

/-- **One tokenisation.** The tokens the scanner finds in a line have all that tokens of the
line must have, and no other tokens do. -/
theorem tokenises_iff (line : String) (tokens : List PlacedToken) :
    Tokenises line tokens ↔ tokens = Token.scanPlaced line.toList := by
  have hline : line.toList = [] ++ line.toList := rfl
  -- the places and the kinds are two questions: `placeFrom` answers the one, `scan` the other
  have hplaced := placeFrom_iff tokens hline
  have hparted := Token.parted_iff (tokens.map PlacedToken.token)
  rw [List.forall_mem_map, List.isChain_map] at hparted
  constructor
  · rintro ⟨hadjoining, hcuts, hkinds, hlongest⟩
    obtain ⟨htokens, hjoined, hnonempty⟩ := hplaced.1 ⟨hadjoining, hcuts⟩
    have hscan : Token.scan line.toList = tokens.map PlacedToken.token :=
      Token.scan_eq_iff.2 ⟨hjoined, hparted.2
        ⟨fun placed hmem => ⟨hnonempty placed hmem, hkinds placed hmem⟩, hlongest⟩⟩
    rw [Token.scanPlaced, hscan]
    exact htokens
  · intro htokens
    have hscan : Token.scan line.toList = tokens.map PlacedToken.token := by
      rw [htokens, Token.scanPlaced, map_token_placeFrom]
    obtain ⟨hjoined, hpart⟩ := Token.scan_eq_iff.1 hscan
    obtain ⟨hholds, hlongest⟩ := hparted.1 hpart
    rw [Token.scanPlaced, hscan] at htokens
    obtain ⟨hadjoining, hcuts⟩ :=
      hplaced.2 ⟨htokens, hjoined, fun placed hmem => (hholds placed hmem).1⟩
    exact ⟨hadjoining, hcuts, fun placed hmem => (hholds placed hmem).2, hlongest⟩

end InputScript.Script
