/-
What the printer writes is read back.

A value that is spread over lines is a text of the grammar, and stands for itself except
for its numbers: one that is not whole is written with the shortest digits that identify
it, and the grammar rounds them in the way of the reader, which may miss its last bit. A
value can be written if its numbers are neither too large nor missing and its containers
are not nested too deep. There is no such condition on strings, which may hold any
character.
-/
import InputScript.Proofs.Json.Reader
import InputScript.Proofs.Text.Numeral

set_option autoImplicit false

namespace InputScript.Json

open InputScript.Text

/-! ## 1. Strings -/

/-- A control character is written in two hexadecimal digits behind two zeros. -/
theorem hexUnit?_of_lt {n : Nat} (h : n < 0x20) :
    hexUnit? '0' '0' (Nat.digitChar (n / 16)) (Nat.digitChar (n % 16)) = some n := by
  have hzero : hexValue? '0' = some 0 := rfl
  have hsum : n / 16 * 16 + n % 16 = n := Nat.div_add_mod' n 16
  rw [hexUnit?, hzero, hexValue?_digitChar (by omega), hexValue?_digitChar (by omega)]
  simpa using hsum

/-- An escaped character stands for itself. -/
theorem spellsChar_escape (c : Char) : SpellsChar (escape c) c := by
  unfold escape
  -- seven characters have a letter of their own, and control characters their digits
  split_ifs with hquote hbackslash hback hpage hline hreturn htab hcontrol
  · exact .short (by rw [hquote]; rfl)
  · exact .short (by rw [hbackslash]; rfl)
  · exact .short (by rw [hback]; rfl)
  · exact .short (by rw [hpage]; rfl)
  · exact .short (by rw [hline]; rfl)
  · exact .short (by rw [hreturn]; rfl)
  · exact .short (by rw [htab]; rfl)
  · have hhigh : isHighSurrogate c.toNat = false := by
      simp only [isHighSurrogate, Bool.and_eq_false_iff, decide_eq_false_iff_not]
      omega
    have hlow : isLowSurrogate c.toNat = false := by
      simp only [isLowSurrogate, Bool.and_eq_false_iff, decide_eq_false_iff_not]
      omega
    have hunit := SpellsChar.unit (hexUnit?_of_lt hcontrol) hhigh hlow
    rwa [Char.ofNat_toNat] at hunit
  · exact .plain hcontrol hquote hbackslash

theorem spellsChars_flatMap_escape (chars : List Char) :
    SpellsChars (chars.flatMap escape) chars := by
  induction chars with
  | nil => exact .nil
  | cons c rest ih => exact .cons (spellsChar_escape c) ih

/-- A string in quotes is a text of the grammar, whatever characters it has. -/
theorem spells_quote {depth : Nat} (s : String) : Spells depth (quote s) (.string s) :=
  .string (spellsChars_flatMap_escape s.toList)

/-! ## 2. Numbers -/

/-- What stands in a text where a number was written: the number itself if it is whole,
and otherwise what its shortest digits are rounded to. -/
def Number.reread : Number → Number
  | .decimal (.finite negative significand exponent) =>
    (numberOf? (numberLayout.partsOfFinite binary64 negative significand exponent)).getD
      (.decimal (.finite negative significand exponent))
  | number => number

/-- A number that its text does not lose. -/
def Number.Printable : Number → Prop
  | .whole n => -(2 ^ 63) ≤ n ∧ n < 2 ^ 64
  | .decimal x => x.Bounded

/-- A whole number is made up of its sign and its digits again. -/
theorem wholeOf_natAbs {n : Int} (hmin : -(2 ^ 63) ≤ n) :
    wholeOf (decide (n < 0)) n.natAbs = .whole n := by
  rw [wholeOf]
  by_cases hneg : n < 0
  · have hrange : 0 < n.natAbs ∧ n.natAbs ≤ pow2 63 := by
      have : pow2 63 = 2 ^ 63 := rfl
      omega
    have hn : -(n.natAbs : Int) = n := by omega
    rw [decide_eq_true hneg, if_neg (by decide), if_pos hrange, hn]
  · have hn : (n.natAbs : Int) = n := by omega
    rw [decide_eq_false hneg, if_pos (by decide), hn]

/-- A number that its text does not lose is a numeral of the grammar. -/
theorem spells_number {depth : Nat} {number : Number} (h : number.Printable) :
    Spells depth number.write (.number number.reread) := by
  cases number with
  | whole n =>
    obtain ⟨hmin, hmax⟩ := h
    -- a whole number has its digits in a word, whatever its sign
    have hword : n.natAbs < UInt64.size := by
      have : UInt64.size = 2 ^ 64 := rfl
      omega
    have hvalue := numberOf?_whole (decide (n < 0)) hword
    rw [wholeOf_natAbs hmin] at hvalue
    have hchars : (Number.whole n).write =
        (Numeral.mk (decide (n < 0)) (Nat.toDigits 10 n.natAbs) none none).chars := by
      simp [Numeral.chars, Numeral.magnitudeChars, Number.write]
    rw [hchars]
    exact .number (Numeral.standard_toDigits _ _) hvalue
  | decimal x =>
    cases x with
    | nan => exact absurd h.atMost id
    | infinity => exact absurd h.atMost id
    | finite negative significand exponent =>
      -- the layout never writes more digits in front of the point than a word holds
      have hlayout : numberLayout.highest ≤ 18 := by decide
      obtain ⟨hstandard, haccepted⟩ := numeral_of_bounded hlayout h
      obtain ⟨read, hread⟩ := Option.isSome_iff_exists.1 haccepted
      have hchars := DecimalLayout.chars_partsOfFinite numberLayout binary64 negative significand
        exponent
      rw [Number.reread, hread, Number.write, ← hchars]
      exact .number hstandard hread

/-! ## 3. Lines -/

/-- A line feed with the indentation behind it is white space. -/
theorem gap_newLine (level : Nat) : Gap (newLine level) := by
  intro c hc
  rcases List.mem_cons.1 hc with rfl | hspace
  · rfl
  · rw [List.eq_of_mem_replicate hspace]
    rfl

/-- An indentation in front of a list is one in front of each of its texts. -/
theorem append_separated (indent : List Char) {texts : List (List Char)} (h : texts ≠ []) :
    indent ++ separated (',' :: indent) texts = separated [','] (texts.map (indent ++ ·)) := by
  induction texts with
  | nil => exact absurd rfl h
  | cons text rest ih =>
    rcases eq_or_ne rest [] with rfl | hrest
    · rfl
    · have hmap : rest.map (indent ++ ·) ≠ [] := by simpa using hrest
      rw [separated_cons hrest, List.map_cons, separated_cons hmap, ← ih hrest]
      simp

/-- A block is a list of texts that start new lines, with a gap behind them. -/
theorem block_eq (opening closing : Char) (level : Nat) (texts : List (List Char)) :
    ∃ gap, Gap gap ∧ block opening closing level texts =
      opening :: separated [','] (texts.map (newLine (level + 1) ++ ·)) ++ gap ++ [closing] := by
  cases texts with
  | nil => exact ⟨[], gap_nil, rfl⟩
  | cons text rest =>
    refine ⟨newLine level, gap_newLine level, ?_⟩
    rw [← append_separated _ (List.cons_ne_nil text rest), block]
    · simp
    · exact List.cons_ne_nil text rest

theorem prettyItems_eq_map (level : Nat) (items : List Value) :
    prettyItems level items = items.map (Value.prettyChars level) := by
  induction items with
  | nil => rfl
  | cons item rest ih => rw [prettyItems, ih, List.map_cons]

/-- The members of an object are written one by one, each behind its name. -/
theorem prettyMembers_eq_map (level : Nat) (members : List (String × Value)) :
    prettyMembers level members =
      members.map fun member => quote member.1 ++ ':' :: ' ' :: member.2.prettyChars level := by
  induction members with
  | nil => rfl
  | cons member rest ih =>
    obtain ⟨name, value⟩ := member
    rw [prettyMembers, ih, List.map_cons]

/-! ## 4. Values -/

/-- What stands in a text where a value was written. -/
def Value.reread (value : Value) : Value :=
  value.rebuild Number.reread id

theorem reread_array (items : List Value) :
    (Value.array items).reread = .array (items.map Value.reread) :=
  rebuild_array Number.reread id items

/-- An object is read again by its members, in the order written. -/
theorem reread_object (members : List (String × Value)) :
    (Value.object members).reread = .object (members.map (Prod.map id Value.reread)) :=
  rebuild_object Number.reread id members

/-- A value with numbers that its text does not lose, and containers in a number of
levels. -/
inductive Printable : Nat → Value → Prop where
  | null {depth : Nat} : Printable depth .null
  | bool {depth : Nat} (b : Bool) : Printable depth (.bool b)
  | number {depth : Nat} {number : Number} (h : number.Printable) :
      Printable depth (.number number)
  | string {depth : Nat} (s : String) : Printable depth (.string s)
  | array {depth : Nat} {items : List Value} (h : ∀ item ∈ items, Printable depth item) :
      Printable (depth + 1) (.array items)
  | object {depth : Nat} {members : List (String × Value)}
      (h : ∀ member ∈ members, Printable depth member.2) : Printable (depth + 1) (.object members)

/-- An item on a line of its own. -/
def itemAt (level : Nat) (item : Value) : Item where
  before := newLine level
  text := item.prettyChars level
  value := item.reread
  after := []

/-- A member on a line of its own. -/
def memberAt (level : Nat) (member : String × Value) : Member where
  before := [' ']
  text := member.2.prettyChars level
  value := member.2.reread
  after := []
  beforeName := newLine level
  spelling := member.1.toList.flatMap escape
  name := member.1
  afterName := []

theorem spaced_itemAt (level : Nat) (item : Value) : (itemAt level item).Spaced where
  before := gap_newLine level
  after := gap_nil

theorem spaced_memberAt (level : Nat) (member : String × Value) : (memberAt level member).Spaced where
  item := ⟨List.forall_mem_singleton.2 rfl, gap_nil⟩
  beforeName := gap_newLine level
  name := spellsChars_flatMap_escape member.1.toList
  afterName := gap_nil

theorem chars_itemAt (level : Nat) (item : Value) :
    (itemAt level item).chars = newLine level ++ item.prettyChars level := by
  simp [itemAt, Item.chars]

theorem chars_memberAt (level : Nat) (member : String × Value) :
    (memberAt level member).chars =
      newLine level ++ (quote member.1 ++ ':' :: ' ' :: member.2.prettyChars level) := by
  simp [memberAt, Member.chars, Item.chars, quote]

/-- An array is a text of the grammar if its items are. -/
theorem spells_prettyArray {depth level : Nat} {items : List Value}
    (h : ∀ item ∈ items, Spells depth (item.prettyChars (level + 1)) item.reread) :
    Spells (depth + 1) ((Value.array items).prettyChars level) (Value.array items).reread := by
  obtain ⟨gap, hgap, hblock⟩ := block_eq '[' ']' level (items.map (Value.prettyChars (level + 1)))
  have hchars : (items.map (Value.prettyChars (level + 1))).map (newLine (level + 1) ++ ·) =
      (items.map (itemAt (level + 1))).map Item.chars := by
    simp only [List.map_map, Function.comp_def, chars_itemAt]
  rw [Value.prettyChars, prettyItems_eq_map, hblock, hchars, reread_array]
  -- the items of the grammar are the written ones with the gaps around them
  have hvalues : items.map Value.reread = (items.map (itemAt (level + 1))).map Item.value := by
    rw [List.map_map]
    rfl
  rw [hvalues]
  refine .array ?_ ?_ hgap
  · exact List.forall_mem_map.2 fun item _ => spaced_itemAt _ item
  · exact List.forall_mem_map.2 h

/-- An object is a text of the grammar if the values of its members are. -/
theorem spells_prettyObject {depth level : Nat} {members : List (String × Value)}
    (h : ∀ member ∈ members, Spells depth (member.2.prettyChars (level + 1)) member.2.reread) :
    Spells (depth + 1) ((Value.object members).prettyChars level)
      (Value.object members).reread := by
  obtain ⟨gap, hgap, hblock⟩ := block_eq '\x7b' '\x7d' level (members.map fun member =>
    quote member.1 ++ ':' :: ' ' :: member.2.prettyChars (level + 1))
  have hchars : (members.map fun member =>
        quote member.1 ++ ':' :: ' ' :: member.2.prettyChars (level + 1)).map
          (newLine (level + 1) ++ ·) =
      (members.map (memberAt (level + 1))).map Member.chars := by
    simp only [List.map_map, Function.comp_def, chars_memberAt]
  rw [Value.prettyChars, prettyMembers_eq_map, hblock, hchars, reread_object]
  -- the members of the grammar are the written ones with the gaps around them
  have hpairs : members.map (Prod.map id Value.reread) =
      (members.map (memberAt (level + 1))).map Member.pair := by
    rw [List.map_map]
    rfl
  rw [hpairs]
  refine .object ?_ ?_ hgap
  · exact List.forall_mem_map.2 fun member _ => spaced_memberAt _ member
  · exact List.forall_mem_map.2 h

/-- What is written is a text of the grammar. The induction is on the value. -/
theorem spells_prettyChars {depth : Nat} {value : Value} (h : Printable depth value)
    (level : Nat) : Spells depth (value.prettyChars level) value.reread := by
  induction h generalizing level with
  | null => exact .null
  | bool b =>
    cases b with
    | true => exact .boolTrue
    | false => exact .boolFalse
  | number h => exact spells_number h
  | string s => exact spells_quote s
  | array h ih => exact spells_prettyArray fun item hitem => ih item hitem _
  | object h ih => exact spells_prettyObject fun member hmember => ih member hmember _

/-- A value that is spread over lines is a text of the grammar. -/
theorem spells_pretty {value : Value} (h : Printable maxDepth value) :
    Spells maxDepth value.pretty.toList value.reread := by
  rw [Value.pretty, String.toList_ofList]
  exact spells_prettyChars h 0

/-! ## 5. There and back -/

/-- What a reader gives for a value that was written. -/
def Value.readBack (value : Value) : Value :=
  value.reread.sorted

/-- **Values are read back.** They keep everything but the order of members and the last bit
of numbers that are not whole. -/
theorem parse?_pretty {value : Value} (h : Printable maxDepth value) :
    Value.parse? value.pretty = some value.readBack :=
  parse?_of_spells (spells_pretty h)

/-- An array is read back item by item. -/
theorem readBack_array (items : List Value) :
    (Value.array items).readBack = .array (items.map Value.readBack) := by
  rw [Value.readBack, reread_array, Value.sorted, rebuild_array, List.map_map]
  rfl

/-- An object is read back member by member, and its members are put in order. -/
theorem readBack_object (members : List (String × Value)) :
    (Value.object members).readBack =
      .object (sortMembers (members.map (Prod.map id Value.readBack))) := by
  rw [Value.readBack, reread_object, Value.sorted, rebuild_object, List.map_map]
  rfl

section Object

variable {members : List (String × Value)} {name : String} {value : Value}

/-- The names of an object are read back, though in another order. -/
theorem perm_readBack (h : DistinctNames members) :
    ∃ read, (Value.object members).readBack = .object read ∧
      (read.map Prod.fst).Perm (members.map Prod.fst) := by
  refine ⟨_, readBack_object members, ?_⟩
  have hnames := (perm_sortMembers (h.map Value.readBack)).map Prod.fst
  rw [List.map_map] at hnames
  exact hnames

/-- Every member of an object is found in what is read back. -/
theorem member?_readBack (h : DistinctNames members) (hmem : (name, value) ∈ members) :
    (Value.object members).readBack.member? name = some value.readBack := by
  rw [readBack_object]
  have hperm := perm_sortMembers (h.map Value.readBack)
  refine ((h.map Value.readBack).of_perm hperm).member?_of_mem (hperm.mem_iff.2 ?_)
  exact List.mem_map.2 ⟨(name, value), hmem, rfl⟩

end Object

end InputScript.Json
