/-
The reader accepts what the grammar derives.

A text of the grammar, with white space in front of it and the rest of a document behind
it, is read as its value up to the order of members, and the reader stops where the text
ends. Only a number needs to know what stands behind it. The induction is on the
derivation; the fuel of the reader is twice the length of the text, of which a container
spends a call on each of its brackets.
-/
import InputScript.Proofs.Json.Grammar
import InputScript.Proofs.Json.Members
import Mathlib.Data.List.DropRight

set_option autoImplicit false

namespace InputScript.Json

open InputScript.Text

/-! ## 1. White space -/

/-- The reader skips a gap as a whole. -/
theorem skipSpace_append {gap rest : List Char} (hgap : Gap gap) :
    skipSpace (gap ++ rest) = skipSpace rest :=
  List.dropWhile_append_of_pos hgap

theorem skipSpace_cons {c : Char} (hc : isSpace c = false) (rest : List Char) :
    skipSpace (c :: rest) = c :: rest :=
  List.dropWhile_cons_of_neg (ne_true_of_eq_false hc)

theorem skipSpace_skipSpace (text : List Char) : skipSpace (skipSpace text) = skipSpace text :=
  List.dropWhile_idempotent isSpace text

/-- White space is no part of a number. -/
theorem endsNumber_append {gap rest : List Char} (hgap : Gap gap) (hrest : EndsNumber rest) :
    EndsNumber (gap ++ rest) := by
  cases gap with
  | nil => exact hrest
  | cons c gap =>
    rintro _ ⟨⟩
    have hc := hgap c List.mem_cons_self
    simp only [isSpace, Bool.or_eq_true, beq_iff_eq] at hc
    -- four characters are white space, and none of them goes on with a number
    rcases hc with ((rfl | rfl) | rfl) | rfl <;> decide

/-! ## 2. Strings -/

/-- A character that stands for itself is read as such. -/
theorem readChars_plain {c : Char} (hcontrol : ¬c.toNat < 0x20) (hquote : c ≠ '"')
    (hbackslash : c ≠ '\\') (rest : List Char) :
    readChars (c :: rest) = consRead c (readChars rest) := by
  rw [readChars]
  · rw [if_neg hcontrol]
  · -- the other patterns of the reader start with a quote or a backslash
    exact hquote
  · intro _ _ _ _ _ _ _ _ _ heq
    exact absurd heq hbackslash
  · intro _ _ _ _ _ heq
    exact absurd heq hbackslash
  · intro _ _ heq
    exact absurd heq hbackslash

/-- A letter behind a backslash is read as what it stands for. -/
theorem readChars_short {letter c : Char} (h : unescape? letter = some c) (rest : List Char) :
    readChars ('\\' :: letter :: rest) = consRead c (readChars rest) := by
  -- the letter of the hexadecimal form stands for nothing by itself
  have hletter : letter ≠ 'u' := by
    rintro rfl
    exact Option.some_ne_none c h.symm
  rw [readChars]
  · rw [h]
  · intro _ _ _ _ _ _ _ _ _ heq
    exact absurd heq hletter
  · intro _ _ _ _ _ heq
    exact absurd heq hletter

/-- A code unit that is not half of a pair is a character, whatever stands behind it. -/
theorem readChars_unit {a b c d : Char} {unit : Nat} (h : hexUnit? a b c d = some unit)
    (hhigh : isHighSurrogate unit = false) (hlow : isLowSurrogate unit = false)
    (rest : List Char) :
    readChars ('\\' :: 'u' :: a :: b :: c :: d :: rest) =
      consRead (Char.ofNat unit) (readChars rest) := by
  -- another escape behind it could be taken for the second half of a pair
  by_cases hnext : ∃ e f g i tail, rest = '\\' :: 'u' :: e :: f :: g :: i :: tail
  · obtain ⟨e, f, g, i, tail, rfl⟩ := hnext
    simp [readChars, h, hhigh, hlow]
  · rw [readChars]
    · simp [h, hhigh, hlow]
    · intro e f g i tail heq
      exact hnext ⟨e, f, g, i, tail, heq⟩

/-- Characters are read back up to the quote behind them. The induction is on their spelling. -/
theorem readChars_append {text chars : List Char} (h : SpellsChars text chars)
    (rest : List Char) : readChars (text ++ '"' :: rest) = some (chars, rest) := by
  induction h with
  | nil => rw [List.nil_append, readChars]
  | @cons piece text chars c hpiece htext ih =>
    have hcons : readChars (piece ++ (text ++ '"' :: rest)) =
        consRead c (readChars (text ++ '"' :: rest)) := by
      -- each way of spelling a character is read, whatever stands behind it
      generalize text ++ '"' :: rest = tail
      cases hpiece with
      | plain hcontrol hquote hbackslash => exact readChars_plain hcontrol hquote hbackslash tail
      | short h => exact readChars_short h tail
      | unit h hhigh hlow => exact readChars_unit h hhigh hlow tail
      | pair hfirst hhigh hsecond hlow => simp [readChars, hfirst, hhigh, hsecond, hlow]
    rw [List.append_assoc, hcons, ih]
    rfl

/-- A string is read back up to the quote behind it. -/
theorem readString_append {text : List Char} {s : String} (h : SpellsChars text s.toList)
    (rest : List Char) : readString (text ++ '"' :: rest) = some (s, rest) := by
  simp [readString, readChars_append h]

/-! ## 3. Heads -/

/-- A number starts with a digit or a sign. -/
theorem exists_head_of_digital {numeral : Numeral} (h : numeral.Digital) :
    ∃ c tail, numeral.chars = c :: tail ∧ (c.isDigit = true ∨ c = '-') := by
  obtain ⟨first, more, hwhole⟩ := List.exists_cons_of_ne_nil h.whole.ne_nil
  have hfirst : first.isDigit = true := h.whole.digit first (hwhole ▸ List.mem_cons_self)
  rw [Numeral.chars, Numeral.magnitudeChars, hwhole]
  cases numeral.negative with
  | true => exact ⟨'-', _, rfl, .inr rfl⟩
  | false => exact ⟨first, _, rfl, .inl hfirst⟩

/-- A character that starts a number starts nothing else. -/
theorem ne_of_startsNumber {c other : Char} (h : c.isDigit = true ∨ c = '-')
    (hother : other.isDigit = false ∧ other ≠ '-') : c ≠ other := by
  rintro rfl
  rcases h with hdigit | rfl
  · exact Bool.false_ne_true (hother.1.symm.trans hdigit)
  · exact hother.2 rfl

/-- A number does not start with white space. -/
theorem isSpace_of_startsNumber {c : Char} (h : c.isDigit = true ∨ c = '-') :
    isSpace c = false := by
  have hne : ∀ other : Char, other.isDigit = false ∧ other ≠ '-' → (c == other) = false :=
    fun other hother => beq_false_of_ne (ne_of_startsNumber h hother)
  simp [isSpace, hne]

/-- Nor does it start with one of the three words. -/
theorem readWord_of_startsNumber {c : Char} (h : c.isDigit = true ∨ c = '-') (rest : List Char) :
    readWord (c :: rest) = none := by
  rw [readWord]
  all_goals
    intro tail heq
    exact ne_of_startsNumber h (by decide) (List.cons.inj heq).1

/-- Every value starts with a character that is neither white space nor the end of an
array. -/
theorem Spells.exists_head {depth : Nat} {text : List Char} {value : Value}
    (h : Spells depth text value) :
    ∃ c tail, text = c :: tail ∧ isSpace c = false ∧ c ≠ ']' := by
  cases h with
  | null => exact ⟨'n', _, rfl, rfl, by decide⟩
  | boolTrue => exact ⟨'t', _, rfl, rfl, by decide⟩
  | boolFalse => exact ⟨'f', _, rfl, rfl, by decide⟩
  | string => exact ⟨'"', _, rfl, rfl, by decide⟩
  | array => exact ⟨'[', _, rfl, rfl, by decide⟩
  | object => exact ⟨'\x7b', _, rfl, rfl, by decide⟩
  | number hstandard =>
    obtain ⟨c, tail, htext, hc⟩ := exists_head_of_digital hstandard.toDigital
    exact ⟨c, tail, htext, isSpace_of_startsNumber hc, ne_of_startsNumber hc (by decide)⟩

/-! ## 4. Items and members -/

/-- A text is read as its value, in order, wherever it stands in a document. -/
def ReadsBack (depth : Nat) (text : List Char) (value : Value) : Prop :=
  ∀ {rest : List Char} {fuel : Nat}, EndsNumber rest → 2 * text.length ≤ fuel →
    readValue (fuel + 1) depth (text ++ rest) = some (value.sorted, rest)

/-- White space in front of a value is skipped. -/
theorem readValue_gap {gap : List Char} (hgap : Gap gap) (fuel depth : Nat) (rest : List Char) :
    readValue fuel depth (gap ++ rest) = readValue fuel depth rest := by
  cases fuel with
  | zero => rfl
  | succ fuel => rw [readValue, readValue, skipSpace_append hgap]

/-- White space in front of the items of an array makes no difference to them. -/
theorem readItems_skipSpace (fuel depth : Nat) (text : List Char) :
    readItems fuel depth (skipSpace text) = readItems fuel depth text := by
  -- the first item skips it anyway
  have hvalue : ∀ fuel, readValue fuel depth (skipSpace text) = readValue fuel depth text := by
    intro fuel
    cases fuel with
    | zero => rfl
    | succ fuel => rw [readValue, readValue, skipSpace_skipSpace]
  cases fuel with
  | zero => rfl
  | succ fuel => rw [readItems, readItems, hvalue]

/-- Nor does it to the members of an object. -/
theorem readMembers_skipSpace (fuel depth : Nat) (text : List Char) :
    readMembers fuel depth (skipSpace text) = readMembers fuel depth text := by
  cases fuel with
  | zero => rfl
  | succ fuel => rw [readMembers, readMembers, skipSpace_skipSpace]

section Container

variable {depth fuel : Nat} {gap : List Char}

/-- The signs that may stand behind an item or a member. -/
def IsSign (c : Char) : Prop :=
  c = ',' ∨ c = ']' ∨ c = '\x7d'

/-- A sign ends the number in front of it. -/
theorem IsSign.endsNumber {sign : Char} (h : IsSign sign) (rest : List Char) :
    EndsNumber (sign :: rest) := by
  rintro _ ⟨⟩
  rcases h with rfl | rfl | rfl <;> decide

theorem IsSign.isSpace_eq {sign : Char} (h : IsSign sign) : isSpace sign = false := by
  rcases h with rfl | rfl | rfl <;> rfl

/-- An item is read, and what is left goes on with the sign behind it. -/
theorem readValue_item {item : Item} (hspaced : item.Spaced)
    (hread : ReadsBack depth item.text item.value) (hgap : Gap gap) {sign : Char}
    (hsign : IsSign sign) (rest : List Char) (hfuel : 2 * item.chars.length ≤ fuel) :
    ∃ behind, readValue (fuel + 1) depth (item.chars ++ (gap ++ sign :: rest)) =
        some (item.value.sorted, behind) ∧
      skipSpace behind = sign :: rest := by
  have htext : 2 * item.text.length ≤ fuel := by
    simp only [Item.chars, List.length_append] at hfuel
    omega
  -- the text of an item may be a number, which is ended by what stands behind it
  have hends := endsNumber_append hspaced.after (endsNumber_append hgap (hsign.endsNumber rest))
  refine ⟨item.after ++ (gap ++ sign :: rest), ?_, ?_⟩
  · rw [Item.chars, List.append_assoc, List.append_assoc, readValue_gap hspaced.before]
    exact hread hends htext
  · rw [skipSpace_append hspaced.after, skipSpace_append hgap, skipSpace_cons hsign.isSpace_eq]

/-- Behind the last item the array ends. -/
theorem readItems_last {item : Item} (hspaced : item.Spaced)
    (hread : ReadsBack depth item.text item.value) (hgap : Gap gap) (rest : List Char)
    (hfuel : 2 * item.chars.length ≤ fuel) :
    readItems (fuel + 2) depth (item.chars ++ (gap ++ ']' :: rest)) =
      some ([item.value.sorted], rest) := by
  obtain ⟨behind, hvalue, hbehind⟩ :=
    readValue_item hspaced hread hgap (.inr (.inl rfl)) rest hfuel
  simp only [readItems, hvalue, hbehind]

/-- Behind a comma the items go on. -/
theorem readItems_comma {item : Item} (hspaced : item.Spaced)
    (hread : ReadsBack depth item.text item.value) (rest : List Char)
    (hfuel : 2 * item.chars.length ≤ fuel) :
    readItems (fuel + 2) depth (item.chars ++ ',' :: rest) =
      (readItems (fuel + 1) depth rest).map fun (items, rest) =>
        (item.value.sorted :: items, rest) := by
  obtain ⟨behind, hvalue, hbehind⟩ := readValue_item hspaced hread gap_nil (.inl rfl) rest hfuel
  rw [List.nil_append] at hvalue
  rw [readItems]
  simp only [hvalue, hbehind]

/-- The items of an array are read one after the other, up to the bracket. -/
theorem readItems_append {items : List Item} (hne : items ≠ [])
    (hspaced : ∀ item ∈ items, item.Spaced)
    (hread : ∀ item ∈ items, ReadsBack depth item.text item.value) (hgap : Gap gap)
    (rest : List Char) (hfuel : 2 * (separated [','] (items.map Item.chars)).length ≤ fuel) :
    readItems (fuel + 2) depth (separated [','] (items.map Item.chars) ++ (gap ++ ']' :: rest)) =
      some (items.map fun item => item.value.sorted, rest) := by
  induction items generalizing fuel with
  | nil => exact absurd rfl hne
  | cons item more ih =>
    obtain ⟨hitem, hmore⟩ := List.forall_mem_cons.1 hspaced
    obtain ⟨hreadItem, hreadMore⟩ := List.forall_mem_cons.1 hread
    rcases eq_or_ne more [] with rfl | hlast
    · exact readItems_last hitem hreadItem hgap rest hfuel
    · have hmap : more.map Item.chars ≠ [] := by simpa using hlast
      rw [List.map_cons, separated_cons hmap] at hfuel ⊢
      simp only [List.length_append, List.length_singleton] at hfuel
      -- the comma pays for the call that reads the other items
      obtain ⟨fuel, rfl⟩ : ∃ less, fuel = less + 1 := ⟨fuel - 1, by omega⟩
      have hless : 2 * (separated [','] (more.map Item.chars)).length ≤ fuel := by omega
      have hrest := ih hlast hmore hreadMore hless
      rw [List.append_assoc, List.append_assoc, List.singleton_append, readItems_comma hitem
        hreadItem _ (by omega), hrest]
      rfl

/-- A member goes on, behind its name, with a colon and its item. -/
theorem skipSpace_member {member : Member} (hspaced : member.Spaced) (rest : List Char) :
    skipSpace (member.chars ++ rest) =
      '"' :: (member.spelling ++ '"' :: (member.afterName ++ ':' ::
        (member.toItem.chars ++ rest))) := by
  have hquote : isSpace '"' = false := rfl
  simp only [Member.chars, List.append_assoc, List.cons_append,
    skipSpace_append hspaced.beforeName, skipSpace_cons hquote]

theorem isSpace_colon : isSpace ':' = false := rfl

theorem length_item_le (member : Member) : member.toItem.chars.length ≤ member.chars.length := by
  simp only [Member.chars, List.length_append, List.length_cons]
  omega

/-- Behind the last member the object ends. -/
theorem readMembers_last {member : Member} (hspaced : member.Spaced)
    (hread : ReadsBack depth member.text member.value) (hgap : Gap gap) (rest : List Char)
    (hfuel : 2 * member.chars.length ≤ fuel) :
    readMembers (fuel + 2) depth (member.chars ++ (gap ++ '\x7d' :: rest)) =
      some ([(member.name, member.value.sorted)], rest) := by
  obtain ⟨behind, hvalue, hbehind⟩ := readValue_item hspaced.item hread hgap (.inr (.inr rfl)) rest
    ((Nat.mul_le_mul_left 2 (length_item_le member)).trans hfuel)
  simp only [readMembers, skipSpace_member hspaced, readString_append hspaced.name,
    skipSpace_append hspaced.afterName, skipSpace_cons isSpace_colon, hvalue, hbehind]

/-- Behind a comma the members go on. -/
theorem readMembers_comma {member : Member} (hspaced : member.Spaced)
    (hread : ReadsBack depth member.text member.value) (rest : List Char)
    (hfuel : 2 * member.chars.length ≤ fuel) :
    readMembers (fuel + 2) depth (member.chars ++ ',' :: rest) =
      (readMembers (fuel + 1) depth rest).map fun (members, rest) =>
        ((member.name, member.value.sorted) :: members, rest) := by
  obtain ⟨behind, hvalue, hbehind⟩ := readValue_item hspaced.item hread gap_nil (.inl rfl) rest
    ((Nat.mul_le_mul_left 2 (length_item_le member)).trans hfuel)
  rw [List.nil_append] at hvalue
  rw [readMembers]
  simp only [skipSpace_member hspaced, readString_append hspaced.name,
    skipSpace_append hspaced.afterName, skipSpace_cons isSpace_colon, hvalue, hbehind]

/-- The members of an object are read one after the other, up to the brace. -/
theorem readMembers_append {members : List Member} (hne : members ≠ [])
    (hspaced : ∀ member ∈ members, member.Spaced)
    (hread : ∀ member ∈ members, ReadsBack depth member.text member.value) (hgap : Gap gap)
    (rest : List Char) (hfuel : 2 * (separated [','] (members.map Member.chars)).length ≤ fuel) :
    readMembers (fuel + 2) depth
        (separated [','] (members.map Member.chars) ++ (gap ++ '\x7d' :: rest)) =
      some (members.map fun member => (member.name, member.value.sorted), rest) := by
  induction members generalizing fuel with
  | nil => exact absurd rfl hne
  | cons member more ih =>
    obtain ⟨hmember, hmore⟩ := List.forall_mem_cons.1 hspaced
    obtain ⟨hreadMember, hreadMore⟩ := List.forall_mem_cons.1 hread
    rcases eq_or_ne more [] with rfl | hlast
    · exact readMembers_last hmember hreadMember hgap rest hfuel
    · have hmap : more.map Member.chars ≠ [] := by simpa using hlast
      rw [List.map_cons, separated_cons hmap] at hfuel ⊢
      simp only [List.length_append, List.length_singleton] at hfuel
      -- here too it is the comma that pays for the next call
      obtain ⟨fuel, rfl⟩ : ∃ less, fuel = less + 1 := ⟨fuel - 1, by omega⟩
      have hless : 2 * (separated [','] (more.map Member.chars)).length ≤ fuel := by omega
      have hrest := ih hlast hmore hreadMore hless
      rw [List.append_assoc, List.append_assoc, List.singleton_append, readMembers_comma hmember
        hreadMember _ (by omega), hrest]
      rfl

end Container

/-! ## 5. Values -/

section Open

variable (fuel depth : Nat)

/-- What starts with a digit or a minus is read as a number. -/
theorem readValue_of_startsNumber {c : Char} (h : c.isDigit = true ∨ c = '-')
    (rest : List Char) :
    readValue (fuel + 1) depth (c :: rest) =
      (readNumber (c :: rest)).map fun (number, rest) => (.number number, rest) := by
  have hne : ∀ {other : Char} {tail : List Char}, other.isDigit = false ∧ other ≠ '-' →
      c :: rest ≠ other :: tail :=
    fun hother heq => ne_of_startsNumber h hother (List.cons.inj heq).1
  rw [readValue, skipSpace_cons (isSpace_of_startsNumber h)]
  -- no other kind of value starts with such a character
  split
  next heq => exact absurd heq (hne (by decide))
  next heq => exact absurd heq (hne (by decide))
  next heq => exact absurd heq (hne (by decide))
  next => rw [readWord_of_startsNumber h, Option.none_or]

/-- What starts with a quote is read as a string. -/
theorem readValue_string {text : List Char} {s : String} (h : SpellsChars text s.toList)
    (rest : List Char) :
    readValue (fuel + 1) depth ('"' :: (text ++ '"' :: rest)) = some (.string s, rest) := by
  rw [readValue, skipSpace_cons rfl]
  simp only [readString_append h, Option.map_some]

/-- An array that does not end at once is read item by item. -/
theorem readValue_array {inner : List Char} (h : ∀ tail, skipSpace inner ≠ ']' :: tail) :
    readValue (fuel + 1) (depth + 1) ('[' :: inner) =
      (readItems fuel depth inner).map fun (items, rest) => (.array items, rest) := by
  rw [readValue, skipSpace_cons rfl]
  -- the premise rules the closing bracket out
  simp only [readItems_skipSpace]

/-- Brackets with white space between them are an array without items. -/
theorem readValue_emptyArray {inner rest : List Char} (h : skipSpace inner = ']' :: rest) :
    readValue (fuel + 1) (depth + 1) ('[' :: inner) = some (.array [], rest) := by
  rw [readValue, skipSpace_cons rfl]
  simp only [h]

/-- An object that does not end at once is read member by member. -/
theorem readValue_object {inner : List Char} (h : ∀ tail, skipSpace inner ≠ '\x7d' :: tail) :
    readValue (fuel + 1) (depth + 1) ('\x7b' :: inner) =
      (readMembers fuel depth inner).map fun (members, rest) =>
        (.object (sortMembers members), rest) := by
  rw [readValue, skipSpace_cons rfl]
  -- the premise rules the closing brace out
  simp only [readMembers_skipSpace]

/-- Braces with white space between them are an object without members. -/
theorem readValue_emptyObject {inner rest : List Char} (h : skipSpace inner = '\x7d' :: rest) :
    readValue (fuel + 1) (depth + 1) ('\x7b' :: inner) = some (.object [], rest) := by
  rw [readValue, skipSpace_cons rfl]
  simp only [h]

end Open

/-- What the items of an array start with is not the end of the array. -/
theorem skipSpace_items_ne {depth : Nat} {first : Item} (hspaced : first.Spaced)
    (hfirst : Spells depth first.text first.value) (more : List Item) (rest tail : List Char) :
    skipSpace (separated [','] ((first :: more).map Item.chars) ++ rest) ≠ ']' :: tail := by
  obtain ⟨c, chars, htext, hspace, hne⟩ := hfirst.exists_head
  obtain ⟨others, hothers⟩ := exists_separated_cons [','] first.chars (more.map Item.chars)
  rw [List.map_cons, hothers, Item.chars, htext]
  simp only [List.append_assoc, List.cons_append, skipSpace_append hspaced.before,
    skipSpace_cons hspace]
  exact fun heq => hne (List.cons.inj heq).1

/-- What the members of an object start with is not the end of the object. -/
theorem skipSpace_members_ne {first : Member} (hspaced : first.Spaced) (more : List Member)
    (rest tail : List Char) :
    skipSpace (separated [','] ((first :: more).map Member.chars) ++ rest) ≠ '\x7d' :: tail := by
  have hspace : isSpace '"' = false := rfl
  obtain ⟨others, hothers⟩ := exists_separated_cons [','] first.chars (more.map Member.chars)
  rw [List.map_cons, hothers, Member.chars]
  simp only [List.append_assoc, List.cons_append, skipSpace_append hspaced.beforeName,
    skipSpace_cons hspace]
  exact fun heq => absurd (List.cons.inj heq).1 (by decide)

/-- An array is read back if its items are. -/
theorem readsBack_array {depth : Nat} {items : List Item} {gap : List Char}
    (hspaced : ∀ item ∈ items, item.Spaced)
    (hitems : ∀ item ∈ items, Spells depth item.text item.value) (hgap : Gap gap)
    (hread : ∀ item ∈ items, ReadsBack depth item.text item.value) :
    ReadsBack (depth + 1) ('[' :: separated [','] (items.map Item.chars) ++ gap ++ [']'])
      (.array (items.map Item.value)) := by
  intro rest fuel hrest hfuel
  simp only [List.length_append, List.length_cons, List.length_nil] at hfuel
  -- the two brackets pay for the calls that the array takes
  obtain ⟨fuel, rfl⟩ : ∃ less, fuel = less + 2 := ⟨fuel - 2, by omega⟩
  have htext : '[' :: separated [','] (items.map Item.chars) ++ gap ++ [']'] ++ rest =
      '[' :: (separated [','] (items.map Item.chars) ++ (gap ++ ']' :: rest)) := by
    simp
  rw [htext, Value.sorted, rebuild_array, List.map_map]
  cases items with
  | nil =>
    have hclose : skipSpace (gap ++ ']' :: rest) = ']' :: rest := by
      rw [skipSpace_append hgap, skipSpace_cons rfl]
    exact readValue_emptyArray _ depth hclose
  | cons first more =>
    have hopen := skipSpace_items_ne (hspaced first List.mem_cons_self)
      (hitems first List.mem_cons_self) more (gap ++ ']' :: rest)
    have hinside : 2 * (separated [','] ((first :: more).map Item.chars)).length ≤ fuel := by omega
    have hinner :=
      readItems_append (List.cons_ne_nil first more) hspaced hread hgap rest hinside
    rw [readValue_array _ depth hopen, hinner]
    rfl

/-- An object is read back if its members are, and these are put in order. -/
theorem readsBack_object {depth : Nat} {members : List Member} {gap : List Char}
    (hspaced : ∀ member ∈ members, member.Spaced) (hgap : Gap gap)
    (hread : ∀ member ∈ members, ReadsBack depth member.text member.value) :
    ReadsBack (depth + 1)
      ('\x7b' :: separated [','] (members.map Member.chars) ++ gap ++ ['\x7d'])
      (.object (members.map Member.pair)) := by
  intro rest fuel hrest hfuel
  simp only [List.length_append, List.length_cons, List.length_nil] at hfuel
  -- the two braces pay for the calls that the object takes
  obtain ⟨fuel, rfl⟩ : ∃ less, fuel = less + 2 := ⟨fuel - 2, by omega⟩
  have htext : '\x7b' :: separated [','] (members.map Member.chars) ++ gap ++ ['\x7d'] ++ rest =
      '\x7b' :: (separated [','] (members.map Member.chars) ++ (gap ++ '\x7d' :: rest)) := by
    simp
  rw [htext, Value.sorted, rebuild_object, List.map_map]
  cases members with
  | nil =>
    have hclose : skipSpace (gap ++ '\x7d' :: rest) = '\x7d' :: rest := by
      rw [skipSpace_append hgap, skipSpace_cons rfl]
    exact readValue_emptyObject _ depth hclose
  | cons first more =>
    have hopen := skipSpace_members_ne (hspaced first List.mem_cons_self) more
      (gap ++ '\x7d' :: rest)
    have hinside : 2 * (separated [','] ((first :: more).map Member.chars)).length ≤ fuel := by omega
    have hinner :=
      readMembers_append (List.cons_ne_nil first more) hspaced hread hgap rest hinside
    rw [readValue_object _ depth hopen, hinner]
    rfl

/-- What the grammar derives is read. The induction is on the derivation. -/
theorem readsBack_of_spells {depth : Nat} {text : List Char} {value : Value}
    (h : Spells depth text value) : ReadsBack depth text value := by
  induction h with
  | null =>
    intro rest fuel hrest hfuel
    rfl
  | boolTrue =>
    intro rest fuel hrest hfuel
    rfl
  | boolFalse =>
    intro rest fuel hrest hfuel
    rfl
  | number hstandard hvalue =>
    intro rest fuel hrest hfuel
    -- the first character alone tells the reader that a number follows
    obtain ⟨c, tail, htext, hc⟩ := exists_head_of_digital hstandard.toDigital
    have hnumber := readNumber_append hstandard hrest
    rw [htext, List.cons_append] at hnumber ⊢
    rw [readValue_of_startsNumber fuel _ hc, hnumber, hvalue]
    rfl
  | string h =>
    intro rest fuel hrest hfuel
    rw [List.append_assoc]
    exact readValue_string fuel _ h rest
  | array hspaced hitems hgap ih => exact readsBack_array hspaced hitems hgap ih
  | object hspaced hmembers hgap ih => exact readsBack_object hspaced hgap ih

/-- A text of the grammar is read as its value, with the members of its objects in order. -/
theorem parse?_of_spells {text : String} {value : Value}
    (h : Spells maxDepth text.toList value) : Value.parse? text = some value.sorted := by
  have hread : readValue (2 * text.toList.length + 2) maxDepth (text.toList ++ []) =
      some (value.sorted, []) :=
    readsBack_of_spells h (by rintro _ ⟨⟩) (Nat.le_succ _)
  rw [List.append_nil] at hread
  rw [Value.parse?, Value.ofChars?, hread]
  rfl

/-! ## 6. Objects that were read -/

theorem ne_object_of_readWord {text rest : List Char} {value : Value}
    (h : readWord text = some (value, rest)) (members : List (String × Value)) :
    value ≠ .object members := by
  unfold readWord at h
  split at h <;> cases h <;> exact fun heq => (nomatch heq)

/-- An object comes out of the reader with its members in order, whatever the text is. -/
theorem inOrder_of_readValue {fuel depth : Nat} {text rest : List Char}
    {members : List (String × Value)}
    (h : readValue fuel depth text = some (.object members, rest)) : InOrder members := by
  cases fuel with
  | zero => cases h
  | succ fuel =>
    rw [readValue] at h
    split at h
    next =>
      obtain ⟨_, -, heq⟩ := Option.map_eq_some_iff.1 h
      cases heq
    next =>
      split at h
      next => cases h
      next =>
        split at h
        next => cases h
        next =>
          obtain ⟨_, -, heq⟩ := Option.map_eq_some_iff.1 h
          cases heq
    next =>
      split at h
      next => cases h
      next =>
        split at h
        next =>
          cases h
          exact .nil
        -- the one branch that gives members sorts them
        next =>
          obtain ⟨_, -, heq⟩ := Option.map_eq_some_iff.1 h
          cases heq
          exact inOrder_sortMembers _
    next =>
      rcases Option.or_eq_some_iff.1 h with hword | ⟨-, hnumber⟩
      · exact absurd rfl (ne_object_of_readWord hword members)
      · obtain ⟨_, -, heq⟩ := Option.map_eq_some_iff.1 hnumber
        cases heq

/-- An object that is a whole document has its members in order as well. -/
theorem inOrder_of_parse? {text : String} {members : List (String × Value)}
    (h : Value.parse? text = some (.object members)) : InOrder members := by
  rw [Value.parse?, Value.ofChars?] at h
  split at h
  next value rest hread =>
    split at h
    next =>
      cases h
      exact inOrder_of_readValue hread
    next => cases h
  next => cases h

end InputScript.Json
