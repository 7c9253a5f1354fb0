/-
Texts that are put together at a line feed.

A line feed is where a text may be cut without cutting a line. So the lines of a
text that ends with one, followed by another text, are the lines of both. Closing
an unfinished text with a line feed is less simple: it adds an empty line if there
was nothing to close, and it takes a carriage return from the last line. Lines that are
put together to a text, each closed by a line feed, lose such a carriage return as well,
and are otherwise the lines of that text.
-/
import InputScript.Text.Lines

set_option autoImplicit false

namespace InputScript.Text

/-! ## 1. The first line -/

/-- A character that does not end a line belongs to the first line of the rest. -/
theorem lines_cons {c : Char} {rest : List Char} (hc : c ≠ '\n')
    (hreturn : ∀ tail, c = '\r' → rest ≠ '\n' :: tail) :
    lines (c :: rest) = (c :: (lines rest).headD []) :: (lines rest).tail := by
  rw [lines]
  · cases lines rest <;> rfl
  · exact hc
  · exact hreturn

/-- The same of a rest that something follows, as long as it is not empty. -/
theorem lines_cons_append {c : Char} {more : List Char} (hc : c ≠ '\n')
    (hreturn : ∀ tail, c = '\r' → more ≠ '\n' :: tail) (hmore : lines more ≠ [])
    (rest : List Char) :
    lines (c :: more ++ rest) =
      (c :: (lines (more ++ rest)).headD []) :: (lines (more ++ rest)).tail := by
  cases more with
  | nil => exact absurd lines_nil hmore
  | cons d tail =>
    apply lines_cons hc
    intro other hcr hnext
    rw [(List.cons.inj hnext).1] at hreturn
    exact hreturn tail hcr rfl

/-- A text without a line feed is one line. -/
theorem lines_of_notMem {text : List Char} (h : '\n' ∉ text) (hne : text ≠ []) :
    lines text = [text] := by
  induction text with
  | nil => exact absurd rfl hne
  | cons c rest ih =>
    simp only [List.mem_cons, not_or] at h
    obtain ⟨hc, hrest⟩ := h
    -- a carriage return ends no line by itself
    have hreturn : ∀ tail, c = '\r' → rest ≠ '\n' :: tail := by
      rintro tail - rfl
      exact hrest List.mem_cons_self
    rw [lines_cons (Ne.symm hc) hreturn]
    cases rest with
    | nil => rfl
    | cons d more =>
      rw [ih hrest (List.cons_ne_nil d more)]
      rfl

/-- Every line takes a character of the text, its ending if it has no other. -/
theorem length_lines_le (text : List Char) : (lines text).length ≤ text.length := by
  fun_induction lines text with
  | case1 => exact Nat.le_refl 0
  | case2 rest ih => exact Nat.succ_le_succ ih
  | case3 rest ih => exact Nat.le_succ_of_le (Nat.succ_le_succ ih)
  -- the last line has a character, and every other one has its ending
  | case4 c rest hfeed hreturn hnone ih => exact Nat.succ_le_succ (Nat.zero_le _)
  | case5 c rest hfeed hreturn line more hsome ih =>
    rw [hsome] at ih
    exact Nat.le_succ_of_le ih

theorem lines_eq_nil_iff {text : List Char} : lines text = [] ↔ text = [] := by
  fun_cases lines text <;> simp [*]

/-! ## 2. Closed texts -/

/-- A text without an unfinished line: it ends with a line feed or is empty. -/
def Closed (text : List Char) : Prop :=
  ∀ c ∈ text.getLast?, c = '\n'

-- looks at the last character, and not at every character there is
instance {text : List Char} : Decidable (Closed text) :=
  Option.decidableForallMem text.getLast?

theorem closed_concat_newline (text : List Char) : Closed (text ++ ['\n']) := by
  intro c hc
  rw [List.getLast?_concat] at hc
  exact (Option.some_inj.1 hc).symm

/-- What closes a text closes what is left of it. -/
theorem Closed.of_cons {c : Char} {rest : List Char} (h : Closed (c :: rest)) : Closed rest := by
  intro d hd
  apply h d
  rw [List.getLast?_cons, hd]
  rfl

/-- What follows a closed text leaves its lines as they are. -/
theorem lines_append {closed : List Char} (h : Closed closed) (rest : List Char) :
    lines (closed ++ rest) = lines closed ++ lines rest := by
  fun_induction lines closed with
  | case1 => rfl
  | case2 more ih =>
    rw [List.cons_append, lines_newline, ih h.of_cons]
    rfl
  | case3 more ih =>
    change [] :: lines (more ++ rest) = _
    rw [ih h.of_cons.of_cons]
    rfl
  | case4 c more hc hreturn hnil ih =>
    -- nothing behind `c` closes its line, and `c` does not do so itself
    obtain rfl := lines_eq_nil_iff.1 hnil
    exact absurd (h c rfl) hc
  | case5 c more hc hreturn first others hlines ih =>
    have hmore : lines more ≠ [] := by
      rw [hlines]
      exact List.cons_ne_nil _ _
    rw [lines_cons_append hc hreturn hmore, ih h.of_cons, hlines]
    rfl

/-! ## 3. Closing the last line -/

/-- What a line feed at the end of a text does to its lines: it adds an empty one,
or keeps them, or takes a carriage return from the end of the last one. -/
inductive Closes : List (List Char) → List (List Char) → Prop
  | added (lines : List (List Char)) : Closes lines (lines ++ [[]])
  | kept (lines : List (List Char)) : Closes lines lines
  | shortened (front : List (List Char)) (last : List Char) :
    Closes (front ++ [last ++ ['\r']]) (front ++ [last])

/-- A line in front makes no difference to the last one. -/
theorem Closes.cons {before after : List (List Char)} (h : Closes before after)
    (line : List Char) : Closes (line :: before) (line :: after) := by
  cases h with
  | added => exact .added (line :: before)
  | kept => exact .kept _
  | shortened front last => exact .shortened (line :: front) last

/-- The first line may be the last one as well. -/
theorem Closes.extend {first : List Char} {others after : List (List Char)}
    (h : Closes (first :: others) after) (c : Char) :
    Closes ((c :: first) :: others) ((c :: after.headD []) :: after.tail) := by
  generalize hbefore : first :: others = before at h
  cases h with
  | added =>
    subst hbefore
    exact .added ((c :: first) :: others)
  | kept =>
    subst hbefore
    exact .kept _
  | shortened front last =>
    -- with nothing in front the shortened line is the one that the character goes to
    cases front with
    | nil =>
      cases hbefore
      exact .shortened [] (c :: last)
    | cons _ front =>
      cases hbefore
      exact .shortened ((c :: first) :: front) last

/-- A line feed at the end of a text does one of these things. -/
theorem closes_lines (text : List Char) : Closes (lines text) (lines (text ++ ['\n'])) := by
  fun_induction lines text with
  | case1 => exact .added []
  | case2 more ih =>
    rw [List.cons_append, lines_newline]
    exact ih.cons []
  | case3 more ih => exact ih.cons []
  | case4 c more hc hreturn hnil ih =>
    obtain rfl := lines_eq_nil_iff.1 hnil
    by_cases hcr : c = '\r'
    · -- the carriage return becomes part of the line ending
      subst hcr
      exact .shortened [] []
    · rw [List.singleton_append, lines_cons hc fun _ h => absurd h hcr]
      exact .kept [[c]]
  | case5 c more hc hreturn first others hlines ih =>
    have hmore : lines more ≠ [] := by
      rw [hlines]
      exact List.cons_ne_nil _ _
    rw [lines_cons_append hc hreturn hmore]
    exact Closes.extend (hlines ▸ ih) c

/-! ## 4. Texts made of lines -/

/-- The text of some lines, each of them closed by a line feed. -/
def unlines (lines : List (List Char)) : List Char :=
  lines.flatMap fun line => line ++ ['\n']

/-- A line without a carriage return at its end. -/
def dropReturn (line : List Char) : List Char :=
  if line.getLast? = some '\r' then line.dropLast else line

/-- There is at most one carriage return to take away. -/
theorem eq_dropReturn_or (line : List Char) :
    line = dropReturn line ∨ line = dropReturn line ++ ['\r'] := by
  unfold dropReturn
  by_cases hlast : line.getLast? = some '\r'
  · rw [if_pos hlast]
    obtain ⟨front, rfl⟩ := List.getLast?_eq_some_iff.1 hlast
    simp
  · rw [if_neg hlast]
    exact .inl rfl

/-- What is taken from a line is taken from its end. -/
theorem dropReturn_cons_cons (c d : Char) (rest : List Char) :
    dropReturn (c :: d :: rest) = c :: dropReturn (d :: rest) := by
  unfold dropReturn
  rw [List.getLast?_cons_cons, List.dropLast_cons_cons]
  split <;> rfl

/-- The first line of a text is what stands in front of its first line feed. -/
theorem lines_append_newline {line : List Char} (hline : '\n' ∉ line) (rest : List Char) :
    lines (line ++ '\n' :: rest) = dropReturn line :: lines rest := by
  induction line with
  | nil => rfl
  | cons c more ih =>
    simp only [List.mem_cons, not_or] at hline
    obtain ⟨hc, hmore⟩ := hline
    cases more with
    | nil =>
      -- a carriage return in front of the line feed goes with it
      by_cases hcr : c = '\r'
      · subst hcr
        rfl
      · rw [List.singleton_append, lines_cons (Ne.symm hc) fun _ h => absurd h hcr, lines_newline]
        simp [dropReturn, hcr]
    | cons d more =>
      -- the character behind `c` is not the line feed, so a carriage return does not count
      have hd : ∀ tail, c = '\r' → d :: more ++ '\n' :: rest ≠ '\n' :: tail := by
        intro tail _ hnext
        exact hmore ((List.cons.inj hnext).1 ▸ List.mem_cons_self)
      rw [List.cons_append, lines_cons (Ne.symm hc) hd, ih hmore, dropReturn_cons_cons]
      rfl

/-- The lines of a text that is made of lines. -/
theorem lines_unlines {text : List (List Char)} (h : ∀ line ∈ text, '\n' ∉ line) :
    lines (unlines text) = text.map dropReturn := by
  induction text with
  | nil => rfl
  | cons line rest ih =>
    have hcons : unlines (line :: rest) = line ++ '\n' :: unlines rest := by simp [unlines]
    rw [hcons, lines_append_newline (h line List.mem_cons_self),
      ih fun other hother => h other (List.mem_cons_of_mem line hother), List.map_cons]

/-- A text that ends no line, neither by itself nor in front of a line feed. -/
def OneLine (text : List Char) : Prop :=
  ∀ c ∈ text, c ≠ '\n' ∧ c ≠ '\r'

instance {text : List Char} : Decidable (OneLine text) :=
  List.decidableBAll _ text

@[simp]
theorem oneLine_append {front back : List Char} :
    OneLine (front ++ back) ↔ OneLine front ∧ OneLine back :=
  List.forall_mem_append

/-- A text of one class of characters is in one line if the ends of lines are not in the
class. -/
theorem oneLine_of_all {belongs : Char → Bool} (hfeed : belongs '\n' = false)
    (hreturn : belongs '\r' = false) {text : List Char} (h : ∀ c ∈ text, belongs c = true) :
    OneLine text := by
  intro c hc
  constructor
  · rintro rfl
    exact absurd (h _ hc) (Bool.eq_false_iff.1 hfeed)
  · rintro rfl
    exact absurd (h _ hc) (Bool.eq_false_iff.1 hreturn)

/-- There is no carriage return to take away. -/
theorem OneLine.dropReturn_eq {line : List Char} (h : OneLine line) : dropReturn line = line := by
  rw [dropReturn, if_neg]
  intro hlast
  exact (h '\r' (List.mem_of_getLast? hlast)).2 rfl

/-- Lines that are put together are the lines of their text. -/
theorem lines_unlines_of_oneLine {text : List (List Char)} (h : ∀ line ∈ text, OneLine line) :
    lines (unlines text) = text := by
  rw [lines_unlines fun line hline hmem => (h line hline _ hmem).1 rfl]
  -- line by line there is nothing to drop
  calc text.map dropReturn = text.map id :=
        List.map_congr_left fun line hline => (h line hline).dropReturn_eq
    _ = text := List.map_id text

end InputScript.Text
