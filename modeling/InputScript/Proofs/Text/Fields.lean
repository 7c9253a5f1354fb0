/-
The fields of a line.

Fields are what stands between the white space of a line. Where they stand and which
white space keeps them apart is forgotten in `spaced`, which puts one space between
each two of them and none at the ends. Lines are taken apart by one induction: a line
is blank, or it is white space, a field, and a rest that does not go on with the field.
-/
import InputScript.Proofs.Text.UpperCase

set_option autoImplicit false

namespace InputScript.Text

/-- The fields of a line, in order. -/
def fields (line : List Char) : List (List Char) :=
  (line.splitOnP isWhiteSpace).filter fun field => !field.isEmpty

/-- The fields of a line with one space between each two. -/
def spaced (line : List Char) : List Char :=
  [' '].intercalate (fields line)

/-! ## 1. Cutting at white space -/

/-- White space cuts a line. All other facts about fields follow from this one and
the next. -/
theorem fields_append_cons {c : Char} (hc : isWhiteSpace c = true) (front back : List Char) :
    fields (front ++ c :: back) = fields front ++ fields back := by
  rw [fields, List.splitOnP_append_cons _ _ hc, List.filter_append]
  rfl

/-- What is not empty and has no white space in it is one field. -/
theorem fields_of_solid {field : List Char} (hne : field ≠ [])
    (hfield : ∀ c ∈ field, isWhiteSpace c = false) : fields field = [field] := by
  rw [fields, List.splitOnP_eq_singleton hfield]
  simp [hne]

@[simp]
theorem fields_nil : fields [] = [] := by
  simp [fields]

theorem fields_cons {c : Char} (hc : isWhiteSpace c = true) (line : List Char) :
    fields (c :: line) = fields line := by
  simpa using fields_append_cons hc [] line

theorem fields_concat {c : Char} (hc : isWhiteSpace c = true) (line : List Char) :
    fields (line ++ [c]) = fields line := by
  simpa using fields_append_cons hc line []

theorem fields_append_of_isBlank {gap : List Char} (hgap : isBlank gap = true)
    (line : List Char) : fields (gap ++ line) = fields line := by
  induction gap with
  | nil => rfl
  | cons c gap ih =>
    rw [isBlank, List.all_cons, Bool.and_eq_true] at hgap
    rw [List.cons_append, fields_cons hgap.1, ih hgap.2]

theorem fields_of_isBlank {line : List Char} (h : isBlank line = true) : fields line = [] := by
  simpa using fields_append_of_isBlank h []

/-- A field goes on until there is white space. -/
theorem fields_append_of_solid {field rest : List Char} (hne : field ≠ [])
    (hfield : ∀ c ∈ field, isWhiteSpace c = false)
    (hrest : ∀ c ∈ rest.head?, isWhiteSpace c = true) :
    fields (field ++ rest) = field :: fields rest := by
  cases rest with
  | nil => rw [List.append_nil, fields_of_solid hne hfield, fields_nil]
  | cons c rest =>
    have hc := hrest c rfl
    rw [fields_append_cons hc, fields_of_solid hne hfield, fields_cons hc, List.singleton_append]

/-! ## 2. Field by field -/

/-- What holds of blank lines, and of a line when it holds behind the first field, holds of
all lines. -/
@[elab_as_elim]
theorem fields_induction {motive : List Char → Prop}
    (blank : ∀ line, isBlank line = true → motive line)
    (field : ∀ gap field rest, isBlank gap = true → field ≠ [] →
      (∀ c ∈ field, isWhiteSpace c = false) → (∀ c ∈ rest.head?, isWhiteSpace c = true) →
      motive rest → motive (gap ++ (field ++ rest)))
    (line : List Char) : motive line := by
  -- the field is the longest stretch without white space behind the first white space
  generalize hsize : line.length = size
  induction size using Nat.strongRecOn generalizing line with
  | ind size ih =>
    have hline := List.takeWhile_append_dropWhile (p := isWhiteSpace) (l := line)
    have hgap : isBlank (line.takeWhile isWhiteSpace) = true := List.all_takeWhile
    generalize line.takeWhile isWhiteSpace = gap at hline hgap
    generalize hmore : line.dropWhile isWhiteSpace = more at hline
    cases more with
    | nil =>
      rw [List.append_nil] at hline
      exact blank line (hline ▸ hgap)
    | cons c tail =>
      have hc : isWhiteSpace c = false := by
        have hnot := List.head?_dropWhile_not isWhiteSpace line
        rw [hmore] at hnot
        simpa using hnot
      have hfield := List.takeWhile_append_dropWhile (p := fun c => !isWhiteSpace c) (l := c :: tail)
      have hrest := List.head?_dropWhile_not (fun c => !isWhiteSpace c) (c :: tail)
      rw [← hline, ← hfield]
      refine field _ _ _ hgap ?_ ?_ ?_ (ih _ ?_ _ rfl)
      · simp [hc]
      · intro d hd
        simpa using List.all_eq_true.1 List.all_takeWhile d hd
      · intro d hd
        rw [hd] at hrest
        simpa using hrest
      · -- the field has a character
        have hshort := (List.dropWhile_suffix (l := tail) fun c => !isWhiteSpace c).length_le
        rw [List.dropWhile_cons_of_pos (by simp [hc]), ← hsize, ← hline, List.length_append,
          List.length_cons]
        omega

/-- Fields are not empty and have no white space in them. -/
theorem solid_of_mem_fields {line field : List Char} (h : field ∈ fields line) :
    field ≠ [] ∧ ∀ c ∈ field, isWhiteSpace c = false := by
  induction line using fields_induction with
  | blank line hblank => simp [fields_of_isBlank hblank] at h
  | field gap first rest hgap hne hfirst hrest ih =>
    rw [fields_append_of_isBlank hgap, fields_append_of_solid hne hfirst hrest,
      List.mem_cons] at h
    rcases h with rfl | h
    · exact ⟨hne, hfirst⟩
    · exact ih h

/-- A line without fields is blank. -/
theorem fields_eq_nil_iff {line : List Char} : fields line = [] ↔ isBlank line = true := by
  refine ⟨?_, fields_of_isBlank⟩
  induction line using fields_induction with
  | blank line hblank => exact fun _ => hblank
  | field gap first rest hgap hne hfirst hrest ih =>
    rw [fields_append_of_isBlank hgap, fields_append_of_solid hne hfirst hrest]
    exact fun h => absurd h (List.cons_ne_nil _ _)

/-- The fields of an upper-cased line are its upper-cased fields. -/
theorem fields_upperChars (line : List Char) :
    fields (upperChars line) = (fields line).map upperChars := by
  induction line using fields_induction with
  | blank line hblank =>
    have hupper : isBlank (upperChars line) = true := by rw [isBlank_upperChars, hblank]
    rw [fields_of_isBlank hupper, fields_of_isBlank hblank, List.map_nil]
  | field gap first rest hgap hne hfirst hrest ih =>
    have hgapUpper : isBlank (upperChars gap) = true := by rw [isBlank_upperChars, hgap]
    have hneUpper : upperChars first ≠ [] := by rwa [Ne, upperChars_eq_nil_iff]
    -- white space behind the field is still white space behind it
    have hrestUpper : ∀ d ∈ (upperChars rest).head?, isWhiteSpace d = true := by
      intro d hd
      obtain ⟨c, hc, hform⟩ := head?_upperChars hd
      rw [isWhiteSpace_of_mem_upperChar hform]
      exact hrest c hc
    rw [upperChars_append, upperChars_append, fields_append_of_isBlank hgapUpper,
      fields_append_of_solid hneUpper (isWhiteSpace_of_mem_upperChars hfirst) hrestUpper, ih,
      fields_append_of_isBlank hgap, fields_append_of_solid hne hfirst hrest, List.map_cons]

/-! ## 3. Even spaces -/

theorem spaced_of_isBlank {line : List Char} (h : isBlank line = true) : spaced line = [] := by
  rw [spaced, fields_of_isBlank h]
  rfl

/-- Upper-casing leaves the spaces between words alone. -/
theorem upperChars_intercalate (words : List (List Char)) :
    upperChars ([' '].intercalate words) = [' '].intercalate (words.map upperChars) := by
  have hspace : upperChars [' '] = [' '] := by
    simp [upperChar_of_isWhiteSpace (c := ' ') (by decide)]
  induction words with
  | nil => rfl
  | cons first rest ih =>
    cases rest with
    | nil => simp
    | cons second rest =>
      rw [List.map_cons, List.map_cons, List.intercalate_cons_cons, List.intercalate_cons_cons,
        upperChars_append, upperChars_append, hspace, ih, List.map_cons]

/-- A line may be spaced and upper-cased in either order. -/
theorem spaced_upperChars (line : List Char) : spaced (upperChars line) = upperChars (spaced line) := by
  rw [spaced, spaced, fields_upperChars, upperChars_intercalate]

/-- The fields of a line, a space and the rest. -/
theorem spaced_field {gap field rest : List Char} (hgap : isBlank gap = true) (hne : field ≠ [])
    (hfield : ∀ c ∈ field, isWhiteSpace c = false)
    (hrest : ∀ c ∈ rest.head?, isWhiteSpace c = true) :
    spaced (gap ++ (field ++ rest)) =
      if isBlank rest then field else field ++ ' ' :: spaced rest := by
  rw [spaced, fields_append_of_isBlank hgap, fields_append_of_solid hne hfield hrest, spaced]
  -- no space is put behind the last field
  by_cases hblank : isBlank rest = true
  · rw [if_pos hblank, fields_of_isBlank hblank, List.intercalate_singleton]
  · obtain ⟨second, more, hmore⟩ := List.exists_cons_of_ne_nil (mt fields_eq_nil_iff.1 hblank)
    rw [if_neg hblank, hmore, List.intercalate_cons_cons, List.append_assoc, List.singleton_append]

/-- Unless the line is blank, its first field comes first. -/
theorem exists_spaced_eq_cons {line : List Char} (h : isBlank line = false) :
    ∃ c tail, spaced line = c :: tail ∧ isWhiteSpace c = false := by
  obtain ⟨field, more, hfields⟩ := List.exists_cons_of_ne_nil
    (mt fields_eq_nil_iff.1 (Bool.eq_false_iff.1 h))
  obtain ⟨hne, hsolid⟩ := solid_of_mem_fields (hfields ▸ List.mem_cons_self : field ∈ fields line)
  obtain ⟨c, tail, rfl⟩ := List.exists_cons_of_ne_nil hne
  rw [spaced, hfields]
  cases more with
  | nil => exact ⟨c, tail, by simp, hsolid c List.mem_cons_self⟩
  | cons second more =>
    exact ⟨c, _, by rw [List.intercalate_cons_cons]; rfl, hsolid c List.mem_cons_self⟩

/-- Spacing keeps blank lines apart from those that are not. -/
theorem isBlank_spaced (line : List Char) : isBlank (spaced line) = isBlank line := by
  cases hblank : isBlank line with
  | true => rw [spaced_of_isBlank hblank]; rfl
  | false =>
    obtain ⟨c, tail, hspaced, hc⟩ := exists_spaced_eq_cons hblank
    simp [hspaced, isBlank, hc]

/-- A spaced line does not start with white space. -/
theorem head?_spaced (line : List Char) : ∀ c ∈ (spaced line).head?, isWhiteSpace c = false := by
  intro c hc
  cases hblank : isBlank line with
  | true => simp [spaced_of_isBlank hblank] at hc
  | false =>
    obtain ⟨d, tail, hspaced, hd⟩ := exists_spaced_eq_cons hblank
    rw [hspaced] at hc
    cases hc
    exact hd

/-- Nothing but spaces is put between words. -/
theorem mem_of_mem_intercalate {words : List (List Char)} {c : Char}
    (h : c ∈ [' '].intercalate words) : c = ' ' ∨ ∃ word ∈ words, c ∈ word := by
  induction words with
  | nil => simp at h
  | cons first rest ih =>
    cases rest with
    | nil => exact .inr ⟨first, List.mem_cons_self, by simpa using h⟩
    | cons second rest =>
      rw [List.intercalate_cons_cons, List.mem_append, List.mem_append, List.mem_singleton] at h
      rcases h with (hfirst | hspace) | hrest
      · exact .inr ⟨first, List.mem_cons_self, hfirst⟩
      · exact .inl hspace
      · exact (ih hrest).imp_right fun ⟨word, hword, hc⟩ =>
          ⟨word, List.mem_cons_of_mem first hword, hc⟩

theorem newline_notMem_spaced (line : List Char) : '\n' ∉ spaced line := by
  intro hmem
  rcases mem_of_mem_intercalate hmem with hspace | ⟨field, hfield, hnewline⟩
  · exact absurd hspace (by decide)
  · exact absurd ((solid_of_mem_fields hfield).2 _ hnewline) (by decide)

end InputScript.Text
