/-
Names of the enumerators.

The names of keys are different from each other, and their identifiers need not be: what
may not stand in an identifier is replaced by one and the same character. So it depends on
the key table whether the enumeration has a name twice, and the names that meet are known:
they agree in length and in letters and digits, place by place.
-/
import InputScript.Proofs.Artifact.Header

set_option autoImplicit false

namespace InputScript.Artifact

open InputScript.Compile InputScript.Text InputScript.Timeline

/-! ## 1. Names with one identifier -/

/-- A name with an underscore in front of it if it is empty or starts with a digit. -/
def underscored : List Char → List Char
  | [] => ['_']
  | first :: rest => if first.isDigit then '_' :: first :: rest else first :: rest

/-- Two characters that an identifier does not tell apart. -/
def SameInIdentifier (c d : Char) : Prop :=
  c = d ∨ c.isAlphanum = false ∧ d.isAlphanum = false

/-- Two names that differ only in what identifiers do not tell apart. -/
def Alike (first second : List Char) : Prop :=
  List.Forall₂ SameInIdentifier (underscored first) (underscored second)

/-- A character is replaced by no digit. -/
theorem isDigit_replaced (c : Char) : (if c.isAlphanum then c else '_').isDigit = c.isDigit := by
  split
  next => rfl
  next hnot =>
    have hno : c.isDigit = false := by
      simp only [Char.isAlphanum, Bool.or_eq_true, not_or, Bool.not_eq_true] at hnot
      exact hnot.2
    rw [hno]
    rfl

/-- The underscore in front may be put there before characters are replaced, as replacing makes
no digit and takes none away. -/
theorem identifierChars_eq_map (name : List Char) :
    identifierChars name = (underscored name).map fun c => if c.isAlphanum then c else '_' := by
  cases name with
  | nil => rfl
  | cons first rest =>
    rw [identifierChars, underscored]
    simp only [List.map_cons, isDigit_replaced]
    split <;> rfl

/-- Two characters become one exactly if an identifier does not tell them apart. -/
theorem replaced_eq_iff {c d : Char} :
    (if c.isAlphanum then c else '_') = (if d.isAlphanum then d else '_') ↔
      SameInIdentifier c d := by
  have hunderscore : '_'.isAlphanum = false := rfl
  unfold SameInIdentifier
  split <;> split
  next hc hd => simp [hc]
  next hc hd =>
    -- an alphanumeric character is no underscore, so nothing that is replaced becomes one
    refine iff_of_false ?_ ?_
    · rintro rfl
      simp [hunderscore] at hc
    · rintro (rfl | ⟨hno, -⟩)
      · exact hd hc
      · simp [hno] at hc
  next hc hd =>
    refine iff_of_false ?_ ?_
    · rintro rfl
      simp [hunderscore] at hd
    · rintro (rfl | ⟨-, hno⟩)
      · exact hc hd
      · simp [hno] at hd
  next hc hd =>
    exact iff_of_true rfl (.inr ⟨Bool.not_eq_true _ ▸ hc, Bool.not_eq_true _ ▸ hd⟩)

/-- Names have the same identifier if they are alike. -/
theorem identifierChars_eq_iff {first second : List Char} :
    identifierChars first = identifierChars second ↔ Alike first second := by
  rw [identifierChars_eq_map, identifierChars_eq_map, ← List.forall₂_eq_eq_eq,
    List.forall₂_map_left_iff, List.forall₂_map_right_iff]
  simp only [replaced_eq_iff, Alike]

/-! ## 2. Enumerations -/

/-- The name of an enumerator. -/
def HeaderLine.enumerator? : HeaderLine → Option (List Char)
  | .key name _ => some name
  | _ => none

/-- The names of the enumerators that a header declares. -/
def enumerators (text : String) : List (List Char) :=
  (HeaderLine.ofText text).filterMap HeaderLine.enumerator?

theorem enumerators_opening (keys : List (String × UInt8)) :
    (HeaderLine.opening keys).filterMap HeaderLine.enumerator? =
      keys.map fun key => identifierChars key.1.toList := by
  have hkeys : (keys.map fun key => HeaderLine.key (identifierChars key.1.toList)
      key.2.toNat).filterMap HeaderLine.enumerator? =
        keys.map fun key => identifierChars key.1.toList := by
    rw [List.filterMap_map]
    exact congrFun List.filterMap_eq_map keys
  rw [HeaderLine.opening, List.filterMap_append, List.filterMap_append, hkeys]
  exact List.append_nil _

/-- A header declares the identifiers of its keys, also if it breaks off. -/
theorem enumerators_headerLines (name : String) (keys : List (String × UInt8))
    (timeline : Timeline) :
    enumerators (headerLines name keys timeline).text =
      keys.map fun key => identifierChars key.1.toList := by
  obtain ⟨front, back, hlines, -, hfront, hback⟩ := headerLines_around_rows name keys timeline
  obtain ⟨shown, -, hread⟩ := ofLine_rows (rows_spec timeline.frames).1
  -- neither the beginning of the table nor its rows nor its end is read as an enumerator
  have hbegin : [if timeline.frames.isEmpty then HeaderLine.noTable else .other].filterMap
      HeaderLine.enumerator? = [] := by
    split <;> rfl
  have hrows : (shown.map fun row => HeaderLine.frame row.1 row.2).filterMap
      HeaderLine.enumerator? = [] := by
    rw [List.filterMap_map, List.filterMap_eq_nil_iff]
    exact fun _ _ => rfl
  have hend : (if timeline.frames.isEmpty || (rows timeline.frames).failure.isSome then []
      else [HeaderLine.other]).filterMap HeaderLine.enumerator? = [] := by
    split <;> rfl
  rw [enumerators, ofText_text_headerLines, hlines, List.map_append, List.map_append, hfront,
    hread, hback, List.filterMap_append, List.filterMap_append, List.filterMap_append,
    List.filterMap_append, enumerators_opening, hbegin, hrows, hend, List.append_nil,
    List.append_nil, List.append_nil]
  exact List.append_nil _

end InputScript.Artifact

namespace InputScript.Project

open InputScript.Artifact

/-! ## 3. Projects -/

/-- The order in which the keys are listed does not matter for whether a name comes twice. -/
theorem nodup_enumerators_iff_nodup_table (project : Project) :
    (enumerators project.process.header.text).Nodup ↔
      (project.keyTable.pairs.map fun key => identifierChars key.1.toList).Nodup := by
  have hnames : enumerators project.process.header.text =
      project.keyTable.entries.map fun key => identifierChars key.1.toList :=
    enumerators_headerLines _ _ _
  rw [hnames]
  exact ((List.mergeSort_perm _ _).map _).nodup_iff

/-- **Names of enumerators.** A header has no enumerator twice exactly if no two different
names of the key table are alike: if some letter or digit tells them apart, the underscore
in front of a leading digit being taken along. This is so for complete headers and for those
that break off. -/
theorem enumerators_nodup_iff (project : Project) :
    (enumerators project.process.header.text).Nodup ↔
      ∀ first ∈ project.keyTable.pairs, ∀ second ∈ project.keyTable.pairs,
        Alike first.1.toList second.1.toList → first.1 = second.1 := by
  have hnames : project.keyTable.pairs.map (fun key => identifierChars key.1.toList) =
      (project.keyTable.pairs.map Prod.fst).map fun name => identifierChars name.toList := by
    rw [List.map_map]
    rfl
  rw [nodup_enumerators_iff_nodup_table, hnames, List.nodup_map_iff_inj_on project.keyTable.distinct]
  simp only [List.forall_mem_map, identifierChars_eq_iff]

/-- Names that are identifiers themselves are declared as different enumerators. -/
theorem nodup_enumerators_of_identifiers {project : Project}
    (h : ∀ key ∈ project.keyTable.pairs, identifierChars key.1.toList = key.1.toList) :
    (enumerators project.process.header.text).Nodup := by
  have hnames : project.keyTable.pairs.map (fun key => key.1.toList) =
      (project.keyTable.pairs.map Prod.fst).map String.toList := by
    rw [List.map_map]
    rfl
  rw [nodup_enumerators_iff_nodup_table, List.map_congr_left h, hnames]
  exact project.keyTable.distinct.map fun _ _ => String.toList_inj.1

/-- The controller's own buttons have such names. -/
example : ∀ key ∈ Pad.KeyTable.builtIn.pairs, identifierChars key.1.toList = key.1.toList := by
  decide

/-- Two names of one length that differ in characters which no identifier has. -/
theorem not_nodup_enumerators :
    ¬∀ project : Project, (enumerators project.process.header.text).Nodup := by
  intro hall
  let project : Project :=
    { name := "demo", script := "0 A-", keys := some ⟨[("A-", 1), ("A_", 2)], by decide⟩ }
  have hnodup := (nodup_enumerators_iff_nodup_table project).1 (hall project)
  exact absurd hnodup (by decide)

end InputScript.Project
