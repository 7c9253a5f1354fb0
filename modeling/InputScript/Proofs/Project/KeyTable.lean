/-
Which texts are key tables.

The members of an object are taken in the order of their names (`load_keys_from_json`), and
each is looked at only once those in front of it are in the table. So a text is a key table
if all its members can be taken, and otherwise the first one that cannot be decides the
error. This file says which members those are without the table that is built on the way:
upper-casing is not injective, and a letter may become several, so names can meet that
differ in more than their case.
-/
import InputScript.Proofs.Json.Reader
import InputScript.Proofs.Project.KeyFile
import Mathlib

set_option autoImplicit false

namespace InputScript.Project

open InputScript.Json InputScript.Pad InputScript.Text

/-! ## 1. Members that can be taken -/

/-- A value is a code if it is a whole number from 0 to 255, written as one. -/
def IsCode (value : Value) : Prop :=
  ∃ n : Nat, n ≤ 255 ∧ value = .number (.whole n)

/-- A value is a code exactly if the reader takes it for one. -/
theorem isCode_iff {value : Value} : IsCode value ↔ ∃ code, codeOf? value = some code := by
  constructor
  · rintro ⟨n, hn, rfl⟩
    have hcode : n.toUInt8.toNat = n := by simp; omega
    exact ⟨n.toUInt8, codeOf?_eq_some_iff.2 (by rw [hcode, Value.ofNat])⟩
  · rintro ⟨code, hcode⟩
    have hrange := code.toNat_lt
    exact ⟨code.toNat, by omega, codeOf?_eq_some_iff.1 hcode⟩

/-- The names of members as they stand in a table. -/
def foldedNames (members : List (String × Value)) : List String :=
  members.map fun member => upperCase member.1

/-- All these members can be taken one after the other if the names in `taken` are taken:
their values are codes, and upper-cased their names are new and different. -/
structure Usable (taken : List String) (members : List (String × Value)) : Prop where
  codes : ∀ member ∈ members, IsCode member.2
  distinct : (taken ++ foldedNames members).Nodup

/-- The error that a member brings if the names in `taken` are taken. A value that is no code
counts before a name that is taken. -/
inductive Offends (taken : List String) : String × Value → KeyFileError → Prop
  | badCode {name : String} {value : Value} (hvalue : ¬IsCode value) :
    Offends taken (name, value) (.badCode name value)
  | definedTwice {name : String} {value : Value} (hvalue : IsCode value)
    (hname : upperCase name ∈ taken) :
    Offends taken (name, value) (.definedTwice (upperCase name))

/-- The first of the members that cannot be taken brings the error. -/
def FirstOffence (taken : List String) (members : List (String × Value)) (error : KeyFileError) :
    Prop :=
  ∃ earlier member later, members = earlier ++ member :: later ∧ Usable taken earlier ∧
    Offends (taken ++ foldedNames earlier) member error

variable {taken : List String} {name : String} {value : Value} {member : String × Value}
  {members : List (String × Value)} {error : KeyFileError}

/-- A member brings only one error. -/
theorem Offends.eq_of_offends {other : KeyFileError} (h : Offends taken member error)
    (hother : Offends taken member other) : error = other := by
  cases h with
  | badCode hvalue =>
    cases hother with
    | badCode => rfl
    | definedTwice hcode => exact absurd hcode hvalue
  | definedTwice hcode =>
    cases hother with
    | badCode hvalue => exact absurd hcode hvalue
    | definedTwice => rfl

/-! ## 2. One member -/

theorem usable_nil : Usable taken [] ↔ taken.Nodup := by
  constructor
  · intro h
    simpa [foldedNames] using h.distinct
  · intro h
    exact ⟨by simp, by simpa [foldedNames] using h⟩

/-- A member that is taken takes its name away from those behind it. -/
theorem usable_cons : Usable taken ((name, value) :: members) ↔
    IsCode value ∧ Usable (taken ++ [upperCase name]) members := by
  have hnames : taken ++ foldedNames ((name, value) :: members) =
      taken ++ [upperCase name] ++ foldedNames members := by
    rw [foldedNames, List.map_cons, List.append_cons]
    rfl
  constructor
  · rintro ⟨hcodes, hdistinct⟩
    obtain ⟨hvalue, hcodes⟩ := List.forall_mem_cons.1 hcodes
    exact ⟨hvalue, hcodes, hnames ▸ hdistinct⟩
  · rintro ⟨hvalue, hcodes, hdistinct⟩
    exact ⟨List.forall_mem_cons.2 ⟨hvalue, hcodes⟩, hnames ▸ hdistinct⟩

/-- The first of members that can be taken has a new name. -/
theorem notMem_of_usable_cons (h : Usable taken ((name, value) :: members)) :
    upperCase name ∉ taken := by
  intro hmem
  have hdistinct := h.distinct
  rw [foldedNames, List.map_cons, List.nodup_middle, List.nodup_cons] at hdistinct
  exact hdistinct.1 (List.mem_append_left _ hmem)

theorem Offends.not_usable (h : Offends taken (name, value) error) :
    ¬Usable taken ((name, value) :: members) := by
  intro husable
  cases h with
  | badCode hbad => exact hbad (usable_cons.1 husable).1
  | definedTwice _ hmem => exact notMem_of_usable_cons husable hmem

/-- A first member that brings an error brings the first one. -/
theorem firstOffence_of_offends (hdistinct : taken.Nodup)
    (h : Offends taken (name, value) error) : FirstOffence taken ((name, value) :: members) error :=
  ⟨[], _, members, rfl, usable_nil.2 hdistinct, by rwa [foldedNames, List.map_nil, List.append_nil]⟩

/-- Behind a member that can be taken the first offence is one of the others. -/
theorem firstOffence_cons_iff (hvalue : IsCode value) (hname : upperCase name ∉ taken) :
    FirstOffence taken ((name, value) :: members) error ↔
      FirstOffence (taken ++ [upperCase name]) members error := by
  constructor
  · rintro ⟨earlier, member, later, hmembers, husable, hoffends⟩
    -- the first offence is the first member, which does not offend, or stands behind it
    cases earlier with
    | nil =>
      obtain ⟨rfl, rfl⟩ := List.cons.inj hmembers
      rw [foldedNames, List.map_nil, List.append_nil] at hoffends
      cases hoffends with
      | badCode hbad => exact absurd hvalue hbad
      | definedTwice _ hmem => exact absurd hmem hname
    | cons first earlier =>
      obtain ⟨rfl, rfl⟩ := List.cons.inj hmembers
      refine ⟨earlier, member, later, rfl, (usable_cons.1 husable).2, ?_⟩
      rwa [foldedNames, List.map_cons, List.append_cons] at hoffends
  · rintro ⟨earlier, member, later, rfl, husable, hoffends⟩
    refine ⟨(name, value) :: earlier, member, later, rfl, usable_cons.2 ⟨hvalue, husable⟩, ?_⟩
    rwa [foldedNames, List.map_cons, List.append_cons]

/-- The error of a first member that cannot be taken is the first offence. -/
theorem firstOffence_cons_iff_of_offends (hdistinct : taken.Nodup)
    (h : Offends taken (name, value) error) {other : KeyFileError} :
    FirstOffence taken ((name, value) :: members) other ↔ other = error := by
  constructor
  · rintro ⟨earlier, member, later, hmembers, husable, hoffends⟩
    cases earlier with
    | nil =>
      obtain ⟨rfl, rfl⟩ := List.cons.inj hmembers
      rw [foldedNames, List.map_nil, List.append_nil] at hoffends
      exact hoffends.eq_of_offends h
    | cons first earlier =>
      obtain ⟨rfl, -⟩ := List.cons.inj hmembers
      exact absurd husable h.not_usable
  · rintro rfl
    exact firstOffence_of_offends hdistinct h

/-! ## 3. All members -/

variable {keys : KeyTable} {code : UInt8}

/-- The names of a table are those in `taken`, which are all different. -/
structure Takes (keys : KeyTable) (taken : List String) : Prop where
  isSome_iff : ∀ name, (keys.code? name).isSome = true ↔ name ∈ taken
  nodup : taken.Nodup

theorem takes_empty : Takes .empty [] :=
  ⟨by simp, .nil⟩

/-- A new name in the table is one more that is taken. -/
theorem Takes.insert (h : Takes keys taken) (hname : name ∉ taken) :
    Takes (keys.insert name code) (taken ++ [name]) := by
  constructor
  · intro other
    rw [KeyTable.code?_insert, List.mem_append, List.mem_singleton, ← h.isSome_iff]
    split <;> simp [*]
  · refine List.nodup_append.2 ⟨h.nodup, List.nodup_singleton _, ?_⟩
    rintro other hother _ hlast rfl
    exact hname (List.mem_singleton.1 hlast ▸ hother)

/-- A member that cannot be taken ends the reading with its error. -/
theorem readMembers_of_offends (hkeys : Takes keys taken) (h : Offends taken (name, value) error) :
    (readMembers keys ((name, value) :: members)).result = .error error := by
  cases h with
  | badCode hbad =>
    have hnone : codeOf? value = none :=
      Option.eq_none_iff_forall_ne_some.2 fun code hcode => hbad (isCode_iff.2 ⟨code, hcode⟩)
    rw [readMembers, hnone]
  | definedTwice hvalue hname =>
    obtain ⟨code, hcode⟩ := isCode_iff.1 hvalue
    rw [readMembers, hcode]
    dsimp only
    rw [if_pos ((hkeys.isSome_iff _).2 hname)]

/-- A member that can be taken is put into the table for those behind it. -/
theorem readMembers_of_codeOf? (hkeys : Takes keys taken) (hcode : codeOf? value = some code)
    (hname : upperCase name ∉ taken) :
    (readMembers keys ((name, value) :: members)).result =
      (readMembers (keys.insert (upperCase name) code) members).result := by
  rw [readMembers, hcode]
  dsimp only
  rw [if_neg fun hsome => hname ((hkeys.isSome_iff _).1 hsome)]

/-- A member brings an error or has a code and a name that is new. -/
theorem offends_or_new (taken : List String) (name : String) (value : Value) :
    (∃ error, Offends taken (name, value) error) ∨
      (∃ code, codeOf? value = some code) ∧ upperCase name ∉ taken := by
  -- the value is looked at first, and then the name
  by_cases hvalue : IsCode value
  · by_cases hname : upperCase name ∈ taken
    · exact .inl ⟨_, .definedTwice hvalue hname⟩
    · exact .inr ⟨isCode_iff.1 hvalue, hname⟩
  · exact .inl ⟨_, .badCode hvalue⟩

/-- Members are read into a table whose names are taken exactly if all of them can be, and
the error is the one of the first that cannot. -/
theorem result_readMembers (hkeys : Takes keys taken) :
    ((∃ table, (readMembers keys members).result = .ok table) ↔ Usable taken members) ∧
      ∀ error, (readMembers keys members).result = .error error ↔
        FirstOffence taken members error := by
  -- the names behind the first member are judged by the table that holds it already
  induction members generalizing keys taken with
  | nil =>
    refine ⟨iff_of_true ⟨keys, rfl⟩ (usable_nil.2 hkeys.nodup), fun error => ?_⟩
    refine iff_of_false (fun h => nomatch h) ?_
    rintro ⟨earlier, member, later, hmembers, -⟩
    simp at hmembers
  | cons first rest ih =>
    obtain ⟨name, value⟩ := first
    rcases offends_or_new taken name value with ⟨error, hoffends⟩ | ⟨⟨code, hcode⟩, hname⟩
    · rw [readMembers_of_offends hkeys hoffends]
      refine ⟨iff_of_false (fun ⟨_, h⟩ => nomatch h) hoffends.not_usable, fun other => ?_⟩
      rw [firstOffence_cons_iff_of_offends hkeys.nodup hoffends, Except.error.injEq, eq_comm]
    · have hvalue : IsCode value := isCode_iff.2 ⟨code, hcode⟩
      obtain ⟨hok, herror⟩ := ih (hkeys.insert hname)
      rw [readMembers_of_codeOf? hkeys hcode hname, usable_cons]
      refine ⟨hok.trans ⟨fun h => ⟨hvalue, h⟩, And.right⟩, fun error => ?_⟩
      rw [herror, firstOffence_cons_iff hvalue hname]

/-! ## 4. Key files -/

/-- **Which texts are key tables, and what is wrong with the others.** A text that is JSON is
a key table exactly if it is an object that is not empty, its values are whole numbers from 0
to 255, and no two of its names are equal in upper case. The table then gives the upper-cased
name of each member its code and has no other name. Otherwise the error of an object that is
not empty is that of the first member, in the order of the names, which has no code or meets
an earlier name. -/
theorem readKeys_object {text : String} {value : Value} (h : Value.parse? text = some value) :
    ((∃ table, (readKeys text).result = .ok table) ↔
      ∃ members, value = .object members ∧ members ≠ [] ∧ Usable [] members) ∧
    ∀ members, value = .object members → members ≠ [] →
      InOrder members ∧
      (∀ table, (readKeys text).result = .ok table → ∀ name code,
        table.code? name = some code ↔
          ∃ member ∈ members, upperCase member.1 = name ∧ member.2 = .ofNat code.toNat) ∧
      ∀ error, (readKeys text).result = .error error ↔ FirstOffence [] members error := by
  have hread : readKeys text = readKeyValue value := by rw [readKeys, h]
  -- only an object with members has its members read
  have hobject : ∀ members, value = .object members → members ≠ [] →
      (readKeys text).result = (readMembers .empty members).result := by
    rintro members rfl hne
    rw [hread, readKeyValue]
    exact fun hnil => hne hnil
  constructor
  · constructor
    · rintro ⟨table, htable⟩
      have hvalue := htable
      rw [hread] at hvalue
      unfold readKeyValue at hvalue
      split at hvalue
      next => cases hvalue
      next members hne =>
        refine ⟨members, rfl, hne, ?_⟩
        exact (result_readMembers takes_empty).1.1 ⟨table, hvalue⟩
      next => cases hvalue
    · rintro ⟨members, hmembers, hne, husable⟩
      rw [hobject members hmembers hne]
      exact (result_readMembers takes_empty).1.2 husable
  · intro members hmembers hne
    rw [hobject members hmembers hne]
    refine ⟨inOrder_of_parse? (h.trans (congrArg some hmembers)), fun table htable name code => ?_,
      (result_readMembers takes_empty).2⟩
    rw [code?_of_readMembers htable]
    simp only [KeyTable.code?_empty, reduceCtorEq, false_or, Defines, codeOf?_eq_some_iff]

/-- A letter that becomes two, so that names meet which are not the same in any case, in front
of a number that is no code. -/
theorem readKeys_object_of_meeting_names :
    let text := "\x7b\"ß\": 255, \"SS\": 0, \"ü\": 256\x7d"
    let members : List (String × Value) :=
      [("SS", .ofNat 0), ("ß", .ofNat 255), ("ü", .ofNat 256)]
    Value.parse? text = some (.object members) ∧
      (readKeys text).result = .error (.definedTwice "SS") := by
  intro text members
  have hparse : Value.parse? text = some (.object members) := by cbv
  have hcode : ∀ n ≤ 255, IsCode (.ofNat n) := fun n hn => ⟨n, hn, rfl⟩
  have hsharp : upperCase "ß" ∈ [] ++ foldedNames [("SS", .ofNat 0)] := by decide +kernel
  have hfirst : Usable [] [("SS", .ofNat 0)] :=
    ⟨List.forall_mem_singleton.2 (hcode 0 (by decide)), List.nodup_singleton _⟩
  have hname : upperCase "ß" = "SS" := by decide +kernel
  obtain ⟨-, hobject⟩ := readKeys_object hparse
  obtain ⟨-, -, herror⟩ := hobject members rfl (List.cons_ne_nil _ _)
  refine ⟨hparse, (herror _).2 ⟨_, _, _, rfl, hfirst, ?_⟩⟩
  rw [← hname]
  exact .definedTwice (hcode 255 (by decide)) hsharp

end InputScript.Project
