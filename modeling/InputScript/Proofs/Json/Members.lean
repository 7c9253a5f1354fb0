/-
Members in order.

A reader gives the members of an object in the order of their names. Of names that are
all different this changes nothing but the order: the members are the same ones, and each
is found by its name. Changes throughout a value, to the order of its members as to its
numbers, are made from the inside out.
-/
import InputScript.Json.Value
import Mathlib.Data.List.Perm.Basic

set_option autoImplicit false

namespace InputScript.Json

/-! ## 1. Members by name -/

/-- The value of a member of an object, the first one of that name. -/
def Value.member? (value : Value) (name : String) : Option Value :=
  match value with
  | .object members => members.lookup name
  | _ => none

/-- No two members have the same name. -/
def DistinctNames (members : List (String × Value)) : Prop :=
  (members.map Prod.fst).Nodup

section Members

variable {members others : List (String × Value)} {name : String} {value : Value}

/-- The order of members does not matter for their names to be different. -/
theorem DistinctNames.of_perm (h : DistinctNames members) (hperm : others.Perm members) :
    DistinctNames others :=
  (hperm.map Prod.fst).nodup_iff.2 h

/-- Nor do their values. -/
theorem DistinctNames.map (h : DistinctNames members) (change : Value → Value) :
    DistinctNames (members.map (Prod.map id change)) := by
  rw [DistinctNames, List.map_map]
  exact h

/-- Every member is found by its name. -/
theorem DistinctNames.member?_of_mem (h : DistinctNames members) (hmem : (name, value) ∈ members) :
    (Value.object members).member? name = some value := by
  rw [Value.member?]
  induction members with
  | nil => cases hmem
  | cons first rest ih =>
    obtain ⟨hfirst, hrest⟩ := List.nodup_cons.1 h
    rcases List.mem_cons.1 hmem with rfl | hmem
    · exact List.lookup_cons_self
    · -- the member is a later one, so the first one has another name
      have hne : (name == first.1) = false := by
        apply beq_false_of_ne
        rintro rfl
        exact hfirst (List.mem_map.2 ⟨_, hmem, rfl⟩)
      rw [List.lookup_cons, hne]
      exact ih hrest hmem

/-! ## 2. Members in order -/

/-- A member of a new name is added to the others and takes no other's place. -/
theorem perm_insertMember (h : name ∉ members.map Prod.fst) (value : Value) :
    (insertMember name value members).Perm ((name, value) :: members) := by
  induction members with
  | nil => exact .refl _
  | cons first rest ih =>
    simp only [List.map_cons, List.mem_cons, not_or] at h
    obtain ⟨hfirst, hrest⟩ := h
    rw [insertMember, if_neg hfirst]
    split
    next => exact .refl _
    next => exact ((ih hrest).cons first).trans (.swap _ _ _)

/-- Of different names, order is all that changes. -/
theorem perm_sortMembers (h : DistinctNames members) : (sortMembers members).Perm members := by
  -- the members that are in order already come first
  have key : ∀ sorted : List (String × Value), DistinctNames (sorted ++ members) →
      (members.foldl (fun sorted member => insertMember member.1 member.2 sorted) sorted).Perm
        (sorted ++ members) := by
    clear h
    induction members with
    | nil =>
      intro sorted hdistinct
      rw [List.append_nil]
      exact .refl _
    | cons first rest ih =>
      intro sorted hdistinct
      have hmiddle : (first :: (sorted ++ rest)).Perm (sorted ++ first :: rest) :=
        List.perm_middle.symm
      have hnew : first.1 ∉ sorted.map Prod.fst := by
        have := (List.nodup_cons.1 (hdistinct.of_perm hmiddle)).1
        rw [List.map_append, List.mem_append, not_or] at this
        exact this.1
      have hinsert : (insertMember first.1 first.2 sorted ++ rest).Perm
          (sorted ++ first :: rest) :=
        ((perm_insertMember hnew first.2).append_right rest).trans hmiddle
      exact (ih _ (hdistinct.of_perm hinsert)).trans hinsert
  exact key [] h

/-- Members in ascending order of their names, and so no name twice. -/
def InOrder (members : List (String × Value)) : Prop :=
  (members.map Prod.fst).Pairwise (· < ·)

/-- With a member inserted there is one name more at most. -/
theorem mem_names_insertMember {other : String} :
    other ∈ (insertMember name value members).map Prod.fst ↔
      other = name ∨ other ∈ members.map Prod.fst := by
  induction members with
  | nil => simp [insertMember]
  | cons first rest ih =>
    rw [insertMember]
    split
    next => simp
    next =>
      split
      next heq => simp [heq]
      next => rw [List.map_cons, List.mem_cons, ih, List.map_cons, List.mem_cons, or_left_comm]

/-- A member is inserted where its name belongs. -/
theorem InOrder.insertMember (h : InOrder members) : InOrder (insertMember name value members) := by
  induction members with
  | nil => exact List.pairwise_singleton _ name
  | cons first rest ih =>
    have hboth := List.pairwise_cons.1 h
    obtain ⟨hfirst, hrest⟩ := hboth
    rw [Json.insertMember]
    split
    next hlt =>
      refine List.pairwise_cons.2 ⟨fun other hother => ?_, h⟩
      rcases List.mem_cons.1 hother with rfl | hother
      · exact hlt
      · exact String.lt_trans hlt (hfirst other hother)
    -- the name is not below the first one, so it is that one or stands above it
    next hge =>
      split
      next heq =>
        subst heq
        exact h
      next hne =>
        refine List.pairwise_cons.2 ⟨fun other hother => ?_, ih hrest⟩
        rcases mem_names_insertMember.1 hother with rfl | hother
        · exact String.not_le.1 fun hle => hne (String.le_antisymm hle (String.not_lt.1 hge))
        · exact hfirst other hother

/-- Members are sorted in order, whatever their names. -/
theorem inOrder_sortMembers (members : List (String × Value)) : InOrder (sortMembers members) := by
  rw [sortMembers]
  -- the members that are in order already are the state of the fold
  have key : ∀ sorted : List (String × Value), InOrder sorted →
      InOrder (members.foldl (fun sorted member => insertMember member.1 member.2 sorted)
        sorted) := by
    induction members with
    | nil => exact fun sorted h => h
    | cons first rest ih => exact fun sorted h => ih _ h.insertMember
  exact key [] .nil

end Members

/-! ## 3. Members in order throughout a value -/

mutual

/-- A value with the numbers in it and the members of its objects replaced, from the inside
out. -/
def Value.rebuild (number : Number → Number)
    (arrange : List (String × Value) → List (String × Value)) : Value → Value
  | .null => .null
  | .bool b => .bool b
  | .number n => .number (number n)
  | .string s => .string s
  | .array items => .array (rebuildItems number arrange items)
  | .object members => .object (arrange (rebuildMembers number arrange members))

/-- The items of an array, each rebuilt. -/
def rebuildItems (number : Number → Number)
    (arrange : List (String × Value) → List (String × Value)) : List Value → List Value
  | [] => []
  | item :: rest => item.rebuild number arrange :: rebuildItems number arrange rest

/-- The members of an object, each rebuilt. -/
def rebuildMembers (number : Number → Number)
    (arrange : List (String × Value) → List (String × Value)) :
    List (String × Value) → List (String × Value)
  | [] => []
  | (name, value) :: rest =>
    (name, value.rebuild number arrange) :: rebuildMembers number arrange rest

end

section Rebuild

variable (number : Number → Number) (arrange : List (String × Value) → List (String × Value))

theorem rebuildItems_eq_map (items : List Value) :
    rebuildItems number arrange items = items.map (Value.rebuild number arrange) := by
  induction items with
  | nil => rfl
  | cons item rest ih => rw [rebuildItems, ih, List.map_cons]

/-- The members of an object are rebuilt one by one, under the same names. -/
theorem rebuildMembers_eq_map (members : List (String × Value)) :
    rebuildMembers number arrange members =
      members.map (Prod.map id (Value.rebuild number arrange)) := by
  induction members with
  | nil => rfl
  | cons member rest ih =>
    obtain ⟨name, value⟩ := member
    rw [rebuildMembers, ih, List.map_cons]
    rfl

theorem rebuild_array (items : List Value) :
    (Value.array items).rebuild number arrange =
      .array (items.map (Value.rebuild number arrange)) := by
  rw [Value.rebuild, rebuildItems_eq_map]

theorem rebuild_object (members : List (String × Value)) :
    (Value.object members).rebuild number arrange =
      .object (arrange (members.map (Prod.map id (Value.rebuild number arrange)))) := by
  rw [Value.rebuild, rebuildMembers_eq_map]

end Rebuild

/-- A value with the members of all its objects in order, each name once. -/
def Value.sorted (value : Value) : Value :=
  value.rebuild id sortMembers

end InputScript.Json
