/-
How names of keys are found and listed.

A table is written down in some order, and nothing may be seen of it. A name has one code,
so it does not matter where it stands; and the order in which names are listed (`entries`)
leaves no two of them undecided, so there is one list for all the ways to write a table
down. A layout has an order that does matter: its spellings are tried one after the other,
and the first that makes a name of the table decides.
-/
import InputScript.Pad.Keys
import InputScript.Proofs.Text.ByteOrder
import Mathlib.Data.List.Nodup
import Mathlib.Data.Prod.Lex
import Mathlib.Data.String.Basic

set_option autoImplicit false

namespace InputScript.Pad

open InputScript.Text

namespace KeyTable

variable {keys : KeyTable} {name : String} {code : UInt8}

/-! ## 1. Names of a table -/

/-- The names that have a code. -/
def names (keys : KeyTable) : List String :=
  keys.pairs.map Prod.fst

/-- A name is written down once, so it has the code that stands beside it. -/
theorem code?_eq_some_iff : keys.code? name = some code ↔ (name, code) ∈ keys.pairs := by
  rw [code?, List.lookup_eq_some_iff]
  constructor
  · rintro ⟨front, back, hpairs, -⟩
    rw [hpairs]
    exact List.mem_append_cons_self
  · intro hmem
    obtain ⟨front, back, hpairs⟩ := List.append_of_mem hmem
    refine ⟨front, back, hpairs, fun pair hpair => ?_⟩
    -- a pair of this name in front would be a second one of the name
    have hdistinct := keys.distinct
    rw [hpairs, List.map_append, List.map_cons, List.nodup_middle, List.nodup_cons] at hdistinct
    have hfront : pair.1 ∈ front.map Prod.fst := List.mem_map_of_mem hpair
    rw [bne_iff_ne]
    intro hname
    exact hdistinct.1 (List.mem_append_left _ (hname ▸ hfront))

/-- A name has no code if it is not written down. -/
theorem code?_eq_none_iff : keys.code? name = none ↔ name ∉ keys.names := by
  rw [code?, List.lookup_eq_none_iff, names, List.mem_map]
  constructor
  · rintro hnone ⟨pair, hpair, rfl⟩
    exact absurd rfl (bne_iff_ne.1 (hnone pair hpair))
  · intro hnot pair hpair
    rw [bne_iff_ne]
    rintro rfl
    exact hnot ⟨pair, hpair, rfl⟩

/-- Tables with the same pairs have the same codes. -/
theorem code?_eq_of_perm {first second : KeyTable} (h : first.pairs.Perm second.pairs) :
    first.code? = second.code? := by
  funext name
  apply Option.ext
  intro code
  rw [code?_eq_some_iff, code?_eq_some_iff, h.mem_iff]

/-! ## 2. The list of a table -/

/-- A key is listed in front of another one if its code is less or, with the same code, its
name has the lesser bytes. -/
def ListedBefore (a b : String × UInt8) : Prop :=
  a.2 < b.2 ∨ a.2 = b.2 ∧ bytes a.1 < bytes b.1

/-- What the order of the list depends on. -/
def rank (key : String × UInt8) : ℕ ×ₗ String :=
  toLex (key.2.toNat, key.1)

/-- No two keys have the same rank. -/
theorem rank_injective : Function.Injective rank := by
  intro a b h
  obtain ⟨hcode, hname⟩ := Prod.mk.inj (toLex.injective h)
  exact Prod.ext hname (UInt8.toNat_inj.1 hcode)

/-- The order of the list is that of the ranks, because bytes are in the order of texts. -/
theorem listedBefore_iff {a b : String × UInt8} : ListedBefore a b ↔ rank a < rank b := by
  rw [ListedBefore, rank, rank, Prod.Lex.toLex_lt_toLex, bytes_lt_iff, UInt8.lt_iff_toNat_lt,
    UInt8.toNat_inj]

/-- The comparison that keys are sorted by is that of the ranks. -/
theorem comesBefore_iff {a b : String × UInt8} : comesBefore a b = true ↔ rank a ≤ rank b := by
  rw [rank, rank, Prod.Lex.toLex_le_toLex, UInt8.toNat_inj, ← UInt8.lt_iff_toNat_lt, comesBefore,
    Bool.or_eq_true, Bool.and_eq_true, decide_eq_true_iff, beq_iff_eq, Bool.not_eq_true',
    decide_eq_false_iff_not, String.not_lt]

/-- The list of a table has its pairs and no others. -/
theorem perm_entries (keys : KeyTable) : keys.entries.Perm keys.pairs :=
  List.mergeSort_perm _ _

/-- Keys are listed strictly one in front of the other, since no two of them are the same. -/
theorem pairwise_entries (keys : KeyTable) : keys.entries.Pairwise ListedBefore := by
  have hsorted : keys.entries.Pairwise fun a b => comesBefore a b = true := by
    apply List.pairwise_mergeSort
    · intro a b c hab hbc
      exact comesBefore_iff.2 ((comesBefore_iff.1 hab).trans (comesBefore_iff.1 hbc))
    · intro a b
      rw [Bool.or_eq_true, comesBefore_iff, comesBefore_iff]
      exact le_total (rank a) (rank b)
  -- what is sorted may hold equals side by side, but the names of a table are distinct
  have hnodup : keys.entries.Nodup := keys.perm_entries.nodup_iff.2 (.of_map _ keys.distinct)
  refine (hsorted.and hnodup).imp ?_
  rintro a b ⟨hle, hne⟩
  exact listedBefore_iff.2 (lt_of_le_of_ne (comesBefore_iff.1 hle) (rank_injective.ne hne))

/-- Tables with the same pairs have the same list. -/
theorem entries_eq_of_perm {first second : KeyTable} (h : first.pairs.Perm second.pairs) :
    first.entries = second.entries := by
  -- strictly sorted lists of the same pairs are the same
  refine List.Perm.eq_of_pairwise ?_ first.pairwise_entries second.pairwise_entries
    (first.perm_entries.trans (h.trans second.perm_entries.symm))
  intro a b _ _ hab hba
  exact absurd (listedBefore_iff.1 hba) (lt_asymm (listedBefore_iff.1 hab))

end KeyTable

/-! ## 3. Layouts -/

namespace Layout

variable {layout : Layout} {token : String} {code : UInt8}

/-- The first spelling that makes a name of the table of the token makes one with this code,
whatever those behind it make. -/
def FirstHit (layout : Layout) (token : String) (code : UInt8) : Prop :=
  ∃ earlier spelling later, layout.spellings = earlier ++ spelling :: later ∧
    (spelling.name token, code) ∈ layout.keys.pairs ∧
    ∀ other ∈ earlier, other.name token ∉ layout.keys.names

/-- No spelling makes a name of the table of the token. -/
def Unknown (layout : Layout) (token : String) : Prop :=
  ∀ spelling ∈ layout.spellings, spelling.name token ∉ layout.keys.names

instance (token : String) : Decidable (layout.Unknown token) :=
  inferInstanceAs
    (Decidable (∀ spelling ∈ layout.spellings, spelling.name token ∉ layout.keys.names))

/-- A token has the code of the first spelling that makes a name of the table of it. -/
theorem code?_eq_some_iff : layout.code? token = some code ↔ layout.FirstHit token code := by
  simp only [code?, List.findSome?_eq_some_iff, KeyTable.code?_eq_some_iff,
    KeyTable.code?_eq_none_iff, FirstHit]

/-- A token has no code if no spelling does that. -/
theorem code?_eq_none_iff : layout.code? token = none ↔ layout.Unknown token := by
  simp only [code?, List.findSome?_eq_none_iff, KeyTable.code?_eq_none_iff, Unknown]

end Layout

end InputScript.Pad
