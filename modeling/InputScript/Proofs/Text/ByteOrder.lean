/-
Texts in the order of their bytes.

Texts are compared by their characters, and files and other programs compare them by the
bytes of UTF-8. The two orders are one and the same: of two different characters the one
with the greater number has the greater byte in the first place where their bytes differ,
and no character's bytes begin with those of another one. So whatever follows, the first
different character decides on both sides.
-/
import Mathlib.Tactic.SplitIfs

set_option autoImplicit false

namespace InputScript.Text

/-- The bytes of a text. -/
def bytes (text : String) : List UInt8 :=
  text.toUTF8.data.toList

/-- The bytes of a text are those of its characters. -/
theorem bytes_eq_flatMap (text : String) :
    bytes text = text.toList.flatMap String.utf8EncodeChar := by
  rw [bytes, String.toUTF8_eq_toByteArray, ← String.utf8Encode_toList, List.utf8Encode,
    List.toList_data_toByteArray]

/-! ## 1. Characters -/

/-- Bytes in front of others decide the order of texts if the first bytes differ, and else the
bytes behind them do. Numbers that are bytes are compared as numbers. -/
theorem ofNat_cons_lt_iff {m n : Nat} (hm : m < 256) (hn : n < 256) {first second : List UInt8} :
    UInt8.ofNat m :: first < UInt8.ofNat n :: second ↔ m < n ∨ m = n ∧ first < second := by
  have heq : UInt8.ofNat m = UInt8.ofNat n ↔ m = n := by
    rw [← UInt8.toNat_inj, UInt8.toNat_ofNat_of_lt' hm, UInt8.toNat_ofNat_of_lt' hn]
  rw [List.cons_lt_cons_iff, UInt8.ofNat_lt_iff_lt hm hn, heq]

/-- The bytes of a character come in front of those of a greater one, whatever follows. -/
theorem utf8EncodeChar_append_lt {c d : Char} (h : c < d) (first second : List UInt8) :
    String.utf8EncodeChar c ++ first < String.utf8EncodeChar d ++ second := by
  have hlt : c.val.toNat < d.val.toNat := UInt32.lt_iff_toNat_lt.1 h
  have hd : d.val.toNat < 1114112 := d.valid.elim (fun h => Nat.lt_trans h (by decide)) And.right
  -- each place but the first has 64 values, and omega is to see what is divided twice
  have hthird (n : Nat) : n / 4096 = n / 64 / 64 := by omega
  have hfourth (n : Nat) : n / 262144 = n / 64 / 64 / 64 := by omega
  unfold String.utf8EncodeChar
  simp only [hthird, hfourth]
  split_ifs <;>
    simp (disch := omega) only [List.cons_append, List.nil_append, ofNat_cons_lt_iff] <;> omega

/-! ## 2. Texts -/

/-- The first character that differs decides the order of the bytes. -/
theorem flatMap_utf8EncodeChar_lt {first second : List Char} (h : first < second) :
    first.flatMap String.utf8EncodeChar < second.flatMap String.utf8EncodeChar := by
  induction first generalizing second with
  | nil =>
    cases second with
    | nil => exact absurd h (List.not_lt_nil [])
    | cons d second =>
      -- the longer text is the greater one, as a character has one byte at least
      have hne : String.utf8EncodeChar d ≠ [] := String.utf8EncodeChar_ne_nil
      obtain ⟨byte, rest, hbytes⟩ := List.exists_cons_of_ne_nil hne
      rw [List.flatMap_nil, List.flatMap_cons, hbytes]
      exact List.nil_lt_cons byte _
  | cons c first ih =>
    cases second with
    | nil => exact absurd h (List.not_lt_nil _)
    | cons d second =>
      rw [List.flatMap_cons, List.flatMap_cons]
      rcases List.cons_lt_cons_iff.1 h with hlt | ⟨rfl, hrest⟩
      · exact utf8EncodeChar_append_lt hlt _ _
      · exact List.append_left_lt (ih hrest)

/-- A lesser text has lesser bytes. -/
theorem bytes_lt_of_lt {first second : String} (h : first < second) :
    bytes first < bytes second := by
  rw [bytes_eq_flatMap, bytes_eq_flatMap]
  exact flatMap_utf8EncodeChar_lt (String.lt_iff.1 h)

/-- The order of texts is that of their bytes. Both are linear, so one direction is enough. -/
theorem bytes_lt_iff {first second : String} : bytes first < bytes second ↔ first < second := by
  refine ⟨fun hbytes => ?_, bytes_lt_of_lt⟩
  by_cases heq : first = second
  · subst heq
    exact absurd hbytes (List.lt_irrefl _)
  · apply String.not_le.1
    intro hle
    have hlt : second < first := Std.lt_of_le_of_ne hle (Ne.symm heq)
    exact List.lt_asymm hbytes (bytes_lt_of_lt hlt)

end InputScript.Text
