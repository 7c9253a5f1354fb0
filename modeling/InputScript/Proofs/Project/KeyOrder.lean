/-
Artifacts do not show how a key table is written down.

Two tables with the same pairs have the same codes and the same list, and there is nothing
else that a project takes from its table: the compiler looks codes up, and the header
declares the list. So the whole of what comes out is the same, for every script.
-/
import InputScript.Project.Process
import InputScript.Proofs.Pad.Keys

set_option autoImplicit false

namespace InputScript.Compile

open InputScript.Pad InputScript.Script InputScript.Text

/-! ## 1. Layouts with the same codes -/

variable {first second : Layout}

/-- A step takes only codes and sticks from a layout. -/
theorem Progress.step_congr (h : first.code? = second.code?) (hpolar : first.polar = second.polar)
    (progress : Progress) (line : List Char) :
    progress.step first line = progress.step second line := by
  have hresolve : ∀ (written : Instruction) (base : UInt64),
      written.resolve base first = written.resolve base second := by
    intro written base
    rw [Instruction.resolve, Instruction.resolve, h, hpolar]
  simp only [Progress.step, hresolve]

/-- So do all the steps of a script. -/
theorem Progress.steps_congr (h : first.code? = second.code?) (hpolar : first.polar = second.polar)
    (progress : Progress) (number : Nat) (lines : List (List Char)) :
    progress.steps first number lines = progress.steps second number lines := by
  induction lines generalizing progress number with
  | nil => rfl
  | cons line rest ih => simp only [Progress.steps, Progress.step_congr h hpolar, ih]

/-- A script is compiled from the codes of its tokens and the polar form of its sticks, and
from nothing else of a layout. -/
theorem compile_congr (h : first.code? = second.code?) (hpolar : first.polar = second.polar)
    (script : String) :
    compile first script = compile second script := by
  rw [compile, compile, compileLines, compileLines, Progress.steps_congr h hpolar]

end InputScript.Compile

namespace InputScript.Project

open InputScript.Compile InputScript.Pad

/-! ## 2. Projects -/

/-- In the standard layout tables with the same pairs give the same codes to tokens. -/
theorem code?_standard_of_perm {first second : KeyTable} (h : first.pairs.Perm second.pairs) :
    (Layout.standard first).code? = (Layout.standard second).code? := by
  funext token
  simp only [Layout.code?, Layout.standard, KeyTable.code?_eq_of_perm h]

/-- Whole projects are processed alike. -/
theorem process_of_perm {first second : KeyTable} (h : first.pairs.Perm second.pairs)
    (name script : String) :
    process ⟨name, script, some first⟩ = process ⟨name, script, some second⟩ := by
  have hcompiled := compile_congr (code?_standard_of_perm h) rfl script
  simp only [process, keyTable, Option.getD_some, hcompiled, KeyTable.entries_eq_of_perm h]

/-- **Listings do not show how a table is written down.** Whatever the order of its pairs is, a
key table has one list: each pair stands in it once and no other, and each stands strictly in
front of the next, by code and for one code by the bytes of the name. So for every name and
every script the header of the project is the same, its text as well as the code that it
breaks off at if it does. -/
theorem listing_of_perm {first second : KeyTable} (h : first.pairs.Perm second.pairs) :
    first.entries = second.entries ∧
    (∀ key, first.entries.count key = if key ∈ first.pairs then 1 else 0) ∧
    first.entries.Pairwise KeyTable.ListedBefore ∧
    ∀ name script,
      (process ⟨name, script, some first⟩).header =
        (process ⟨name, script, some second⟩).header := by
  refine ⟨KeyTable.entries_eq_of_perm h, fun key => ?_, first.pairwise_entries,
    fun name script => by rw [process_of_perm h]⟩
  rw [first.perm_entries.count_eq, (List.Nodup.of_map _ first.distinct).count]

/-- Names of one code whose order would be the other way round in units of sixteen bits, in a
script that uses a code without a bit. -/
theorem listing_of_perm_beyond_sixteen_bits :
    let first : KeyTable := ⟨[("𝄞", 40), ("ﬀ", 40), ("B", 0)], by decide⟩
    let second : KeyTable := ⟨[("B", 0), ("ﬀ", 40), ("𝄞", 40)], by decide⟩
    first.pairs.Perm second.pairs ∧ first.entries = second.pairs ∧
      ∀ name, (process ⟨name, "0 b\n1 𝄞", some first⟩).header =
        (process ⟨name, "0 b\n1 𝄞", some second⟩).header := by
  intro first second
  have hperm : first.pairs.Perm second.pairs := by decide
  obtain ⟨hentries, -, -, hheader⟩ := listing_of_perm hperm
  have hsorted : second.pairs.Pairwise fun a b => KeyTable.comesBefore a b = true := by decide
  exact ⟨hperm, hentries.trans (List.mergeSort_of_pairwise hsorted), fun name => hheader name _⟩

end InputScript.Project
