/-
Scripts in other words.

The compiler hears two things of a line: what it says and whether it is blank. A way of
rewriting lines that changes neither may be applied to all lines of a script at once, and
the script is compiled to the same timeline with the same diagnostics. There are three
such ways here. A carriage return at the end of a line may be dropped, the fields of a
line may be set with one space between each two, and a line may be upper-cased.
-/
import InputScript.Proofs.Compile.Run
import InputScript.Proofs.Script.Spacing

set_option autoImplicit false

namespace InputScript.Compile

open InputScript.Pad InputScript.Script InputScript.Text InputScript.Timeline

/-! ## 1. Lines in other words -/

/-- A way of rewriting lines that keeps what they say, and keeps blank lines apart from
those that are not. -/
structure Rewording (reword : List Char → List Char) : Prop where
  ofLine_eq : ∀ line, Statement.ofLine (reword line) = Statement.ofLine line
  isBlank_eq : ∀ line, isBlank (reword line) = isBlank line

namespace Rewording

/-- A carriage return is white space, so the line may do without it. -/
theorem dropReturn : Rewording dropReturn := by
  have hreturn : isWhiteSpace '\r' = true := by decide
  constructor
  · intro line
    rcases eq_dropReturn_or line with hsame | hshorter
    · rw [← hsame]
    · conv => rhs; rw [hshorter, ofLine_concat hreturn]
  · intro line
    rcases eq_dropReturn_or line with hsame | hshorter
    · rw [← hsame]
    · conv => rhs; rw [hshorter]
      simp [isBlank, hreturn]

/-- Fields keep their order and their characters when they are spaced evenly. -/
theorem spaced : Rewording spaced where
  ofLine_eq := ofLine_spaced
  isBlank_eq := isBlank_spaced

/-- Statements are read off the upper-cased line, so upper-casing it first adds nothing. -/
theorem upperChars : Rewording upperChars where
  ofLine_eq := fun line => by rw [Statement.ofLine, Statement.ofLine, upperChars_upperChars]
  isBlank_eq := isBlank_upperChars

variable {reword : List Char → List Char} (h : Rewording reword)
include h

/-- A step depends on the line only by what it says and whether it is blank. -/
theorem step (layout : Layout) (progress : Progress) (line : List Char) :
    progress.step layout (reword line) = progress.step layout line := by
  rw [Progress.step, Progress.step, h.ofLine_eq, h.isBlank_eq]

/-- All the lines may be reworded at once. -/
theorem steps (layout : Layout) (progress : Progress) (number : Nat) (text : List (List Char)) :
    progress.steps layout number (text.map reword) = progress.steps layout number text := by
  induction text generalizing progress number with
  | nil => rfl
  | cons line rest ih =>
    rw [List.map_cons, Progress.steps, Progress.steps, h.step]
    simp only [ih]

/-- The rewording keeps the number of lines, under which an open loop is remarked on. -/
theorem compileLines (layout : Layout) (text : List (List Char)) :
    compileLines layout (text.map reword) = compileLines layout text := by
  rw [Compile.compileLines, Compile.compileLines, h.steps, List.length_map]

end Rewording

/-- A text that is made of lines is compiled line by line, whatever the lines end with. -/
theorem compile_unlines (layout : Layout) {text : List (List Char)}
    (h : ∀ line ∈ text, '\n' ∉ line) :
    compile layout (.ofList (unlines text)) = compileLines layout text := by
  rw [compile, String.toList_ofList, lines_unlines h, Rewording.dropReturn.compileLines]

/-! ## 2. White space -/

/-- A script with its fields set evenly: the fields of each line with one space between
each two, and a line feed behind them. -/
def evenlySpaced (script : String) : String :=
  .ofList (unlines ((lines script.toList).map spaced))

/-- Even spacing changes nothing that the compiler hears of. -/
theorem compile_evenlySpaced (layout : Layout) (script : String) :
    compile layout (evenlySpaced script) = compile layout script := by
  have hnewline : ∀ line ∈ (lines script.toList).map spaced, '\n' ∉ line := by
    intro line hline
    -- a line feed is white space, and no field has any
    obtain ⟨original, -, rfl⟩ := List.mem_map.1 hline
    exact newline_notMem_spaced original
  rw [evenlySpaced, compile_unlines layout hnewline, Rewording.spaced.compileLines, compile]

/-- **White space does not matter.** A script with its fields set evenly is compiled to the
same timeline with the same diagnostics, because each line says the same. So no two
scripts with the same fields on their lines differ in what they are compiled to,
whatever white space stands between and around the fields and however the lines end. -/
theorem compile_fields (layout : Layout) (script : String) :
    compile layout (evenlySpaced script) = compile layout script ∧
      (∀ line : String, Statement.parse (.ofList (spaced line.toList)) = Statement.parse line) ∧
      ∀ other : String, (lines other.toList).map fields = (lines script.toList).map fields →
        compile layout other = compile layout script := by
  refine ⟨compile_evenlySpaced layout script, ?_, ?_⟩
  · intro line
    rw [Statement.parse, Statement.parse, String.toList_ofList, ofLine_spaced]
  · intro other hfields
    -- evenly spaced lines are made of their fields and of nothing else
    have hspaced : evenlySpaced other = evenlySpaced script := by
      have hlines := congrArg (List.map fun words => [' '].intercalate words) hfields
      rw [List.map_map, List.map_map] at hlines
      exact congrArg (fun text => String.ofList (unlines text)) hlines
    rw [← compile_evenlySpaced layout other, hspaced, compile_evenlySpaced]

/-- Indented lines with tabs, a no-break space and both kinds of line endings, and the same
lines without. -/
theorem compile_fields_indented :
    let layout := Layout.standard .builtIn
    let script := "2x\x7b\n0-1 A;B 300;0 0;-150\n\n\x7d end\n+1 ZZ\n"
    let other := "\t2x\x7b \r\n 0-1\u00a0A;B   300;0\t0;-150\r\n\u3000\r\n  \x7d  end\n+1 ZZ\r"
    (lines other.toList).map fields = (lines script.toList).map fields ∧
      compile layout other = compile layout script ∧
      (compile layout other).diagnostics = [⟨5, .unknownButton "ZZ"⟩] ∧
      (compile layout other).timeline.frames.map (fun entry => (entry.1, entry.2.buttons.codes)) =
        [(0, [1, 2]), (1, [1, 2]), (2, [1, 2]), (3, [1, 2]), (5, [])] := by
  intro layout script other
  have hfields : (lines other.toList).map fields = (lines script.toList).map fields := by
    decide +kernel
  obtain ⟨-, -, hsame⟩ := compile_fields layout script
  exact ⟨hfields, hsame other hfields, by decide +kernel, by decide +kernel⟩

/-! ## 3. Upper and lower case -/

/-- Upper-casing the text upper-cases its lines, because a line feed has no other case. -/
theorem compile_upperCase (layout : Layout) (script : String) :
    compile layout (upperCase script) = compile layout script := by
  rw [compile, compile, toList_upperCase, lines_upperChars, Rewording.upperChars.compileLines]

/-- **Case does not matter.** Scripts that are the same once they are upper-cased are
compiled to the same timeline with the same diagnostics, and so is the upper-cased
script itself. -/
theorem compile_of_upperCase_eq (layout : Layout) (first second : String)
    (h : upperCase first = upperCase second) :
    compile layout first = compile layout second ∧
      compile layout (upperCase first) = compile layout first := by
  refine ⟨?_, compile_upperCase layout first⟩
  rw [← compile_upperCase layout first, h, compile_upperCase]

/-- A letter that becomes two makes one of the scripts longer than the other. -/
theorem compile_of_upperCase_eq_sharp :
    let layout := Layout.standard (.insert .empty "KEY_GROSS" 7)
    let first := "2x\x7b\n0 groß;straße\r\n\x7d\nŉ"
    let second := "2X\x7b\n0 GROSS;STRASSE\r\n\x7d\nʼn"
    upperCase first = upperCase second ∧ first.toList.length < second.toList.length ∧
      compile layout first = compile layout second ∧
      (compile layout first).diagnostics = [⟨2, .unknownButton "STRASSE"⟩, ⟨4, .ignoredLine⟩] ∧
      (compile layout first).timeline.frames.map (fun entry => (entry.1, entry.2.buttons.codes)) =
        [(0, [7]), (1, [7])] := by
  intro layout first second
  have hupper : upperCase first = upperCase second := by decide +kernel
  exact ⟨hupper, by decide +kernel, (compile_of_upperCase_eq layout first second hupper).1,
    by decide +kernel, by decide +kernel⟩

end InputScript.Compile
