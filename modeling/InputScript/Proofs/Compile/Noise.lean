/-
Lines that say nothing.

A line that says nothing may be put anywhere into a script, also inside an open loop,
and the timeline stays the same. It moves neither the cursor nor the loop, so the lines
behind it are compiled from the same state and under numbers that are one higher. All
that it can add is a remark about itself.
-/
import InputScript.Proofs.Compile.Account
import InputScript.Proofs.Compile.Wording

set_option autoImplicit false

namespace InputScript.Compile

open InputScript.Pad InputScript.Script InputScript.Text InputScript.Timeline

/-! ## 1. One line more -/

/-- What a line that says nothing is remarked on. -/
def noiseRemarks (noise : List Char) : List Remark :=
  if isBlank noise then [] else [.ignoredLine]

/-- Whether a diagnostic is about what comes behind `count` lines. The one about a loop
that is still open is about the end of the script, whatever line it names. -/
def Diagnostic.IsBehind (count : Nat) (diagnostic : Diagnostic) : Prop :=
  count < diagnostic.line ∨ diagnostic.remark = .unterminatedLoop

instance {count : Nat} {diagnostic : Diagnostic} : Decidable (diagnostic.IsBehind count) :=
  inferInstanceAs (Decidable (_ ∨ _))

namespace Progress

/-- Noise changes nothing, and is remarked on at most once. -/
theorem step_noise (layout : Layout) (progress : Progress) {noise : List Char}
    (hnoise : Statement.ofLine noise = .ignored) :
    progress.step layout noise = (progress, noiseRemarks noise) := by
  rw [step, hnoise]
  rfl

/-- The state that a script leads to is the same without the noise. -/
theorem run_noise (layout : Layout) (before after : List (List Char)) {noise : List Char}
    (hnoise : Statement.ofLine noise = .ignored) :
    start.run layout (before ++ noise :: after) = start.run layout (before ++ after) := by
  rw [run_append, run_cons, step_noise layout _ hnoise, run_append]

/-- The lines in front of the noise are compiled as before, and those behind it under the
next number. -/
theorem steps_noise (layout : Layout) (before after : List (List Char)) {noise : List Char}
    (hnoise : Statement.ofLine noise = .ignored) :
    (start.steps layout 1 (before ++ noise :: after)).2 =
      (start.steps layout 1 before).2 ++
        ((noiseRemarks noise).map (Diagnostic.mk (before.length + 1)) ++
          ((start.run layout before).steps layout (1 + before.length) after).2.map
            Diagnostic.next) := by
  rw [steps_snd_append, steps, step_noise layout _ hnoise]
  dsimp only
  rw [steps_snd_succ layout _ (1 + before.length), Nat.add_comm 1]

/-- The diagnostics of the lines in front are not about what comes behind them. -/
theorem not_isBehind_of_mem_steps {layout : Layout} {before : List (List Char)}
    {diagnostic : Diagnostic} (h : diagnostic ∈ (start.steps layout 1 before).2) :
    ¬diagnostic.IsBehind before.length := by
  rintro (hline | hremark)
  · have := line_of_mem_steps h
    omega
  · exact remark_of_mem_steps h hremark

end Progress

/-- A loop that is still open is remarked on under the new last line. -/
theorem atEnd_noise (layout : Layout) (before after : List (List Char)) {noise : List Char}
    (hnoise : Statement.ofLine noise = .ignored) :
    atEnd (before ++ noise :: after) = (atEnd (before ++ after)).map Diagnostic.next := by
  -- whether a loop is open at the end follows from the state that is reached
  have hopen : inLoop (before ++ noise :: after) = inLoop (before ++ after) := by
    rw [← Progress.isSome_openLoop_eq_inLoop layout, ← Progress.isSome_openLoop_eq_inLoop layout,
      Progress.run_noise layout before after hnoise]
  have hlength : (before ++ noise :: after).length = (before ++ after).length + 1 := by
    simp only [List.length_append, List.length_cons, Nat.add_assoc]
  rw [atEnd, atEnd, hopen, hlength]
  split <;> rfl

/-- The diagnostics about what comes behind some lines of a script. -/
def laterDiagnostics (layout : Layout) (before after : List (List Char)) : List Diagnostic :=
  ((Progress.start.run layout before).steps layout (1 + before.length) after).2 ++
    atEnd (before ++ after)

/-- The diagnostics of the lines behind are about nothing in front of them. -/
theorem isBehind_of_mem_later {layout : Layout} {before after : List (List Char)}
    {diagnostic : Diagnostic} (h : diagnostic ∈ laterDiagnostics layout before after) :
    diagnostic.IsBehind before.length := by
  rcases List.mem_append.1 h with hstep | hend
  · have := Progress.line_of_mem_steps hstep
    exact .inl (by omega)
  · obtain ⟨-, rfl⟩ := mem_atEnd.1 hend
    exact .inr rfl

/-- A script's diagnostics fall into two parts at any line. -/
theorem diagnostics_append (layout : Layout) (before after : List (List Char)) :
    (compileLines layout (before ++ after)).diagnostics =
      (Progress.start.steps layout 1 before).2 ++ laterDiagnostics layout before after := by
  rw [diagnostics_eq_append_atEnd, Progress.steps_snd_append, List.append_assoc]
  rfl

/-- The two parts of the diagnostics can be told apart. -/
theorem filter_isBehind (layout : Layout) (before after : List (List Char)) :
    let found := (compileLines layout (before ++ after)).diagnostics
    found.filter (fun diagnostic => ¬diagnostic.IsBehind before.length) =
        (Progress.start.steps layout 1 before).2 ∧
      found.filter (fun diagnostic => diagnostic.IsBehind before.length) =
        laterDiagnostics layout before after := by
  have hearlier : ∀ diagnostic ∈ (Progress.start.steps layout 1 before).2,
      ¬diagnostic.IsBehind before.length :=
    fun _ hmem => Progress.not_isBehind_of_mem_steps hmem
  have hlater : ∀ diagnostic ∈ laterDiagnostics layout before after,
      diagnostic.IsBehind before.length :=
    fun _ hmem => isBehind_of_mem_later hmem
  -- the one part has no diagnostic that is kept of the other
  dsimp only
  rw [diagnostics_append]
  constructor
  · rw [List.filter_append, List.filter_eq_self.2 (by simpa using hearlier),
      List.filter_eq_nil_iff.2 (by simpa using hlater), List.append_nil]
  · rw [List.filter_append, List.filter_eq_nil_iff.2 (by simpa using hearlier),
      List.filter_eq_self.2 (by simpa using hlater), List.nil_append]

/-- With the noise there is at most one diagnostic more, and the later ones move on by a line. -/
theorem diagnostics_noise (layout : Layout) (before after : List (List Char)) {noise : List Char}
    (hnoise : Statement.ofLine noise = .ignored) :
    (compileLines layout (before ++ noise :: after)).diagnostics =
      (Progress.start.steps layout 1 before).2 ++
        (noiseRemarks noise).map (Diagnostic.mk (before.length + 1)) ++
          (laterDiagnostics layout before after).map Diagnostic.next := by
  rw [diagnostics_eq_append_atEnd, Progress.steps_noise layout before after hnoise,
    laterDiagnostics, List.map_append, ← atEnd_noise layout before after hnoise]
  simp only [List.append_assoc]

/-! ## 2. Scripts with a line more -/

/-- **Noise is invisible.** A line that says nothing, put behind any number of lines of a
script, leaves the timeline as it is. The diagnostics about what comes behind it name the
next line, the one about an open loop the new last line, and between them and the ones in
front there is one about the line itself if it is not blank. -/
theorem compile_noise (layout : Layout) (before after : List (List Char)) (noise : List Char)
    (hlines : ∀ line ∈ before ++ noise :: after, '\n' ∉ line)
    (hnoise : Statement.ofLine noise = .ignored) :
    let script := compile layout (.ofList (unlines (before ++ after)))
    let noisy := compile layout (.ofList (unlines (before ++ noise :: after)))
    let earlier := script.diagnostics.filter fun diagnostic => ¬diagnostic.IsBehind before.length
    let later := script.diagnostics.filter fun diagnostic => diagnostic.IsBehind before.length
    noisy.timeline = script.timeline ∧
      script.diagnostics = earlier ++ later ∧
      noisy.diagnostics =
        earlier ++ (if isBlank noise then [] else [⟨before.length + 1, .ignoredLine⟩]) ++
          later.map Diagnostic.next ∧
      ∀ diagnostic ∈ noisy.diagnostics, diagnostic.remark = .unterminatedLoop →
        diagnostic.line = (before ++ noise :: after).length := by
  intro script noisy earlier later
  -- lines without line feeds are the lines of the text that they make
  have hscript : script = compileLines layout (before ++ after) := by
    apply compile_unlines
    intro line hline
    rcases List.mem_append.1 hline with hmem | hmem
    · exact hlines line (List.mem_append_left _ hmem)
    · exact hlines line (List.mem_append_right _ (List.mem_cons_of_mem _ hmem))
  have hnoisy : noisy = compileLines layout (before ++ noise :: after) :=
    compile_unlines layout hlines
  obtain ⟨hearlier, hlater⟩ : earlier = (Progress.start.steps layout 1 before).2 ∧
      later = laterDiagnostics layout before after := by
    have hparts := filter_isBehind layout before after
    rw [← hscript] at hparts
    exact hparts
  refine ⟨?_, ?_, ?_, ?_⟩
  · rw [hscript, hnoisy, Progress.timeline_compileLines, Progress.timeline_compileLines,
      Progress.run_noise layout before after hnoise]
  · rw [hearlier, hlater, hscript, diagnostics_append]
  · have hremarks : (noiseRemarks noise).map (Diagnostic.mk (before.length + 1)) =
        if isBlank noise then [] else [⟨before.length + 1, .ignoredLine⟩] := by
      rw [noiseRemarks]
      split <;> rfl
    rw [hnoisy, diagnostics_noise layout before after hnoise, hremarks, hearlier, hlater]
  · intro diagnostic hmem hremark
    rw [hnoisy, diagnostics_eq_append_atEnd] at hmem
    rcases List.mem_append.1 hmem with hstep | hend
    · exact absurd hremark (Progress.remark_of_mem_steps hstep)
    · obtain ⟨-, rfl⟩ := mem_atEnd.1 hend
      rfl

/-- Noise behind the first line of a loop, with a carriage return of its own, in a script
that ends inside another loop. -/
theorem compile_noise_in_loop :
    let layout := Layout.standard .builtIn
    let before := ["0 A;QQ", "2x\x7b"].map String.toList
    let after := ["+1 B;RR", "\x7d", "3x\x7b", "+0 A", ""].map String.toList
    let noise := "-- hold B\r".toList
    let script := compile layout (.ofList (unlines (before ++ after)))
    let noisy := compile layout (.ofList (unlines (before ++ noise :: after)))
    Statement.ofLine noise = .ignored ∧
      noisy.timeline = script.timeline ∧
      script.diagnostics =
        [⟨1, .unknownButton "QQ"⟩, ⟨3, .unknownButton "RR"⟩, ⟨7, .unterminatedLoop⟩] ∧
      noisy.diagnostics =
        [⟨1, .unknownButton "QQ"⟩, ⟨3, .ignoredLine⟩, ⟨4, .unknownButton "RR"⟩,
          ⟨8, .unterminatedLoop⟩] := by
  intro layout before after noise script noisy
  have hignored : Statement.ofLine noise = .ignored := by decide +kernel
  have hscript : script.diagnostics =
      [⟨1, .unknownButton "QQ"⟩, ⟨3, .unknownButton "RR"⟩, ⟨7, .unterminatedLoop⟩] := by
    decide +kernel
  obtain ⟨htimeline, -, hnoisy, -⟩ :=
    compile_noise layout before after noise (by decide +kernel) hignored
  refine ⟨hignored, htimeline, hscript, ?_⟩
  rw [show noisy.diagnostics = _ from hnoisy, hscript]
  decide +kernel

end InputScript.Compile
