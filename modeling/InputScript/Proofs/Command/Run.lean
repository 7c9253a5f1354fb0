/-
What a run of the command leaves behind.

A run loads everything before it writes anything, and it writes the frame table before the
header. So a project that cannot be loaded leaves the disk as it was, and a header that
breaks off takes nothing from the frame table. The exit code says which of these it was; a
script can only decide it by the buttons of its frames.
-/
import InputScript.Command.Run
import InputScript.Proofs.Disk.Tree
import InputScript.Proofs.Project.DeclaredKeys
import InputScript.Proofs.Project.KeyFile

set_option autoImplicit false

namespace InputScript.Disk

/-! ## 1. Operations on a tree -/

/-- An operation goes on with what the one in front of it gives. -/
theorem run_bind {α β : Type} {first : StateM FileTree α} {next : α → StateM FileTree β}
    {tree after : FileTree} {a : α} (h : first tree = (a, after)) :
    (first >>= next) tree = next a after := by
  change next (first tree).1 (first tree).2 = next a after
  rw [h]

/-- A path leads to a file with this text. -/
def FileTree.HasText (tree : FileTree) (path text : String) : Prop :=
  ∃ bytes, tree.readFile path = .ok bytes ∧ String.fromUTF8? bytes = some text

/-- Reading a text leaves the tree as it is, and succeeds on a file that has one. -/
theorem readText_treeDisk (tree : FileTree) (path : String) :
    ∃ result, treeDisk.readText path tree = (result, tree) ∧
      ∀ text, result = .ok text ↔ tree.HasText path text := by
  have hread : treeDisk.readFile path tree = (tree.readFile path, tree) := rfl
  rw [Access.readText, run_bind hread]
  unfold FileTree.HasText
  cases tree.readFile path with
  | error e => exact ⟨_, rfl, fun text => by simp⟩
  | ok bytes =>
    cases hbytes : String.fromUTF8? bytes with
    | none => exact ⟨.error .notText, by simp only [hbytes]; rfl, fun text => by simp [hbytes]⟩
    | some found => exact ⟨.ok found, by simp only [hbytes]; rfl, fun text => by simp [hbytes]⟩

/-- A file that holds the bytes of a text has that text. -/
theorem FileTree.hasText_of_readFile {tree : FileTree} {path text : String}
    (h : tree.readFile path = .ok text.toUTF8) : tree.HasText path text :=
  ⟨text.toUTF8, h, dif_pos text.isValidUTF8⟩

end InputScript.Disk

namespace InputScript.Command

open InputScript.Artifact InputScript.Compile InputScript.Disk InputScript.Log InputScript.Project

/-! ## 2. Loading -/

/-- The project that the options describe on a disk: the script has a text, so has the key
file if there is one, with a key table in it, and there is a name. -/
structure Loads (tree : FileTree) (options : Options) (project : Project) : Prop where
  script : tree.HasText options.input project.script
  keys : Option.Rel
    (fun path table => ∃ text, tree.HasText path text ∧ (readKeys text).result = .ok table)
    options.keys project.keys
  name : options.name.or ((fileName? options.input).map stem) = some project.name

/-- The three conditions in one statement, to be rewritten one by one. -/
theorem loads_iff {tree : FileTree} {options : Options} {project : Project} :
    Loads tree options project ↔ tree.HasText options.input project.script ∧
      Option.Rel (fun path table => ∃ text, tree.HasText path text ∧
        (readKeys text).result = .ok table) options.keys project.keys ∧
      options.name.or ((fileName? options.input).map stem) = some project.name :=
  ⟨fun h => ⟨h.script, h.keys, h.name⟩, fun h => ⟨h.1, h.2.1, h.2.2⟩⟩

/-- The name decides whether there is a project once its texts are read. -/
theorem map_nameFor_eq_ok_iff {script text : String} {name : Option String}
    {keys : Option Pad.KeyTable} {project : Project} :
    (nameFor script name).map (fun found => (⟨found, text, keys⟩ : Project)) = .ok project ↔
      text = project.script ∧ keys = project.keys ∧
        name.or ((fileName? script).map stem) = some project.name := by
  obtain ⟨found, projectScript, projectKeys⟩ := project
  rw [nameFor]
  cases name.or ((fileName? script).map stem) with
  | none => simp [Except.map]
  | some other => simp [Except.map, and_left_comm, and_comm]

/-- Loading a key file changes nothing, and gives the table that its text holds. -/
theorem loadKeys_treeDisk (tree : FileTree) (path : String) :
    ∃ records result, loadKeys treeDisk path tree = ((records, result), tree) ∧
      ∀ table, result = .ok table ↔
        ∃ text, tree.HasText path text ∧ (readKeys text).result = .ok table := by
  obtain ⟨result, hread, htext⟩ := readText_treeDisk tree path
  rw [loadKeys, run_bind hread]
  cases result with
  | error e =>
    refine ⟨_, _, rfl, fun table => iff_of_false (by simp) ?_⟩
    rintro ⟨text, hfound, -⟩
    cases (htext text).2 hfound
  | ok text =>
    refine ⟨_, _, rfl, fun table => ?_⟩
    -- the file has one text, the one that was read
    have hunique : ∀ other, tree.HasText path other ↔ text = other := fun other => by
      rw [← htext other, Except.ok.injEq]
    simp only [hunique, exists_eq_left']
    cases (readKeys text).result <;> simp [Except.mapError]

/-- Loading gives the project that the options describe, and changes nothing. -/
theorem load_treeDisk (tree : FileTree) (options : Options) :
    ∃ loading, load treeDisk options.input options.keys options.name tree = (loading, tree) ∧
      ∀ project, loading.result = .ok project ↔ Loads tree options project := by
  obtain ⟨result, hread, htext⟩ := readText_treeDisk tree options.input
  rw [load, run_bind hread]
  cases result with
  | error e =>
    refine ⟨_, rfl, fun project => iff_of_false (by simp) fun h => ?_⟩
    cases (htext project.script).2 h.script
  | ok text =>
    -- the script has one text, so nothing else can be the project's
    have hscript : ∀ other, tree.HasText options.input other ↔ text = other := fun other => by
      rw [← htext other, Except.ok.injEq]
    cases hkeys : options.keys with
    | none =>
      refine ⟨_, rfl, fun project => map_nameFor_eq_ok_iff.trans ?_⟩
      rw [loads_iff, hscript, hkeys]
      refine and_congr_right' (and_congr_left' ?_)
      cases project.keys with
      | none => exact iff_of_true rfl .none
      | some table => exact iff_of_false (by rintro ⟨⟩) (by rintro ⟨⟩)
    | some path =>
      obtain ⟨records, result, hload, htable⟩ := loadKeys_treeDisk tree path
      dsimp only
      rw [run_bind hload]
      refine ⟨_, rfl, fun project => ?_⟩
      rw [loads_iff, hscript, hkeys]
      cases result with
      -- a key file without a table, so no project has its keys
      | error e =>
        refine iff_of_false (by rintro ⟨⟩) ?_
        rintro ⟨-, hfile, -⟩
        generalize project.keys = keys at hfile
        cases hfile with
        | some hfile => cases (htable _).2 hfile
      | ok table =>
        refine map_nameFor_eq_ok_iff.trans (and_congr_right' (and_congr_left' ?_))
        cases project.keys with
        | none => exact iff_of_false (by rintro ⟨⟩) (by rintro ⟨⟩)
        | some other =>
          rw [Option.rel_some_some, ← htable other, Except.ok.injEq, Option.some_inj]

/-! ## 3. Writing -/

/-- The path of an artifact. -/
def artifactPath (options : Options) (project : Project) (ending : String) : String :=
  join options.output (project.name ++ ending)

/-- A path that leads somewhere is written there. -/
theorem writeFile_treeDisk_of_places {tree : FileTree} {path : String} {target : Location}
    (h : tree.Places path target) (bytes : ByteArray) :
    treeDisk.writeFile path bytes tree = (.ok (), tree.putFile target bytes) := by
  change settle tree (tree.writeFile path bytes) = _
  rw [FileTree.writeFile_eq_ok_iff.2 ⟨target, h, rfl⟩]
  rfl

/-- A path that leads nowhere is not written, and the tree stays as it is. -/
theorem writeFile_treeDisk_of_not_places {tree : FileTree} {path : String}
    (h : ∀ target, ¬tree.Places path target) (bytes : ByteArray) :
    ∃ e, treeDisk.writeFile path bytes tree = (.error e, tree) := by
  change ∃ e, settle tree (tree.writeFile path bytes) = _
  cases hwrite : tree.writeFile path bytes with
  | error e => exact ⟨e, rfl⟩
  | ok after =>
    obtain ⟨target, hplaces, -⟩ := FileTree.writeFile_eq_ok_iff.1 hwrite
    exact absurd hplaces (h target)

/-- Once the frame table is written it stays, and the header is written behind it if its
path puts it somewhere. -/
theorem writeArtifacts_cases {tree made written : FileTree} {options : Options} {project : Project}
    (hmade : treeDisk.makeDirectories options.output tree = (.ok (), made)) {target : Location}
    (htarget : made.Places (artifactPath options project "_frames.json") target)
    (hwritten : written = made.putFile target project.process.json.toUTF8) :
    (∃ header, written.Places (artifactPath options project "_frames.h") header ∧
      writeArtifacts treeDisk project.process options.output tree =
        (project.process.header.failure.map fun failure => ["Writing C header", failure.message],
          written.putFile header project.process.header.text.toUTF8)) ∨
    (∀ header, ¬written.Places (artifactPath options project "_frames.h") header) ∧
      ∃ causes, writeArtifacts treeDisk project.process options.output tree =
        (some causes, written) := by
  have hname : project.process.name = project.name := rfl
  have hjson := writeFile_treeDisk_of_places htarget project.process.json.toUTF8
  rw [← hwritten, artifactPath] at hjson
  rw [writeArtifacts, run_bind hmade]
  dsimp only
  rw [hname, run_bind hjson]
  dsimp only
  -- the header's path is looked up on the disk that has the frame table already
  by_cases hheader : ∃ header, written.Places (artifactPath options project "_frames.h") header
  · obtain ⟨header, hplaces⟩ := hheader
    have hwrite := writeFile_treeDisk_of_places hplaces project.process.header.text.toUTF8
    rw [artifactPath] at hwrite
    refine .inl ⟨header, hplaces, ?_⟩
    rw [run_bind hwrite]
    cases project.process.header.failure <;> rfl
  · rw [not_exists] at hheader
    obtain ⟨e, hwrite⟩ := writeFile_treeDisk_of_not_places hheader project.process.header.text.toUTF8
    rw [artifactPath] at hwrite
    refine .inr ⟨hheader, ["Writing C header", e.message], ?_⟩
    rw [run_bind hwrite]
    rfl

/-- The ending is put behind the name, so two artifacts differ in it only. -/
theorem artifactPath_eq {options : Options} {project : Project} {ending : String}
    (h : isAbsolute ending = false) :
    artifactPath options project ending = join options.output project.name ++ ending :=
  join_append h

/-- What stands on the disk when the artifacts are written. -/
theorem artifacts_of_writeArtifacts {tree made after : FileTree} {options : Options}
    {project : Project} {failed : Option (List String)}
    (hmade : treeDisk.makeDirectories options.output tree = (.ok (), made))
    (hwrite : writeArtifacts treeDisk project.process options.output tree = (failed, after))
    (hjson : ∃ written, made.writeFile (artifactPath options project "_frames.json")
      project.process.json.toUTF8 = .ok written) :
    after.readFile (artifactPath options project "_frames.json") =
        .ok project.process.json.toUTF8 ∧
      ((∃ written, made.writeFile (artifactPath options project "_frames.h")
        project.process.header.text.toUTF8 = .ok written) →
        after.readFile (artifactPath options project "_frames.h") =
            .ok project.process.header.text.toUTF8 ∧
          (∀ location, after.contents? location = tree.contents? location ∨
            after.find (artifactPath options project "_frames.json") = .ok (.file location) ∨
            after.find (artifactPath options project "_frames.h") = .ok (.file location)) ∧
          (failed = none ↔ project.process.header.failure = none)) := by
  obtain ⟨_, hjson⟩ := hjson
  obtain ⟨target, htarget, -⟩ := FileTree.writeFile_eq_ok_iff.1 hjson
  have hfound : (made.putFile target project.process.json.toUTF8).find _ = .ok (.file target) :=
    htarget.find_putFile
  have hread : (made.putFile target project.process.json.toUTF8).readFile _ = _ :=
    htarget.readFile_putFile
  -- making directories touches no file
  have hkept : ∀ location, made.contents? location = tree.contents? location := by
    have hfiles := keepsFiles_makeDirectories options.output tree
    rw [hmade] at hfiles
    intro location
    rw [FileTree.contents?, FileTree.contents?, hfiles]
  rcases writeArtifacts_cases hmade htarget rfl with ⟨header, hheader, heq⟩ | ⟨hnone, causes, heq⟩
  · rw [hwrite] at heq
    obtain ⟨rfl, rfl⟩ := Prod.mk.inj heq
    -- the paths only differ behind the last slash, so their files are different
    have hne : target ≠ header := by
      rw [artifactPath_eq (by rfl)] at htarget hheader
      exact htarget.target_ne hheader (by decide) (by decide)
    refine ⟨(FileTree.readFile_putFile_of_ne hfound hne).trans hread, fun _ =>
      ⟨hheader.readFile_putFile, fun location => ?_, by simp⟩⟩
    -- one of the two files, or a place that neither write touches
    by_cases hlast : location = header
    · rw [hlast]
      exact .inr (.inr hheader.find_putFile)
    · by_cases hfirst : location = target
      · rw [hfirst]
        exact .inr (.inl (FileTree.find_putFile hfound))
      · refine .inl ?_
        rw [FileTree.contents?_putFile, if_neg hlast, FileTree.contents?_putFile, if_neg hfirst,
          hkept]
  · rw [hwrite] at heq
    obtain ⟨-, rfl⟩ := Prod.mk.inj heq
    refine ⟨hread, ?_⟩
    -- the header's path leads nowhere on the tree that has the frame table, nor did it before
    rintro ⟨_, hheader⟩
    obtain ⟨header, hplaces, -⟩ := FileTree.writeFile_eq_ok_iff.1 hheader
    exact absurd (hplaces.putFile target) (hnone header)

/-! ## 4. Runs -/

/-- The options describe at most one project. -/
theorem Loads.unique {tree : FileTree} {options : Options} {project other : Project}
    (h : Loads tree options project) (hother : Loads tree options other) : project = other := by
  -- loading has one result, and both projects are it
  obtain ⟨loading, -, hresult⟩ := load_treeDisk tree options
  exact Except.ok.inj (((hresult project).2 h).symm.trans ((hresult other).2 hother))

/-- A project that is loaded is processed and written. -/
theorem compileProject_of_loads {tree after : FileTree} {options : Options} {project : Project}
    (h : Loads tree options project) {failed : Option (List String)}
    (hwrite : writeArtifacts treeDisk project.process options.output tree = (failed, after)) :
    ∃ records, compileProject treeDisk options tree = ((records, failed), after) := by
  obtain ⟨loading, hload, hresult⟩ := load_treeDisk tree options
  rw [compileProject, run_bind hload]
  simp only [(hresult project).2 h]
  rw [run_bind hwrite]
  exact ⟨_, rfl⟩

/-- Without a project the run fails before anything is written. -/
theorem compileProject_of_not_loads {tree : FileTree} {options : Options}
    (h : ∀ project, ¬Loads tree options project) :
    ∃ records causes, compileProject treeDisk options tree = ((records, some causes), tree) := by
  obtain ⟨loading, hload, hresult⟩ := load_treeDisk tree options
  rw [compileProject, run_bind hload]
  cases hloading : loading.result with
  | error e =>
    exact ⟨_, _, rfl⟩
  | ok project => exact absurd ((hresult project).1 hloading) (h project)

/-- The exit code of a run says whether a step failed. -/
theorem run_of_compileProject {tree after : FileTree} {arguments : List String} {options : Options}
    (h : Invocation.parse arguments = .ok (.compile options)) (inherited : Option String)
    {records : List Record} {failed : Option (List String)}
    (hcompile : compileProject treeDisk options tree = ((records, failed), after)) :
    ∃ outcome, run treeDisk inherited arguments tree = (outcome, after) ∧
      outcome.exitCode = if failed = none then 0 else 1 := by
  rw [run, h]
  dsimp only
  rw [run_bind hcompile]
  cases failed <;> exact ⟨_, rfl, rfl⟩

/-- **What a run leaves behind.** If the options describe no project, the exit code is 1 and
the disk is as it was. Otherwise the frame table is written completely, whatever happens to
the header. The header is written as far as it goes, nothing else is changed, and the exit
code is 0 for a complete header and 1 for one that breaks off, which it does exactly if a
frame uses a code of 32 or more. So a script without a frame of that kind does not make the
run fail, whatever else is in it, and with codes below 32 no script does. -/
theorem run_outcome {arguments : List String} {options : Options}
    (h : Invocation.parse arguments = .ok (.compile options)) (inherited : Option String)
    (tree : FileTree) :
    ∃ outcome after, run treeDisk inherited arguments tree = (outcome, after) ∧
      ((∀ project, ¬Loads tree options project) → outcome.exitCode = 1 ∧ after = tree) ∧
      ∀ project made, Loads tree options project →
        treeDisk.makeDirectories options.output tree = (.ok (), made) →
        (∃ written, made.writeFile (artifactPath options project "_frames.json")
          project.process.json.toUTF8 = .ok written) →
        after.readFile (artifactPath options project "_frames.json") =
            .ok project.process.json.toUTF8 ∧
          ((∃ written, made.writeFile (artifactPath options project "_frames.h")
            project.process.header.text.toUTF8 = .ok written) →
            after.readFile (artifactPath options project "_frames.h") =
                .ok project.process.header.text.toUTF8 ∧
              (∀ location, after.contents? location = tree.contents? location ∨
                after.find (artifactPath options project "_frames.json") = .ok (.file location) ∨
                after.find (artifactPath options project "_frames.h") = .ok (.file location)) ∧
              (outcome.exitCode = if project.process.header.failure = none then 0 else 1) ∧
              (project.process.header.failure = none ↔
                ∀ frame state, project.process.compiled.timeline.stateAt frame = some state →
                  ∀ code ∈ state.buttons.codes, code < 32) ∧
              ((∀ key ∈ project.process.keys, key.2 < 32) → outcome.exitCode = 0)) := by
  by_cases hload : ∃ project, Loads tree options project
  · -- whatever can be written is written, so only what is read back depends on the tree
    obtain ⟨project, hproject⟩ := hload
    cases hwrite : writeArtifacts treeDisk project.process options.output tree with
    | mk failed after =>
      obtain ⟨records, hcompile⟩ := compileProject_of_loads hproject hwrite
      obtain ⟨outcome, hrun, hcode⟩ := run_of_compileProject h inherited hcompile
      refine ⟨outcome, after, hrun, fun hnone => absurd hproject (hnone project), ?_⟩
      intro other made hother hmade hjson
      obtain rfl := hproject.unique hother
      obtain ⟨htable, hheader⟩ := artifacts_of_writeArtifacts hmade hwrite hjson
      refine ⟨htable, fun hpath => ?_⟩
      obtain ⟨hread, hothers, hfailed⟩ := hheader hpath
      simp only [hfailed] at hcode
      refine ⟨hread, hothers, hcode, failure_header_eq_none_iff project.process, fun hkeys => ?_⟩
      -- every code on a frame is the code of a key
      have hcomplete : project.process.header.failure = none := by
        rw [failure_header_eq_none_iff]
        intro frame state hstate code hheld
        obtain ⟨name, hkey⟩ := exists_key_of_stateAt hstate hheld
        exact hkeys (name, code) hkey
      rw [hcode, if_pos hcomplete]
  · rw [not_exists] at hload
    obtain ⟨records, causes, hcompile⟩ := compileProject_of_not_loads hload
    obtain ⟨outcome, hrun, hcode⟩ := run_of_compileProject h inherited hcompile
    exact ⟨outcome, tree, hrun, fun _ => ⟨hcode, rfl⟩, fun project _ hloads =>
      absurd hloads (hload project)⟩

/-- A key whose code has no bit in the mask, held in a frame, and a line that says nothing. -/
theorem run_outcome_of_wide_code :
    let project : Project :=
      { name := "run", script := "0 wide\n?", keys := some ⟨[("WIDE", 40)], by decide⟩ }
    let tree : FileTree :=
      { workingDirectory := ["work"]
        directories := []
        files := [(["work", "run.txt"], "0 wide\n?".toUTF8),
          (["work", "keys.json"], "\x7b\"wide\": 40\x7d".toUTF8)] }
    ∃ outcome after,
      run treeDisk none ["run.txt", "out", "--keys", "keys.json"] tree = (outcome, after) ∧
        outcome.exitCode = 1 ∧
        after.readFile "out/run_frames.json" = .ok project.process.json.toUTF8 ∧
        after.readFile "out/run_frames.h" = .ok project.process.header.text.toUTF8 := by
  intro project tree
  let options : Options := ⟨"run.txt", "out", some "keys.json", none, none, none⟩
  have hparse : Invocation.parse ["run.txt", "out", "--keys", "keys.json"] =
      .ok (.compile options) := rfl
  have hkeys : (readKeys "\x7b\"wide\": 40\x7d").result = .ok ⟨[("WIDE", 40)], by decide⟩ :=
    result_readKeys_of_toOption (by decide +kernel)
  -- what the tree holds, and where it lets the artifacts be put
  have hscript : tree.readFile "run.txt" = .ok "0 wide\n?".toUTF8 := rfl
  have hfile : tree.readFile "keys.json" = .ok "\x7b\"wide\": 40\x7d".toUTF8 := rfl
  have hname : Option.or none ((fileName? "run.txt").map stem) = some "run" := rfl
  have hloads : Loads tree options project :=
    ⟨FileTree.hasText_of_readFile hscript,
      .some ⟨_, FileTree.hasText_of_readFile hfile, hkeys⟩, hname⟩
  have hmade : treeDisk.makeDirectories "out" tree =
      (.ok (), tree.putDirectory ["work", "out"]) := rfl
  have hjsonPath : join "out" ("run" ++ "_frames.json") = "out/run_frames.json" := rfl
  have hheaderPath : join "out" ("run" ++ "_frames.h") = "out/run_frames.h" := rfl
  have hjsonPlace : ∀ bytes, ∃ written,
      (tree.putDirectory ["work", "out"]).writeFile "out/run_frames.json" bytes = .ok written :=
    fun bytes => ⟨_, rfl⟩
  have hheaderPlace : ∀ bytes, ∃ written,
      (tree.putDirectory ["work", "out"]).writeFile "out/run_frames.h" bytes = .ok written :=
    fun bytes => ⟨_, rfl⟩
  have hbreaks : project.process.header.failure ≠ none := by decide +kernel
  obtain ⟨outcome, after, hrun, -, hleaves⟩ := run_outcome hparse none tree
  have hwritten := hleaves project _ hloads hmade
  simp only [artifactPath, options, project, hjsonPath, hheaderPath] at hwritten
  obtain ⟨hjson, hheader⟩ := hwritten (hjsonPlace _)
  obtain ⟨hread, -, hcode, -, -⟩ := hheader (hheaderPlace _)
  exact ⟨outcome, after, hrun, hcode.trans (if_neg hbreaks), hjson, hread⟩

end InputScript.Command
