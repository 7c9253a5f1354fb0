/-
What writing a file does to a tree.

A file that was written is found by its path and has the contents it was given. Everything
that a path led to before is where it was, since a file only takes a place that is no
directory; so a second file, with another last name, leaves the first one alone.
Directories that are created leave all files alone.
-/
import InputScript.Disk.Tree
import InputScript.Pad.Keys
import Mathlib.Data.List.Basic

set_option autoImplicit false

namespace InputScript.Text

/-! ## 1. Last pieces -/

/-- What is put behind a text without a separator lengthens the last of its pieces. -/
theorem pieces_append {separator : Char} {back : List Char} (h : separator ∉ back)
    (front : List Char) : ∃ init last, pieces separator front = init ++ [last] ∧
      pieces separator (front ++ back) = init ++ [last ++ back] := by
  induction front with
  | nil => exact ⟨[], [], rfl, pieces_of_notMem h⟩
  | cons c rest ih =>
    obtain ⟨init, last, hfront, hboth⟩ := ih
    rw [List.cons_append, pieces, pieces, hfront, hboth]
    -- a separator starts a new piece, any other character joins the first one
    by_cases hc : c = separator
    · exact ⟨[] :: init, last, by simp [hc], by simp [hc]⟩
    · cases init with
      | nil => exact ⟨[], c :: last, by simp [hc], by simp [hc]⟩
      | cons first more => exact ⟨(c :: first) :: more, last, by simp [hc], by simp [hc]⟩

end InputScript.Text

namespace InputScript.Disk

open InputScript.Text

/-- What is put behind a path without a slash lengthens the last of its pieces. -/
theorem pathPieces_append {ending : String} (h : '/' ∉ ending.toList) (path : String) :
    ∃ init last, pathPieces path = init ++ [last] ∧
      pathPieces (path ++ ending) = init ++ [last ++ ending] := by
  obtain ⟨init, last, hpath, hboth⟩ := pieces_append h path.toList
  refine ⟨init.map String.ofList, String.ofList last, ?_, ?_⟩
  · simp [pathPieces, hpath]
  · simp [pathPieces, hboth, String.ofList_append]

/-- An ending of a path is an ending of the path inside a directory. -/
theorem join_append {directory path ending : String} (h : isAbsolute ending = false) :
    join directory (path ++ ending) = join directory path ++ ending := by
  have habsolute : isAbsolute (path ++ ending) = isAbsolute path := by
    unfold isAbsolute at h ⊢
    rw [String.toList_append]
    cases hpath : path.toList with
    | nil => exact h
    | cons c rest => rfl
  unfold join
  rw [habsolute]
  split
  · rfl
  · split
    · rw [String.append_assoc]
    · rw [String.append_assoc, String.append_assoc, String.append_assoc]

namespace FileTree

variable {tree : FileTree} {target location : Location} {bytes : ByteArray}

/-! ## 2. Paths in a tree with one more file -/

/-- A file that is put on the disk has its contents, and all other files keep theirs. -/
theorem contents?_putFile (tree : FileTree) (target location : Location) (bytes : ByteArray) :
    (tree.putFile target bytes).contents? location =
      if location = target then some bytes else tree.contents? location := by
  rw [contents?, putFile, List.lookup_cons]
  by_cases h : location = target
  · simp [h]
  · have hne : (location == target) = false := by simpa using h
    -- an older file of that place is gone, which is not looked up here
    have hkept : (tree.files.filter fun file => file.1 ≠ target).lookup location =
        tree.files.lookup location := lookup_filter_ne h
    rw [hne, if_neg h]
    exact hkept

theorem isDirectory_putFile (tree : FileTree) (target location : Location) (bytes : ByteArray) :
    (tree.putFile target bytes).isDirectory location = tree.isDirectory location := rfl

/-- A piece of a path that names something in a directory. -/
structure IsName (piece : String) : Prop where
  ne_empty : piece ≠ ""
  ne_dot : piece ≠ "."
  ne_dots : piece ≠ ".."
  short : piece.utf8ByteSize ≤ maxName

/-- A name leads to a directory, or to a file, or nowhere. -/
theorem enter_name {piece : String} (h : IsName piece) (tree : FileTree) (location : Location) :
    tree.enter (.directory location) piece =
      if tree.isDirectory (location ++ [piece]) then .ok (.directory (location ++ [piece]))
      else if (tree.contents? (location ++ [piece])).isSome then .ok (.file (location ++ [piece]))
      else .error .notFound := by
  have hdot : ¬(piece.isEmpty ∨ piece = ".") := by
    simpa using ⟨h.ne_empty, h.ne_dot⟩
  rw [enter, if_neg hdot, if_neg h.ne_dots, if_neg (Nat.not_lt.2 h.short)]

/-- Pieces that name nothing mean the same on every disk. -/
theorem enter_of_not_name {piece : String} (h : ¬IsName piece) (tree other : FileTree)
    (entry : Entry) : tree.enter entry piece = other.enter entry piece := by
  cases entry with
  | file location => rfl
  | directory location =>
    unfold enter
    dsimp only
    split
    · rfl
    next hdot =>
      split
      · rfl
      next hdots =>
        split
        · rfl
        next hshort =>
          -- what is neither a dot piece nor too long is a name, so this branch is not taken
          simp only [String.isEmpty_iff, not_or] at hdot
          exact absurd ⟨hdot.1, hdot.2, hdots, Nat.not_lt.1 hshort⟩ h

/-- A step that leads somewhere still does so when a file is put on the disk. -/
theorem enter_putFile {entry found : Entry} {piece : String}
    (h : tree.enter entry piece = .ok found) :
    (tree.putFile target bytes).enter entry piece = .ok found := by
  -- only a name is looked up on the disk
  by_cases hname : IsName piece
  · cases entry with
    | file location => exact h
    | directory location =>
      rw [enter_name hname] at h ⊢
      rw [isDirectory_putFile, contents?_putFile]
      split
      next hdirectory => rwa [if_pos hdirectory] at h
      next hdirectory =>
        rw [if_neg hdirectory] at h
        split at h
        next hfile =>
          have hsome : (if location ++ [piece] = target then some bytes
              else tree.contents? (location ++ [piece])).isSome = true := by
            split
            · rfl
            · exact hfile
          rwa [if_pos hsome]
        next => cases h
  · rw [← h]
    exact enter_of_not_name hname _ _ _

/-- Steps that lead somewhere lead there still, one after the other. -/
theorem foldlM_enter_putFile {parts : List String} {entry found : Entry}
    (h : parts.foldlM tree.enter entry = .ok found) :
    parts.foldlM (tree.putFile target bytes).enter entry = .ok found := by
  induction parts generalizing entry with
  | nil => exact h
  | cons piece rest ih =>
    rw [List.foldlM_cons] at h ⊢
    cases hnext : tree.enter entry piece with
    | error e =>
      rw [hnext] at h
      cases h
    | ok next =>
      rw [hnext] at h
      rw [enter_putFile hnext]
      exact ih h

/-- So do the pieces of a path, from wherever it starts. -/
theorem follow_putFile {absolute : Bool} {parts : List String} {found : Entry}
    (h : tree.follow absolute parts = .ok found) :
    (tree.putFile target bytes).follow absolute parts = .ok found :=
  foldlM_enter_putFile h

/-- The last piece of a path is entered from where the others lead. -/
theorem follow_concat (tree : FileTree) (absolute : Bool) (init : List String) (name : String) :
    tree.follow absolute (init ++ [name]) =
      (tree.follow absolute init).bind fun entry => tree.enter entry name := by
  rw [follow, List.foldlM_append]
  exact bind_congr fun entry => bind_pure _

/-- A path that led somewhere leads there still when a file is put on the disk. -/
theorem find_putFile {path : String} {found : Entry} (h : tree.find path = .ok found) :
    (tree.putFile target bytes).find path = .ok found := by
  unfold find at h ⊢
  cases hcheck : checkPath path with
  | error e =>
    rw [hcheck] at h
    cases h
  | ok _ =>
    rw [hcheck] at h
    exact follow_putFile h

/-- A path that leads to a file is read there. -/
theorem readFile_of_find {path : String} (h : tree.find path = .ok (.file location)) :
    tree.readFile path = (tree.contents? location).elim (.error .notFound) .ok := by
  simp only [readFile, h, bind, Except.bind]
  cases tree.contents? location <;> rfl

/-- A file that is not the one that is written keeps its contents. -/
theorem readFile_putFile_of_ne {path : String} (h : tree.find path = .ok (.file location))
    (hne : location ≠ target) :
    (tree.putFile target bytes).readFile path = tree.readFile path := by
  rw [readFile_of_find h, readFile_of_find (find_putFile h), contents?_putFile, if_neg hne]

/-! ## 3. Written files -/

/-- Where a path puts a file: under a name in a directory, and not in the place of another
directory. -/
structure Places (tree : FileTree) (path : String) (target : Location) : Prop where
  checked : checkPath path = .ok ()
  noSlash : path.toList.getLast? ≠ some '/'
  leads : ∃ init name directory, pathPieces path = init ++ [name] ∧ IsName name ∧
    tree.follow (isAbsolute path) init = .ok (.directory directory) ∧ target = directory ++ [name]
  free : tree.isDirectory target = false

/-- A path that does not end with a slash ends with a piece. -/
theorem exists_lastPiece {path : String} (hempty : path ≠ "")
    (hslash : path.toList.getLast? ≠ some '/') :
    ∃ init name, pathPieces path = init ++ [name] ∧ name ≠ "" := by
  have hne : path.toList ≠ [] := by simpa using hempty
  obtain ⟨front, c, hpath⟩ := (List.eq_nil_or_concat path.toList).resolve_left hne
  rw [List.concat_eq_append] at hpath
  -- the last character of the path is no slash, so it belongs to the last piece
  have hc : '/' ∉ [c] := by
    rintro hmem
    rw [hpath, List.getLast?_concat, List.mem_singleton.1 hmem] at hslash
    exact hslash rfl
  obtain ⟨init, last, -, hboth⟩ := pieces_append hc front
  refine ⟨init.map String.ofList, String.ofList (last ++ [c]), ?_, by simp⟩
  rw [pathPieces, hpath, hboth, List.map_append]
  rfl

/-- A path that names a new entry is a valid one. -/
theorem checkPath_of_newEntry {path : String} {place : Location × Option String}
    (h : tree.newEntry path = .ok place) : checkPath path = .ok () := by
  unfold newEntry at h
  cases hcheck : checkPath path with
  | error e =>
    rw [hcheck] at h
    cases h
  | ok _ => rfl

/-- In a list that is taken apart at its last element there is only one way to do so. -/
theorem exists_concat_iff {init : List String} {last name : String} {p : List String → Prop} :
    (∃ front, init ++ [last] = front ++ [name] ∧ p front) ↔ last = name ∧ p init := by
  constructor
  · rintro ⟨front, heq, hfront⟩
    obtain ⟨rfl, hlast⟩ := List.append_inj' heq rfl
    exact ⟨List.singleton_inj.1 hlast, hfront⟩
  · rintro ⟨rfl, hinit⟩
    exact ⟨init, rfl, hinit⟩

/-- A last piece that is not empty gives a new entry exactly if it is a name. -/
theorem entryNamed_eq_ok_iff {location directory : Location} {last name : String}
    (hlast : last ≠ "") :
    (if last = "." ∨ last = ".." then Except.ok (location, none)
      else if maxName < last.utf8ByteSize then .error FileError.nameTooLong
      else .ok (location, some last)) = .ok (directory, some name) ↔
      last = name ∧ IsName name ∧ location = directory := by
  split
  next hdots =>
    refine iff_of_false (by simp) ?_
    rintro ⟨rfl, hname, -⟩
    exact hdots.elim hname.ne_dot hname.ne_dots
  next hdots =>
    rw [not_or] at hdots
    split
    next hlong =>
      -- too long a piece is an error, so it never comes to a name
      refine iff_of_false (by simp) ?_
      rintro ⟨rfl, hname, -⟩
      exact absurd hname.short (Nat.not_le.2 hlong)
    next hshort =>
      have hname : IsName last := ⟨hlast, hdots.1, hdots.2, Nat.not_lt.1 hshort⟩
      constructor
      · intro h
        cases h
        exact ⟨rfl, hname, rfl⟩
      · rintro ⟨rfl, -, rfl⟩
        rfl

/-- Where a path that does not end with a slash would put a new entry. -/
theorem newEntry_eq_some_iff {path : String} (hslash : path.toList.getLast? ≠ some '/')
    {directory : Location} {name : String} :
    tree.newEntry path = .ok (directory, some name) ↔
      checkPath path = .ok () ∧ ∃ init, pathPieces path = init ++ [name] ∧ IsName name ∧
        tree.follow (isAbsolute path) init = .ok (.directory directory) := by
  -- a path that is not valid neither names an entry nor has a directory for it
  by_cases hcheck : checkPath path = .ok ()
  · have hempty : path ≠ "" := by
      rintro rfl
      cases hcheck
    obtain ⟨init, last, hpieces, hlast⟩ := exists_lastPiece hempty hslash
    -- there is no empty piece at the end to be dropped
    have hparts : ((pathPieces path).reverse.dropWhile String.isEmpty).reverse = init ++ [last] := by
      rw [hpieces, List.reverse_append, List.reverse_singleton, List.singleton_append,
        List.dropWhile_cons_of_neg (by simpa using hlast), List.reverse_cons, List.reverse_reverse]
    rw [newEntry, hcheck, hpieces, exists_concat_iff]
    rw [hpieces] at hparts
    simp only [hparts, List.dropLast_concat, List.getLast?_concat, true_and]
    cases hfollow : tree.follow (isAbsolute path) init with
    | error e => exact iff_of_false (by rintro ⟨⟩) (by rintro ⟨-, -, ⟨⟩⟩)
    | ok entry =>
      cases entry with
      | file location => exact iff_of_false (by rintro ⟨⟩) (by rintro ⟨-, -, ⟨⟩⟩)
      | directory location =>
        rw [Except.ok.injEq, Entry.directory.injEq]
        exact entryNamed_eq_ok_iff hlast
  · exact iff_of_false (fun h => hcheck (checkPath_of_newEntry h)) fun h => hcheck h.1

/-- A file is written exactly if its path puts it somewhere, and there it is then. -/
theorem writeFile_eq_ok_iff {path : String} {after : FileTree} :
    tree.writeFile path bytes = .ok after ↔
      ∃ target, tree.Places path target ∧ after = tree.putFile target bytes := by
  unfold writeFile
  constructor
  · intro h
    cases hplace : tree.newEntry path with
    | error e =>
      rw [hplace] at h
      cases h
    | ok place =>
      obtain ⟨directory, name | name⟩ := place
      · rw [hplace] at h
        cases h
      · rw [hplace] at h
        change (if tree.isDirectory (directory ++ [name]) ∨ path.toList.getLast? = some '/' then
          Except.error FileError.isADirectory
          else .ok (tree.putFile (directory ++ [name]) bytes)) = .ok after at h
        split at h
        next => cases h
        next hfree =>
          rw [not_or, Bool.not_eq_true] at hfree
          obtain ⟨hcheck, init, hpieces, hname, hfollow⟩ := (newEntry_eq_some_iff hfree.2).1 hplace
          exact ⟨_, ⟨hcheck, hfree.2, ⟨init, name, directory, hpieces, hname, hfollow, rfl⟩, hfree.1⟩,
            (Except.ok.inj h).symm⟩
  · -- the directory is there and its place is free, so nothing is in the way
    rintro ⟨target, ⟨hcheck, hslash, ⟨init, name, directory, hpieces, hname, hfollow, rfl⟩, hfree⟩, rfl⟩
    rw [(newEntry_eq_some_iff hslash).2 ⟨hcheck, init, hpieces, hname, hfollow⟩]
    exact if_neg (by simp [hfree, hslash])

namespace Places

variable {path : String}

/-- Another file that is put on the disk does not matter for where a path puts its own. -/
theorem putFile (h : tree.Places path target) (other : Location) :
    (tree.putFile other bytes).Places path target := by
  obtain ⟨init, name, directory, hpieces, hname, hfollow, htarget⟩ := h.leads
  exact ⟨h.checked, h.noSlash,
    ⟨init, name, directory, hpieces, hname, follow_putFile hfollow, htarget⟩, h.free⟩

/-- A file that was put somewhere by its path is found there. -/
theorem find_putFile (h : tree.Places path target) :
    (tree.putFile target bytes).find path = .ok (.file target) := by
  obtain ⟨init, name, directory, hpieces, hname, hfollow, rfl⟩ := h.leads
  have hfree := h.free
  rw [find, h.checked]
  change (tree.putFile (directory ++ [name]) bytes).follow (isAbsolute path) (pathPieces path) = _
  rw [hpieces, follow_concat, follow_putFile hfollow]
  change (tree.putFile (directory ++ [name]) bytes).enter (.directory directory) name = _
  rw [enter_name hname, isDirectory_putFile, hfree, contents?_putFile, if_pos rfl]
  rfl

/-- A file that was written has the contents it was given. -/
theorem readFile_putFile (h : tree.Places path target) :
    (tree.putFile target bytes).readFile path = .ok bytes := by
  rw [readFile_of_find h.find_putFile, contents?_putFile, if_pos rfl]
  rfl

/-- Paths that differ in their endings put files in different places. -/
theorem target_ne {front first second : String} {other : FileTree} {location : Location}
    (hfirst : tree.Places (front ++ first) target) (hsecond : other.Places (front ++ second) location)
    (hnoSlash : '/' ∉ first.toList ∧ '/' ∉ second.toList) (hne : first ≠ second) :
    target ≠ location := by
  obtain ⟨_, name, directory, hpieces, -, -, rfl⟩ := hfirst.leads
  obtain ⟨_, name', directory', hpieces', -, -, rfl⟩ := hsecond.leads
  -- the two endings lengthen the same last piece
  obtain ⟨init, last, hfront, hboth⟩ := pathPieces_append hnoSlash.1 front
  obtain ⟨init', last', hfront', hboth'⟩ := pathPieces_append hnoSlash.2 front
  obtain rfl : last = last' := by
    rw [hfront] at hfront'
    exact List.singleton_inj.1 (List.append_inj' hfront' rfl).2
  obtain rfl : last ++ first = name := by
    rw [hboth] at hpieces
    exact List.singleton_inj.1 (List.append_inj' hpieces rfl).2
  obtain rfl : last ++ second = name' := by
    rw [hboth'] at hpieces'
    exact List.singleton_inj.1 (List.append_inj' hpieces' rfl).2
  intro heq
  have hnames := List.singleton_inj.1 (List.append_inj' heq rfl).2
  exact hne (String.append_right_inj last |>.1 hnames)

end Places

/-! ## 4. Created directories -/

/-- A directory that is created adds no file. -/
theorem files_of_makeDirectory {path : String} {after : FileTree}
    (h : tree.makeDirectory path = .ok after) : after.files = tree.files := by
  unfold makeDirectory at h
  cases hplace : tree.newEntry path with
  | error e =>
    rw [hplace] at h
    cases h
  | ok place =>
    obtain ⟨directory, name | name⟩ := place
    · rw [hplace] at h
      cases h
    · rw [hplace] at h
      -- the name is new, or the tree refuses it and stays as it is
      change (if _ then Except.error FileError.alreadyExists
        else .ok (tree.putDirectory (directory ++ [name]))) = .ok after at h
      split at h
      next => cases h
      next =>
        cases h
        rfl

end FileTree

/-- An operation on a disk leaves all files alone. -/
def KeepsFiles {α : Type} (operation : StateM FileTree α) : Prop :=
  ∀ tree, (operation tree).2.files = tree.files

theorem KeepsFiles.bind {α β : Type} {first : StateM FileTree α} {next : α → StateM FileTree β}
    (hfirst : KeepsFiles first) (hnext : ∀ a, KeepsFiles (next a)) : KeepsFiles (first >>= next) :=
  fun tree => (hnext _ _).trans (hfirst tree)

theorem keepsFiles_pure {α : Type} (a : α) : KeepsFiles (pure a) :=
  fun _ => rfl

/-- Creating a directory leaves the files alone, whether it succeeds or not. -/
theorem keepsFiles_makeDirectory (path : String) : KeepsFiles (treeDisk.makeDirectory path) := by
  intro tree
  change (settle tree (tree.makeDirectory path)).2.files = tree.files
  cases hmade : tree.makeDirectory path with
  | error e => rfl
  | ok after => exact FileTree.files_of_makeDirectory hmade

theorem keepsFiles_isDirectory (path : String) : KeepsFiles (treeDisk.isDirectory path) :=
  fun _ => rfl

/-- Going up a path in search of a directory creates some of them, and no file. -/
theorem keepsFiles_missingDirectories (depth : Nat) (path : String) (missing : List String) :
    KeepsFiles (treeDisk.missingDirectories depth path missing) := by
  induction depth generalizing path missing with
  | zero => exact keepsFiles_pure _
  | succ depth ih =>
    rw [Access.missingDirectories]
    cases parent? path with
    | none => exact keepsFiles_pure _
    | some above =>
      refine (keepsFiles_makeDirectory path).bind fun made => ?_
      split
      · exact keepsFiles_pure _
      · exact ih above _
      · exact (keepsFiles_isDirectory path).bind fun there => keepsFiles_pure _
      · exact keepsFiles_pure _

/-- Going down again creates the others, and no file either. -/
theorem keepsFiles_makeEach (paths : List String) : KeepsFiles (treeDisk.makeEach paths) := by
  induction paths with
  | nil => exact keepsFiles_pure _
  | cons path rest ih =>
    rw [Access.makeEach]
    refine (keepsFiles_makeDirectory path).bind fun made => ?_
    split
    · exact ih
    · refine (keepsFiles_isDirectory path).bind fun there => ?_
      split
      · exact ih
      · exact keepsFiles_pure _
    · exact keepsFiles_pure _

/-- So a path is made ready for files without touching one. -/
theorem keepsFiles_makeDirectories (path : String) : KeepsFiles (treeDisk.makeDirectories path) := by
  rw [Access.makeDirectories]
  refine (keepsFiles_missingDirectories _ _ _).bind fun missing => ?_
  split
  · exact keepsFiles_pure _
  · exact keepsFiles_makeEach _

end InputScript.Disk
