/-
Using a disk.

A program reads whole files, writes whole files, creates single directories and
asks whether a path leads to one. A directory is created together with those it
lies in: the way up stops at the first that is there or can be created, and the
missing ones are then created on the way down.
-/
import InputScript.Disk.Path

set_option autoImplicit false

namespace InputScript.Disk

/-- The ways in which a program uses a disk. -/
structure Access (m : Type → Type) where
  /-- The contents of a file. -/
  readFile : String → m (Except FileError ByteArray)
  /-- Creates a directory. -/
  makeDirectory : String → m (Except FileError Unit)
  /-- Whether a path leads to a directory. -/
  isDirectory : String → m Bool
  /-- Gives a file new contents, creating it if need be. -/
  writeFile : String → ByteArray → m (Except FileError Unit)

namespace Access

variable {m : Type → Type} [Monad m]

/-- The contents of a file as text (`read_to_string`). -/
def readText (disk : Access m) (path : String) : m (Except FileError String) := do
  match ← disk.readFile path with
  | .error e => return .error e
  | .ok bytes =>
    match String.fromUTF8? bytes with
    | some text => return .ok text
    | none => return .error .notText

/-- Goes up from a path to the first directory that is there or can be created,
past at most `depth` that cannot because their own surroundings are missing, and
lists those, the outermost one first. The root and the empty path are always
there. -/
def missingDirectories (disk : Access m) :
    Nat → String → List String → m (Except FileError (List String))
  | 0, _, missing => return .ok missing
  | depth + 1, path, missing =>
    match parent? path with
    | none => return .ok missing
    | some above => do
      match ← disk.makeDirectory path with
      | .ok () => return .ok missing
      | .error .notFound => missingDirectories disk depth above (path :: missing)
      | .error .alreadyExists =>
        let there ← disk.isDirectory path
        return if there then .ok missing else .error .alreadyExists
      | .error e => return .error e

/-- Creates directories in order. One that is already there is no failure. -/
def makeEach (disk : Access m) : List String → m (Except FileError Unit)
  | [] => return .ok ()
  | path :: rest => do
    match ← disk.makeDirectory path with
    | .ok () => makeEach disk rest
    | .error .alreadyExists =>
      if ← disk.isDirectory path then makeEach disk rest else return .error .alreadyExists
    | .error e => return .error e

/-- Creates a directory and those it lies in (`create_dir_all`). -/
def makeDirectories (disk : Access m) (path : String) : m (Except FileError Unit) := do
  match ← disk.missingDirectories ((components path).length + 1) path [] with
  | .error e => return .error e
  | .ok missing => disk.makeEach missing

end Access

end InputScript.Disk
