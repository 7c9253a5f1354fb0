/-
A disk in memory.

Directories and files are listed by the names on the way to them from the root.
Paths that do not start at the root start at the working directory. On its way
to a file or directory a path may only pass directories that exist.
-/
import InputScript.Disk.Access

set_option autoImplicit false

namespace InputScript.Disk

/-! ## 1. The tree -/

/-- The names on the way from the root. -/
abbrev Location := List String

/-- A disk in memory. The root and the working directory always exist. -/
structure FileTree where
  workingDirectory : Location
  directories : List Location
  files : List (Location × ByteArray)

namespace FileTree

/-- Whether a location is a directory. -/
def isDirectory (tree : FileTree) (location : Location) : Bool :=
  location.isPrefixOf tree.workingDirectory || tree.directories.contains location

/-- The contents of the file at a location. -/
def contents? (tree : FileTree) (location : Location) : Option ByteArray :=
  tree.files.lookup location

/-- The tree with a file at a location, in place of an earlier one. -/
def putFile (tree : FileTree) (location : Location) (bytes : ByteArray) : FileTree :=
  { tree with
    files := (location, bytes) :: tree.files.filter fun file => file.1 ≠ location }

/-- The tree with a directory at a location. -/
def putDirectory (tree : FileTree) (location : Location) : FileTree :=
  { tree with directories := location :: tree.directories }

/-! ## 2. Following paths -/

/-- The greatest length of a name in bytes. -/
def maxName : Nat := 255

/-- The length in bytes that a path must stay below. -/
def pathLimit : Nat := 4096

/-- What a path leads to. -/
inductive Entry where
  | directory (location : Location)
  | file (location : Location)
deriving DecidableEq, Repr

/-- Takes one more piece of a path. -/
def enter (tree : FileTree) (entry : Entry) (piece : String) : Except FileError Entry :=
  match entry with
  | .file _ => .error .notADirectory
  | .directory location =>
    if piece.isEmpty ∨ piece = "." then .ok entry
    else if piece = ".." then .ok (.directory location.dropLast)
    else if maxName < piece.utf8ByteSize then .error .nameTooLong
    else
      let next := location ++ [piece]
      if tree.isDirectory next then .ok (.directory next)
      else if (tree.contents? next).isSome then .ok (.file next)
      else .error .notFound

/-- Follows the pieces of a path from where it starts. -/
def follow (tree : FileTree) (absolute : Bool) (parts : List String) : Except FileError Entry :=
  parts.foldlM tree.enter (.directory (if absolute then [] else tree.workingDirectory))

/-- Refuses paths that cannot name anything. -/
def checkPath (path : String) : Except FileError Unit :=
  if path.toList.contains '\x00' then .error .nulInPath
  else if path.isEmpty then .error .notFound
  else if pathLimit ≤ path.utf8ByteSize then .error .nameTooLong
  else .ok ()

/-- What a path leads to. -/
def find (tree : FileTree) (path : String) : Except FileError Entry := do
  checkPath path
  tree.follow (isAbsolute path) (pathPieces path)

/-- Where a path would put a new entry: its directory and its last name, which
is not one of the dots. Slashes at the end say nothing. -/
def newEntry (tree : FileTree) (path : String) :
    Except FileError (Location × Option String) := do
  checkPath path
  let parts := ((pathPieces path).reverse.dropWhile String.isEmpty).reverse
  match ← tree.follow (isAbsolute path) parts.dropLast with
  | .file _ => .error .notADirectory
  | .directory location =>
    match parts.getLast? with
    | none => .ok (location, none)
    | some name =>
      if name = "." ∨ name = ".." then .ok (location, none)
      else if maxName < name.utf8ByteSize then .error .nameTooLong
      else .ok (location, some name)

/-- Whether a path leads to a directory. -/
def leadsToDirectory (tree : FileTree) (path : String) : Bool :=
  match tree.find path with
  | .ok (.directory _) => true
  | _ => false

/-! ## 3. Reading and writing -/

/-- The contents of the file a path leads to. -/
def readFile (tree : FileTree) (path : String) : Except FileError ByteArray := do
  match ← tree.find path with
  | .directory _ => .error .isADirectory
  | .file location =>
    match tree.contents? location with
    | some bytes => .ok bytes
    | none => .error .notFound

/-- Creates one directory. -/
def makeDirectory (tree : FileTree) (path : String) : Except FileError FileTree := do
  match ← tree.newEntry path with
  | (_, none) => .error .alreadyExists
  | (location, some name) =>
    let next := location ++ [name]
    if tree.isDirectory next ∨ (tree.contents? next).isSome then .error .alreadyExists
    else .ok (tree.putDirectory next)

/-- Gives the file a path leads to new contents, creating it if need be. -/
def writeFile (tree : FileTree) (path : String) (bytes : ByteArray) :
    Except FileError FileTree := do
  match ← tree.newEntry path with
  | (_, none) => .error .isADirectory
  | (location, some name) =>
    let target := location ++ [name]
    if tree.isDirectory target ∨ path.toList.getLast? = some '/' then .error .isADirectory
    else .ok (tree.putFile target bytes)

end FileTree

/-! ## 4. The tree as a disk -/

/-- The next state of a tree and the result of an operation on it; a tree stays
as it is when the operation fails. -/
def settle (tree : FileTree) (result : Except FileError FileTree) :
    Except FileError Unit × FileTree :=
  match result with
  | .ok changed => (.ok (), changed)
  | .error e => (.error e, tree)

/-- A tree that a program reads and changes. -/
def treeDisk : Access (StateM FileTree) where
  readFile path := fun tree => (tree.readFile path, tree)
  makeDirectory path := fun tree => settle tree (tree.makeDirectory path)
  isDirectory path := fun tree => (tree.leadsToDirectory path, tree)
  writeFile path bytes := fun tree => settle tree (tree.writeFile path bytes)

end InputScript.Disk
