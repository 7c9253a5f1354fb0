/-
Paths and what can go wrong with them.

A path is a text whose components stand between slashes. Empty components and
components that are a single dot say nothing, except for a dot in front.
-/
import InputScript.Text.Pieces

set_option autoImplicit false

namespace InputScript.Disk

open InputScript.Text

/-! ## 1. Errors -/

/-- Why a file or directory cannot be used. -/
inductive FileError where
  | notFound
  | alreadyExists
  | notADirectory
  | isADirectory
  | nameTooLong
  /-- A NUL character in a path. -/
  | nulInPath
  /-- Contents that are no text. -/
  | notText
  /-- Anything else the system reports. -/
  | other (message : String)
deriving DecidableEq, Repr

/-- The error in words. -/
def FileError.message : FileError → String
  | .notFound => "No such file or directory (os error 2)"
  | .alreadyExists => "File exists (os error 17)"
  | .notADirectory => "Not a directory (os error 20)"
  | .isADirectory => "Is a directory (os error 21)"
  | .nameTooLong => "File name too long (os error 36)"
  | .nulInPath => "file name contained an unexpected NUL byte"
  | .notText => "stream did not contain valid UTF-8"
  | .other message => message

/-! ## 2. Components -/

/-- Whether a path starts at the root. -/
def isAbsolute (path : String) : Bool :=
  path.toList.head? == some '/'

/-- The texts between the slashes of a path. -/
def pathPieces (path : String) : List String :=
  (pieces '/' path.toList).map String.ofList

/-- The components that say something. A dot counts only as the first piece of
a path. -/
def components (path : String) : List String :=
  match pathPieces path with
  | [] => []
  | first :: rest =>
    (if first.isEmpty then [] else [first]) ++ rest.filter fun piece => piece ≠ "" ∧ piece ≠ "."

/-- The path without its last component, if it has one. -/
def parent? (path : String) : Option String :=
  let parts := components path
  if parts.isEmpty then none
  else some ((if isAbsolute path then "/" else "") ++ "/".intercalate parts.dropLast)

/-- The last component, if it is the name of a file. -/
def fileName? (path : String) : Option String :=
  (components path).getLast?.filter fun last => last ≠ "." ∧ last ≠ ".."

/-- A file name up to its last dot (`file_stem`). A dot at the very front
belongs to the name and does not end it. -/
def stem (name : String) : String :=
  let behind := name.toList.reverse.takeWhile (· ≠ '.')
  let front := (name.toList.reverse.drop behind.length).drop 1
  if front.isEmpty then name else String.ofList front.reverse

/-- A path inside a directory; an absolute path stays where it is. -/
def join (directory path : String) : String :=
  if isAbsolute path then path
  else if directory.toList.getLast? == some '/' || directory.isEmpty then directory ++ path
  else directory ++ "/" ++ path

end InputScript.Disk
