/-
Loading a project from a disk (`load`).

The script is read first, then the key file if there is one, and the name is
the one given or else that of the script file without its ending. The first
step that fails decides the error.
-/
import InputScript.Disk.Access
import InputScript.Project.KeyFile
import InputScript.Project.Process

set_option autoImplicit false

namespace InputScript.Project

open InputScript.Disk InputScript.Log InputScript.Pad

/-! ## 1. Errors -/

/-- Why a project cannot be loaded. -/
inductive LoadError where
  | unreadable (path : String) (cause : FileError)
  | badKeys (path : String) (cause : KeyFileError)
  /-- No name was given and the script's path has none. -/
  | unnamed (path : String)
deriving Repr

/-- The error in words, from the step that failed to its cause. -/
def LoadError.causes : LoadError → List String
  | .unreadable path cause => ["Reading " ++ path, cause.message]
  | .badKeys path cause => ["Parsing key table " ++ path, cause.message]
  | .unnamed path => ["cannot derive a name from " ++ path]

/-! ## 2. Loading -/

/-- What loading gives: the records of its steps, and a project or an error. -/
structure Loading where
  records : List Record
  result : Except LoadError Project

/-- A record of loading. -/
def loadRecord (level : Level) (message : String) : Record :=
  ⟨level, .loading, message⟩

/-- The records of a key file that was read. -/
def keyRecords (reading : KeyReading) : List Record :=
  reading.taken.map (fun (name, code) =>
    loadRecord .debug ("key " ++ name ++ " = " ++ code.toNat.repr))
  ++
  match reading.result with
  | .ok keys =>
    [loadRecord .info ("Key table loaded, " ++ keys.pairs.length.repr ++ " keys")]
  | .error _ => []

variable {m : Type → Type} [Monad m]

/-- Loads the key table of a key file. -/
def loadKeys (disk : Access m) (path : String) :
    m (List Record × Except LoadError KeyTable) := do
  match ← disk.readText path with
  | .error cause => return ([], .error (.unreadable path cause))
  | .ok text =>
    let reading := readKeys text
    return (keyRecords reading, reading.result.mapError (.badKeys path))

/-- The name of a project: the given one or the stem of its script's file
(`file_stem`). -/
def nameFor (script : String) (name : Option String) : Except LoadError String :=
  match name.or ((fileName? script).map stem) with
  | some name => .ok name
  | none => .error (.unnamed script)

/-- Loads a project (`load`). -/
def load (disk : Access m) (script : String) (keys name : Option String) : m Loading := do
  match ← disk.readText script with
  | .error cause => return ⟨[], .error (.unreadable script cause)⟩
  | .ok text =>
    let size := loadRecord .info
      ("Script loaded, size: " ++ text.utf8ByteSize.repr ++ " bytes")
    match keys with
    | none =>
      return ⟨[size], (nameFor script name).map fun name => ⟨name, text, none⟩⟩
    | some path =>
      let (records, result) ← loadKeys disk path
      return ⟨size :: records, do
        let table ← result
        let name ← nameFor script name
        return ⟨name, text, some table⟩⟩

end InputScript.Project
