/-
The command line: the system's files, streams and environment around `run`.
-/
import InputScript.Command.Run

set_option autoImplicit false

namespace InputScript.Command

open InputScript.Disk InputScript.Log

/-- The cause with a number of the system, which may be given negated. One
without a name of its own keeps the system's words. -/
def fileErrorOfCode (code : UInt32) (details : String) : FileError :=
  match min code.toNat (-code).toNat with
  | 2 => .notFound
  | 17 => .alreadyExists
  | 20 => .notADirectory
  | 21 => .isADirectory
  | 36 => .nameTooLong
  | number => .other (details ++ " (os error " ++ number.repr ++ ")")

/-- The cause behind an error of the system. -/
def fileErrorOf : IO.Error → FileError
  | .noFileOrDirectory _ code details | .interrupted _ code details
  | .alreadyExists _ code details | .inappropriateType _ code details
  | .invalidArgument _ code details | .permissionDenied _ code details
  | .resourceExhausted _ code details | .noSuchThing _ code details
  | .otherError code details | .resourceBusy code details | .hardwareFault code details
  | .unsupportedOperation code details | .illegalOperation code details =>
    fileErrorOfCode code details
  | e => .other (toString e)

/-- Runs an action of the system for its result or the cause of its failure. -/
def attempt {α : Type} (action : IO α) : IO (Except FileError α) := do
  match ← action.toBaseIO with
  | .ok a => return .ok a
  | .error e => return .error (fileErrorOf e)

/-- Whether a path leads to a directory: only then does its own dot exist. -/
def systemIsDirectory (path : String) : IO Bool := do
  match ← attempt (IO.FS.createDir (path ++ "/.")) with
  | .error .alreadyExists => return true
  | _ => return false

/-- The disk of the system. -/
def systemDisk : Access IO where
  readFile path := attempt (IO.FS.readBinFile path)
  makeDirectory path := attempt (IO.FS.createDir path)
  isDirectory := systemIsDirectory
  writeFile path bytes := attempt (IO.FS.writeBinFile path bytes)

/-- What is printed in front of a record's message: its level, filled up to five
letters, and its target. -/
def recordLead (record : Record) : String :=
  let level := record.level.name
  "[" ++ level.pushn ' ' (5 - level.length) ++ " " ++ record.target.path ++ "] "

end InputScript.Command

open InputScript.Command

/-- Runs the command with the arguments of the process. -/
def main (arguments : List String) : IO UInt32 := do
  let outcome ← run systemDisk (← IO.getEnv "RUST_LOG") arguments
  for line in outcome.output do
    IO.println line
  for message in outcome.messages do
    for line in message.lines recordLead do
      IO.eprintln line
  return outcome.exitCode.toUInt32
