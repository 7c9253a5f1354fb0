/-
The arguments of the command line (`Cli`).

Two positional arguments name the script and the output directory. An option
takes one value, in the same argument behind an equals sign or as the next
argument, and may be given once; an argument that starts with a hyphen is never
taken for a value, and behind `--` every argument is positional. Arguments are
read from left to right, so a request for help counts only if nothing before it
is wrong.
-/
import InputScript.Text.Numeral

set_option autoImplicit false

namespace InputScript.Command

open InputScript.Text

/-! ## 1. Options -/

/-- What the command line asks for (`Cli`). -/
structure Options where
  input : String
  output : String
  keys : Option String
  name : Option String
  frame : Option UInt64
  logLevel : Option String
deriving DecidableEq, Repr

/-- The options that take a value. -/
inductive OptionName where
  | keys
  | name
  | frame
  | logLevel
deriving DecidableEq, Repr

/-- The option of a name. -/
def OptionName.named? : String → Option OptionName
  | "keys" => some .keys
  | "name" => some .name
  | "frame" => some .frame
  | "log-level" => some .logLevel
  | _ => none

/-- Why arguments make no sense. -/
inductive UsageError where
  | unknownArgument (argument : String)
  | unexpectedValue (argument : String)
  | missingValue (argument : String)
  | badValue (value : String)
  | repeatedOption (argument : String)
  | missingArguments
deriving DecidableEq, Repr

/-- The error in words. -/
def UsageError.message : UsageError → String
  | .unknownArgument argument => "unexpected argument '" ++ argument ++ "'"
  | .unexpectedValue argument => "unexpected value for '" ++ argument ++ "'"
  | .missingValue argument => "a value is required for '" ++ argument ++ "'"
  | .badValue value => "invalid value '" ++ value ++ "'"
  | .repeatedOption argument => "'" ++ argument ++ "' cannot be used multiple times"
  | .missingArguments => "<INPUT> and <OUTPUT> are required"

/-- What a command line comes to. -/
inductive Invocation where
  | compile (options : Options)
  | help
  | version
deriving DecidableEq, Repr

/-! ## 2. Reading arguments -/

/-- What has been read so far. -/
structure Draft where
  input : Option String
  output : Option String
  keys : Option String
  name : Option String
  frame : Option UInt64
  logLevel : Option String

/-- Nothing yet. -/
def Draft.empty : Draft := ⟨none, none, none, none, none, none⟩

/-- A frame number: digits, with an optional plus sign in front. -/
def frameNumber? (text : List Char) : Option UInt64 :=
  let digits :=
    match text with
    | '+' :: rest => rest
    | rest => rest
  if digits.isEmpty ∨ digits.any (fun c => !c.isDigit) then none else wordOfDigits? digits

/-- Takes the next positional argument. A path is not empty. -/
def Draft.position (draft : Draft) (argument : String) : Except UsageError Draft :=
  if draft.input.isSome ∧ draft.output.isSome then .error (.unknownArgument argument)
  else if argument.isEmpty then .error (.badValue argument)
  else if draft.input.isSome then .ok { draft with output := some argument }
  else .ok { draft with input := some argument }

/-- Takes the value of an option. -/
def Draft.setOption (draft : Draft) (option : OptionName) (argument value : String) :
    Except UsageError Draft :=
  let once {α : Type} (earlier : Option α) (next : Except UsageError Draft) :=
    if earlier.isSome then .error (.repeatedOption argument) else next
  match option with
  | .keys =>
    once draft.keys
      (if value.isEmpty then .error (.badValue value) else .ok { draft with keys := some value })
  | .name => once draft.name (.ok { draft with name := some value })
  | .frame =>
    once draft.frame
      (match frameNumber? value.toList with
      | some frame => .ok { draft with frame := some frame }
      | none => .error (.badValue value))
  | .logLevel => once draft.logLevel (.ok { draft with logLevel := some value })

/-- Whether an argument cannot be a value of its own. -/
def startsWithHyphen (argument : String) : Bool :=
  match argument.toList with
  | '-' :: _ :: _ => true
  | _ => false

/-- What an argument with two hyphens says: a name, and a value behind the first
equals sign. -/
def splitLong (body : List Char) : String × Option String :=
  let name := body.takeWhile (· ≠ '=')
  let rest := body.drop name.length
  (String.ofList name, if rest.isEmpty then none else some (String.ofList (rest.drop 1)))

/-- The options of a finished draft. -/
def Draft.finish (draft : Draft) : Except UsageError Invocation :=
  match draft.input, draft.output with
  | some input, some output =>
    .ok (.compile ⟨input, output, draft.keys, draft.name, draft.frame, draft.logLevel⟩)
  | _, _ => .error .missingArguments

/-- Reads arguments from left to right. -/
def readArguments (draft : Draft) : List String → Except UsageError Invocation
  | [] => draft.finish
  | argument :: rest =>
    match argument.toList with
    | ['-', '-'] => (rest.foldlM Draft.position draft).bind Draft.finish
    | '-' :: '-' :: body =>
      match splitLong body with
      | ("help", value) => if value.isSome then .error (.unexpectedValue argument) else .ok .help
      | ("version", value) =>
        if value.isSome then .error (.unexpectedValue argument) else .ok .version
      | (name, value) =>
        match OptionName.named? name, value, rest with
        | none, _, _ => .error (.unknownArgument argument)
        | some option, some value, rest =>
          (draft.setOption option argument value).bind fun next => readArguments next rest
        | some _, none, [] => .error (.missingValue argument)
        | some option, none, value :: rest =>
          if startsWithHyphen value then .error (.missingValue argument)
          else (draft.setOption option argument value).bind fun next => readArguments next rest
    | '-' :: 'h' :: _ => .ok .help
    | '-' :: 'V' :: _ => .ok .version
    | '-' :: _ :: _ => .error (.unknownArgument argument)
    | _ => (draft.position argument).bind fun next => readArguments next rest

/-- What a list of arguments asks for. -/
def Invocation.parse (arguments : List String) : Except UsageError Invocation :=
  readArguments .empty arguments

end InputScript.Command
