/-
Log filters.

A filter is written as directives between commas, such as `info` or
`target=debug`. A directive applies to the targets that start with its name,
and one without a name to all. Of the directives that apply, the one with the
longest name decides. A pattern behind a slash keeps only the messages in which
it occurs.
-/
import InputScript.Log.Record
import InputScript.Pattern.Read
import InputScript.Pattern.Search
import InputScript.Text.Pieces
import InputScript.Text.WhiteSpace

set_option autoImplicit false

namespace InputScript.Log

open InputScript.Pattern InputScript.Text

/-! ## 1. Directives -/

/-- A threshold for the targets that start with a name. -/
structure Directive where
  name : Option (List Char)
  threshold : Threshold
deriving DecidableEq, Repr

/-- The threshold a word names, in either case. -/
def thresholdNamed? (word : List Char) : Option Threshold :=
  match String.ofList (word.map Char.toUpper) with
  | "OFF" => some none
  | "ERROR" => some (some .error)
  | "WARN" => some (some .warn)
  | "INFO" => some (some .info)
  | "DEBUG" => some (some .debug)
  | "TRACE" => some (some .trace)
  | _ => none

/-- The directive that a text between commas stands for (`parse_filters`), or
the part of it that cannot be read. A name alone switches everything on. -/
def Directive.parse (text : List Char) : Except (List Char) Directive :=
  match pieces '=' text with
  | [word] =>
    match thresholdNamed? word with
    | some threshold => .ok ⟨none, threshold⟩
    | none => .ok ⟨some word, some .trace⟩
  | [name, level] =>
    let level := trim level
    if level.isEmpty then .ok ⟨some name, some .trace⟩
    else
      match thresholdNamed? level with
      | some threshold => .ok ⟨some name, threshold⟩
      | none => .error level
  | _ => .error text

/-! ## 2. Filters -/

/-- Directives, and what has to occur in messages. -/
structure Filter where
  directives : List Directive
  pattern : Option Expression
deriving DecidableEq, Repr

namespace Filter

/-- The filter without directives. -/
def empty : Filter := ⟨[], none⟩

/-- Adds a directive, in place of one with the same name. -/
def put (directive : Directive) : List Directive → List Directive
  | [] => [directive]
  | first :: rest =>
    if first.name = directive.name then directive :: rest else first :: put directive rest

/-- The complaint about a part of a specification. -/
def complaint (text : List Char) : String :=
  "warning: invalid logging spec '" ++ String.ofList text ++ "', ignoring it"

/-- Adds the directives of a list of texts, complaining about those that cannot
be read. -/
def addAll (directives : List Directive) : List (List Char) → List Directive × List String
  | [] => (directives, [])
  | text :: rest =>
    if text.isEmpty then addAll directives rest
    else
      match Directive.parse text with
      | .ok directive => addAll (put directive directives) rest
      | .error part =>
        let (all, complaints) := addAll directives rest
        (all, complaint part :: complaints)

/-- The pattern of a specification, or the complaint about it. -/
def patternOf (source : Option (List Char)) : Option Expression × List String :=
  match source.map Expression.read with
  | none => (none, [])
  | some (.ok expression) => (some expression, [])
  | some (.error refusal) => (none, ["warning: invalid regex filter - " ++ refusal.message])

/-- Adds a specification to a filter. It may hold one slash. -/
def add (filter : Filter) (specification : String) : Filter × List String :=
  let read (directives : List Char) (source : Option (List Char)) :=
    let (all, complaints) := addAll filter.directives ((pieces ',' directives).map trim)
    let (pattern, more) := patternOf source
    (⟨all, pattern⟩, complaints ++ more)
  match pieces '/' specification.toList with
  | [directives] => read directives none
  | [directives, source] => read directives (some source)
  | _ =>
    ({ filter with pattern := none },
      [complaint specification.toList ++ " (too many '/'s)"])

/-- Whether a directive applies to a target. -/
def applies (target : List Char) (directive : Directive) : Bool :=
  match directive.name with
  | none => true
  | some name => name.isPrefixOf target

/-- The more specific of two directives that apply, the later one on a tie. -/
def moreSpecific (best : Option Directive) (directive : Directive) : Option Directive :=
  match best with
  | none => some directive
  | some earlier =>
    if (directive.name.getD []).length < (earlier.name.getD []).length then best
    else some directive

/-- The threshold for a target. Without any directive only errors are kept. -/
def thresholdFor (filter : Filter) (target : List Char) : Threshold :=
  if filter.directives.isEmpty then some .error
  else
    match (filter.directives.filter (applies target)).foldl moreSpecific none with
    | some directive => directive.threshold
    | none => none

/-- Whether a record passes the filter. -/
def passes (filter : Filter) (record : Record) : Bool :=
  keeps (filter.thresholdFor record.target.path.toList) record.level &&
    filter.pattern.all fun expression => expression.occursIn record.message.toList

end Filter

end InputScript.Log
