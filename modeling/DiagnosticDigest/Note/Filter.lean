import DiagnosticDigest.Note
import DiagnosticDigest.Pattern.Match
import DiagnosticDigest.Pattern.Reading
import DiagnosticDigest.Text.Blank
import DiagnosticDigest.Text.Split

/-!
# Filters on notes

Which notes are shown is told by a filter such as `debug` or `off,name=trace`: a list of directives
between commas. Each gives a greatest verbosity, either for everything or for the topics whose names
begin in some way; of those that concern a note, the one with the longest name decides. Behind a
slash the filter may ask for a pattern that matches somewhere in every note it shows.

## Main definitions

* `Note.topic`: the name by which a filter refers to a note.
* `NoteFilter.parse`: the filter that a text describes, and the parts that were not understood.
* `NoteFilter.shows`: whether a filter shows a note.
-/

namespace DiagnosticDigest

/-- The name of the part of the program that makes a note. Notes on records are made where records
are decoded, all others where input is collected. -/
def Note.topic : Note → String
  | malformed _ _ | unknownLevel _ | spanless _ => "cargo_ediag::e_parser"
  | _ => "cargo_ediag::e_runner"

/-- How much is shown, from nothing to everything. -/
inductive Verbosity where
  | off
  | error
  | warn
  | info
  | debug
  | trace
  deriving DecidableEq

namespace Verbosity

/-- The rank of a verbosity; a greater one shows more. -/
def rank : Verbosity → Nat
  | off => 0
  | error => 1
  | warn => 2
  | info => 3
  | debug => 4
  | trace => 5

/-- The verbosity with a name, in either case. -/
def ofName? (name : String) : Option Verbosity :=
  let lower := String.ofList (name.toList.map Char.toLower)
  if lower = "off" then some off
  else if lower = "error" then some error
  else if lower = "warn" then some warn
  else if lower = "info" then some info
  else if lower = "debug" then some debug
  else if lower = "trace" then some trace
  else none

/-- The verbosity that a note needs. -/
def ofLevel : Note.Level → Verbosity
  | .debug => debug
  | .trace => trace

end Verbosity

/-- A directive: the greatest verbosity for the topics that begin with a name, or for all. -/
structure Directive where
  topic : Option String
  verbosity : Verbosity
  deriving DecidableEq

/-- The length of the name in a directive, by which directives are ranked. -/
def Directive.weight (d : Directive) : Nat :=
  match d.topic with
  | some name => (Utf8.encode name).length
  | none => 0

/-- Whether a directive concerns a topic. -/
def Directive.concerns (d : Directive) (topic : String) : Bool :=
  match d.topic with
  | some name => name.toList.isPrefixOf topic.toList
  | none => true

/-- A filter: its directives, and the pattern that matches in the notes it shows. -/
structure NoteFilter where
  directives : List Directive
  pattern : Option Pattern

namespace NoteFilter

/-- The filter that shows nothing. -/
def silent : NoteFilter :=
  ⟨[⟨none, .off⟩], none⟩

/-- Adds a directive, in place of an earlier one with the same name. -/
def addDirective (directives : List Directive) (d : Directive) : List Directive :=
  if directives.any (·.topic = d.topic) then
    directives.map fun other => if other.topic = d.topic then d else other
  else directives ++ [d]

/-- Reads one directive. A name alone, or one with an empty verbosity, shows everything on its
topics; what is no directive gives a complaint. -/
def parseDirective (text : String) : Except String Directive :=
  match Text.split '=' text with
  | [name] =>
    match Verbosity.ofName? name with
    | some verbosity => .ok ⟨none, verbosity⟩
    | none => .ok ⟨some name, .trace⟩
  | [name, level] =>
    let level := Text.trim level
    if level = "" then .ok ⟨some name, .trace⟩
    else
      match Verbosity.ofName? level with
      | some verbosity => .ok ⟨some name, verbosity⟩
      | none => .error ("warning: invalid logging spec '" ++ level ++ "', ignoring it")
  | _ => .error ("warning: invalid logging spec '" ++ text ++ "', ignoring it")

/-- Reads the directives of a filter; those that are empty are passed over. -/
def parseDirectives : List String → List Directive × List String
  | [] => ([], [])
  | part :: rest =>
    let (directives, complaints) := parseDirectives rest
    let part := Text.trim part
    if part = "" then (directives, complaints)
    else
      match parseDirective part with
      | .ok d => (d :: directives, complaints)
      | .error complaint => (directives, complaint :: complaints)

/-- The filter that a text describes, and the complaints about parts of it. What is no pattern behind
the slash is passed over with a complaint, and a second slash spoils the whole filter. -/
def parse (spec : String) : NoteFilter × List String :=
  let read (directives : String) (pattern : Option Pattern) : NoteFilter × List String :=
    let (read, complaints) := parseDirectives (Text.split ',' directives)
    (⟨read.foldl addDirective [], pattern⟩, complaints)
  match Text.split '/' spec with
  | [directives] => read directives none
  | [directives, text] =>
    match Pattern.ofText? text with
    | some pattern => read directives (some pattern)
    | none =>
      let (filter, complaints) := read directives none
      (filter, complaints ++ ["warning: invalid pattern '" ++ text ++ "', ignoring it"])
  | _ =>
    (silent, ["warning: invalid logging spec '" ++ spec ++ "' (too many '/'s), ignoring it"])

/-- The greatest verbosity for a topic: that of the directive with the longest name among those that
concern it, of several the last one. Without directives only errors are shown, and a topic that no
directive concerns is not shown. -/
def verbosityOf (filter : NoteFilter) (topic : String) : Verbosity :=
  if filter.directives.isEmpty then .error
  else
    let better (best : Option Directive) (d : Directive) : Option Directive :=
      match best with
      | none => some d
      | some held => if held.weight ≤ d.weight then some d else some held
    match (filter.directives.filter (·.concerns topic)).foldl better none with
    | some d => d.verbosity
    | none => .off

/-- Whether a filter shows a note. -/
def shows (filter : NoteFilter) (note : Note) : Bool :=
  (Verbosity.ofLevel note.level).rank ≤ (filter.verbosityOf note.topic).rank &&
    match filter.pattern with
    | none => true
    | some pattern => pattern.occursIn note.message

end NoteFilter

end DiagnosticDigest
