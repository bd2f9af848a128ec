import DiagnosticDigest.Entry
import DiagnosticDigest.Json.Fault
import DiagnosticDigest.Origin
import DiagnosticDigest.Stream.Failure
import DiagnosticDigest.Text.Quoted

/-!
# Notes

While it works, the program notes what it skips and how far it is. Notes are values: a result carries
the list of them, and whether they are shown is decided elsewhere.

## Main definitions

* `Note`: what is noted.
* `Note.level`, `Note.message`: how important a note is, and its wording.
-/

namespace DiagnosticDigest

/-- What the program notes. -/
inductive Note where
  | malformed (fault : Json.Fault) (text : String)
  | unknownLevel (level : String)
  | spanless (severity : Severity)
  | undecodable (line : Nat) (fault : Utf8.Fault)
  | duplicate (entry : Entry)
  | linesRead (count : Nat) (origin : Origin)
  | outputClosed (reason : Failure)
  | collected (errors warnings : Nat)
  deriving DecidableEq

namespace Note

/-- How important a note is: one about a single line, or one about the run. -/
inductive Level where
  | trace
  | debug
  deriving DecidableEq

/-- The name of a level. -/
def Level.name : Level → String
  | trace => "TRACE"
  | debug => "DEBUG"

/-- The level of a note. -/
def level : Note → Level
  | linesRead _ _ | outputClosed _ | collected _ _ => .debug
  | _ => .trace

/-- The wording of a note. -/
def message : Note → String
  | malformed fault text =>
    "Skipping malformed line (" ++ fault.describe text ++ "): " ++ text
  | unknownLevel level => "Ignoring diagnostic with level " ++ Text.quoted level
  | spanless severity => "Dropping " ++ severity.label ++ " without a span"
  | undecodable line fault =>
    "Skipping line " ++ toString line ++ " with invalid UTF-8: " ++ fault.message
  | duplicate entry => "Duplicate entry: " ++ entry.line
  | linesRead count origin => "Read " ++ toString count ++ " lines from " ++ origin.label
  | outputClosed reason => "stdout closed early: " ++ reason.text
  | collected errors warnings =>
    "Collected " ++ toString errors ++ " errors and " ++ toString warnings ++ " warnings"

end Note

end DiagnosticDigest
