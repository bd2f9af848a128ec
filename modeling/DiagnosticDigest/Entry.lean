import DiagnosticDigest.Severity

/-!
# Entries

An entry is one diagnostic as a report shows it. Place and message are kept as text, so that
whatever a record carried is given back unchanged.

## Main definitions

* `Entry`: severity, place and message of a diagnostic.
* `Entry.line`: the line that stands for an entry in a report.
-/

namespace DiagnosticDigest

/-- One diagnostic: its severity, the place of its first span, and its message. -/
structure Entry where
  severity : Severity
  fileName : String
  lineStart : String
  message : String
  deriving DecidableEq

/-- The line of an entry is `level|file:line|message`. Nothing in it is escaped, so separators inside
the parts stay as they are. -/
def Entry.line (e : Entry) : String :=
  e.severity.label ++ "|" ++ e.fileName ++ ":" ++ e.lineStart ++ "|" ++ e.message

end DiagnosticDigest
