import DiagnosticDigest.Digest

/-!
# Reports

A report prints a digest in two sections, the errors before the warnings, with a blank line between
them. Within a section the lines stand in the order of the set.

## Main definitions

* `Report.lines`: the lines of a report.
* `Report.text`: the whole report, every line ended by a line feed.
-/

namespace DiagnosticDigest.Report

/-- The line over the errors. -/
def errorsHeader : String := "=== ERRORS ==="

/-- The line over the warnings. -/
def warningsHeader : String := "=== WARNINGS ==="

/-- The lines of the report on a digest. -/
def lines (d : Digest) : List String :=
  errorsHeader :: d.errors.lines ++ "" :: warningsHeader :: d.warnings.lines

/-- Lines as they are printed, each with a line feed after it. -/
def printed : List String → String
  | [] => ""
  | line :: rest => line ++ "\n" ++ printed rest

/-- The report on a digest. -/
def text (d : Digest) : String :=
  printed (lines d)

end DiagnosticDigest.Report
