import DiagnosticDigest.Note
import DiagnosticDigest.Report
import DiagnosticDigest.Stream.Sink
import DiagnosticDigest.Trouble

/-!
# Printing a report

A report is written to a sink line by line, the text of a line before its line feed, and then flushed. That nobody reads the output any more
ends a run quietly; every other failure is a trouble.

## Main definitions

* `Report.print`: writing the report on a digest to a sink.
* `Report.Printing`, `Report.deliver`: the same, with failures told apart.
-/

namespace DiagnosticDigest.Report

/-- The pieces that lines are written in: the text of each, and its line feed by itself. -/
def pieces (lines : List String) : List (List UInt8) :=
  lines.flatMap fun line => [Utf8.encode line, Utf8.encode "\n"]

/-- Writes lines, the text of each and then its line feed, up to the first failure. Of a line without
text only the line feed is offered: a write of no bytes makes no offer. -/
def printLines (s : Sink) (lines : List String) : Sink × Option Failure :=
  s.writeEach (pieces lines)

/-- Writes the report on a digest and flushes the sink. -/
def print (d : Digest) (s : Sink) : Sink × Option Failure :=
  match printLines s (lines d) with
  | (s, none) => (s, s.flush)
  | (s, some reason) => (s, some reason)

/-- How printing a report went: the sink after it, a trouble if there is one, and what is noted. -/
structure Printing where
  sink : Sink
  trouble : Option Trouble
  notes : List Note

/-- Prints the report on a digest. A closed pipe is noted and nothing else. -/
def deliver (d : Digest) (s : Sink) : Printing :=
  match print d s with
  | (s, none) => ⟨s, none, []⟩
  | (s, some reason) =>
    if reason.kind = .brokenPipe then ⟨s, none, [.outputClosed reason]⟩
    else ⟨s, some (.writing reason), []⟩

end DiagnosticDigest.Report
