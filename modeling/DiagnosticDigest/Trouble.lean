import DiagnosticDigest.Origin
import DiagnosticDigest.Stream.Failure

/-!
# Troubles

What stops a run: input that cannot be opened or read, or a report that cannot be written. Each
names what was being done and carries the failure behind it.

## Main definitions

* `Trouble`: what stopped a run.
* `Trouble.headline`, `Trouble.cause`, `Trouble.message`: its wording.
-/

namespace DiagnosticDigest

/-- What stops a run. -/
inductive Trouble where
  | opening (path : String) (reason : Failure)
  | reading (origin : Origin) (reason : Failure)
  | writing (reason : Failure)
  deriving DecidableEq

namespace Trouble

/-- What was being done. -/
def headline : Trouble → String
  | opening path _ => "Failed to open " ++ path
  | reading origin _ => "Failed to read " ++ origin.label
  | writing _ => "Failed to write report"

/-- The failure behind a trouble. -/
def cause : Trouble → Failure
  | opening _ reason | reading _ reason | writing reason => reason

/-- The message that a run ends with. -/
def message (t : Trouble) : String :=
  "Error: " ++ t.headline ++ "\n\nCaused by:\n    " ++ t.cause.text ++ "\n"

end Trouble

end DiagnosticDigest
