/-!
# Severities

The two levels of diagnostics that a digest keeps. Every other level is dropped before an entry is
made.

## Main definitions

* `Severity`: error or warning.
* `Severity.label`, `Severity.ofLabel?`: the written name of a severity, and how it is read.
-/

namespace DiagnosticDigest

/-- The levels that a digest keeps, the graver one first. -/
inductive Severity where
  | error
  | warning
  deriving DecidableEq, Ord

namespace Severity

/-- The name that stands for a severity in messages and in lines of a report. -/
def label : Severity → String
  | error => "error"
  | warning => "warning"

/-- A severity is read from exactly its label: case and surrounding blanks count. -/
def ofLabel? (level : String) : Option Severity :=
  if level = "error" then some error
  else if level = "warning" then some warning
  else none

@[simp] theorem ofLabel?_label (s : Severity) : ofLabel? s.label = some s := by
  cases s <;> decide

theorem eq_label_of_ofLabel? {level : String} {s : Severity} (h : ofLabel? level = some s) :
    level = s.label := by
  unfold ofLabel? at h
  split at h
  · cases h; assumption
  · split at h
    · cases h; assumption
    · cases h

end Severity

end DiagnosticDigest
