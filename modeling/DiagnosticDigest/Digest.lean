import DiagnosticDigest.Entry
import DiagnosticDigest.LineSet

/-!
# Digests

A digest is what a run has kept so far: the lines of its errors and the lines of its warnings. Two
entries with the same line are kept once.

## Main definitions

* `Digest`: the two sets of lines.
* `Digest.insert`, `Digest.isNew`: taking in an entry, and whether that adds a line;
  `mem_linesOf_insert` says which lines there are afterwards.
* `Digest.insertAll`, `Digest.ofEntries`: taking in many.
-/

namespace DiagnosticDigest

/-- The errors and the warnings of a run, each as a set of lines. -/
@[ext] structure Digest where
  errors : LineSet
  warnings : LineSet
  deriving DecidableEq, Inhabited

namespace Digest

/-- The digest of no entries. -/
def empty : Digest :=
  ⟨∅, ∅⟩

/-- The lines of one severity. -/
def linesOf (d : Digest) : Severity → LineSet
  | .error => d.errors
  | .warning => d.warnings

@[simp] theorem notMem_linesOf_empty (severity : Severity) (line : String) :
    line ∉ empty.linesOf severity := by
  cases severity <;> exact LineSet.notMem_empty line

/-- How many lines a digest holds. -/
def size (d : Digest) : Nat :=
  d.errors.size + d.warnings.size

/-- Whether a digest holds no line. -/
def isEmpty (d : Digest) : Bool :=
  d.errors.lines.isEmpty && d.warnings.lines.isEmpty

/-- Puts a line into the set of one severity. -/
def insertLine (d : Digest) (severity : Severity) (line : String) : Digest :=
  match severity with
  | .error => { d with errors := d.errors.insert line }
  | .warning => { d with warnings := d.warnings.insert line }

/-- A line that is put into the set of one severity is found there, and the other set stays. -/
theorem mem_linesOf_insertLine {d : Digest} {severity other : Severity} {line held : String} :
    held ∈ (d.insertLine severity line).linesOf other ↔
      (other = severity ∧ held = line) ∨ held ∈ d.linesOf other := by
  cases severity <;> cases other <;> simp [insertLine, linesOf]

/-- Takes in an entry: its line goes to the set of its severity. -/
def insert (d : Digest) (e : Entry) : Digest :=
  d.insertLine e.severity e.line

@[simp] theorem mem_linesOf_insert {d : Digest} {e : Entry} {severity : Severity} {line : String} :
    line ∈ (d.insert e).linesOf severity ↔
      (severity = e.severity ∧ line = e.line) ∨ line ∈ d.linesOf severity :=
  mem_linesOf_insertLine

/-- Whether taking in an entry adds a line. -/
def isNew (d : Digest) (e : Entry) : Bool :=
  decide (e.line ∉ d.linesOf e.severity)

/-- An entry whose line is there already changes nothing. -/
theorem insert_of_not_isNew {d : Digest} {e : Entry} (h : d.isNew e = false) : d.insert e = d := by
  have hmem : e.line ∈ d.linesOf e.severity := by simpa [isNew] using h
  cases hseverity : e.severity <;>
    simp only [hseverity, linesOf] at hmem <;>
    simp [insert, insertLine, hseverity, LineSet.insert_of_mem hmem]

/-- Takes in entries one after the other. -/
def insertAll (d : Digest) (entries : List Entry) : Digest :=
  entries.foldl insert d

/-- The digest of a list of entries. -/
def ofEntries (entries : List Entry) : Digest :=
  empty.insertAll entries

end Digest

end DiagnosticDigest
