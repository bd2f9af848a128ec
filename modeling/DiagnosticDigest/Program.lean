import DiagnosticDigest.CommandLine.Parse
import DiagnosticDigest.Gathering
import DiagnosticDigest.Note.Filter
import DiagnosticDigest.Report.Print

/-!
# The program

A run of the program, from its arguments to its exit code, as a function of what it can read and of
where it writes.

## Main definitions

* `Program.Outcome`: what a run leaves behind.
* `Program.run`: a run with given arguments.
-/

namespace DiagnosticDigest.Program

/-- What a run leaves behind: its exit code, its output, its error text, and its notes. -/
structure Outcome where
  exitCode : Nat
  output : Sink
  errorText : String
  notes : List Note

/-- Takes in the inputs and prints the report. Nothing is printed unless all inputs could be read. -/
def digest (files : Files) (stdin : Source) (stdout : Sink) (inputs : List String) : Outcome :=
  match gather files stdin inputs with
  | (g, some trouble) => ⟨1, stdout, trouble.message, g.notes⟩
  | (g, none) =>
    let notes := g.notes ++ [.collected g.digest.errors.size g.digest.warnings.size]
    match Report.deliver g.digest stdout with
    | ⟨sink, none, more⟩ => ⟨0, sink, "", notes ++ more⟩
    | ⟨sink, some trouble, more⟩ => ⟨1, sink, trouble.message, notes ++ more⟩

/-- Prints the version. That it cannot be printed is fatal. -/
def printVersion (stdout : Sink) : Outcome :=
  match stdout.writeAll (Utf8.encode CommandLine.versionLine) with
  | (sink, none) => ⟨0, sink, "", []⟩
  | (sink, some reason) => ⟨101, sink, "failed printing to stdout: " ++ reason.text ++ "\n", []⟩

/-- Prints what stops the reading of the arguments: help on the output, faults on the error output,
where a control sequence that white space interrupts goes on behind it. -/
def stop (stdout : Sink) (reason : CommandLine.Stop) : Outcome :=
  let text := reason.message .resumed
  match reason with
  | .help _ => ⟨reason.exitCode, (stdout.writeAll (Utf8.encode text)).1, "", []⟩
  | .fault _ => ⟨reason.exitCode, stdout, text, []⟩

/-- A run with given arguments. Asking for the version keeps it from reading any input. -/
def run (files : Files) (stdin : Source) (stdout : Sink) (arguments : List String) : Outcome :=
  match CommandLine.parse (CommandLine.withoutSubcommand arguments) with
  | .error reason => stop stdout reason
  | .ok options =>
    if options.version then printVersion stdout
    else digest files stdin stdout options.inputs

/-- What a run shows on the error output under a filter: complaints about the filter, the notes that
it shows, and the error text. -/
def Outcome.shown (o : Outcome) (filter : NoteFilter) (complaints : List String) : List String :=
  complaints ++ (o.notes.filter filter.shows).map (fun note => note.message) ++
    (if o.errorText = "" then [] else [o.errorText])

end DiagnosticDigest.Program
