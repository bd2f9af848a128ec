/-!
# Usage of the program

The texts that tell how the program is called: its name and version, the line on usage, and the two
helps.

## Main definitions

* `CommandLine.Flag`: the flags of the program.
* `CommandLine.Usage`: what a line on usage dwells on, with its `Ending`; `Usage.line`, its text.
* `CommandLine.shortHelp`, `CommandLine.longHelp`: the helps.
-/

namespace DiagnosticDigest.CommandLine

/-- The name under which the program is called. -/
def programName : String := "cargo-ediag"

/-- The line that tells the version. -/
def versionLine : String := programName ++ " 0.1.0\n"

/-- The flags of the program. -/
inductive Flag where
  | version
  | help
  deriving DecidableEq

namespace Flag

/-- The long name of a flag, without its dashes. -/
def longName : Flag → String
  | version => "version"
  | help => "help"

/-- A flag as it is written in messages. -/
def label (f : Flag) : String :=
  "--" ++ f.longName

/-- The flag with a long name. -/
def ofLongName? (name : String) : Option Flag :=
  if name = "version" then some version
  else if name = "help" then some help
  else none

/-- The flag with a letter. -/
def ofLetter? (letter : Char) : Option Flag :=
  if letter = 'v' then some version
  else if letter = 'h' then some help
  else none

end Flag

/-- How a line on usage ends: inputs may stand there, inputs stand there, or one of all that the
program takes. -/
inductive Ending where
  | anyInputs
  | someInputs
  | anything
  deriving DecidableEq

/-- The ending of a line on usage, as it is written. -/
def Ending.text : Ending → String
  | anyInputs => "[INPUT]..."
  | someInputs => "<INPUT>..."
  | anything => "<" ++ Flag.version.label ++ "|INPUT>"

/-- What a line on usage dwells on: flags that were given or meant, and what else may stand there. -/
structure Usage where
  flags : List Flag
  ending : Ending
  deriving DecidableEq

/-- The usage in general. -/
def Usage.general : Usage :=
  ⟨[], .anyInputs⟩

/-- The text of a line on usage. -/
def Usage.line (u : Usage) : String :=
  "Usage: " ++ programName ++ String.join (u.flags.map fun f => " " ++ f.label) ++ " " ++
    u.ending.text

/-- The help that fits on a few lines. -/
def shortHelp : String :=
  "Filter cargo's JSON diagnostics down to a sorted list of errors and warnings.\n\n" ++
  Usage.general.line ++ "\n\n" ++
  "Arguments:\n" ++
  "  [INPUT]...  JSON-lines files to read instead of stdin. Use - for stdin.\n\n" ++
  "Options:\n" ++
  "  -v, --version  Print version and exit.\n" ++
  "  -h, --help     Print help (see more with '--help')\n"

/-- The help that tells everything. -/
def longHelp : String :=
  "Reads `cargo build --message-format=json` output (one JSON record per line) " ++
  "and prints every unique error and warning as `level|file:line|message`.\n\n" ++
  Usage.general.line ++ "\n\n" ++
  "Arguments:\n" ++
  "  [INPUT]...\n" ++
  "          JSON-lines files to read instead of stdin. Use - for stdin.\n\n" ++
  "Options:\n" ++
  "  -v, --version\n" ++
  "          Print version and exit.\n\n" ++
  "  -h, --help\n" ++
  "          Print help (see a summary with '-h')\n"

end DiagnosticDigest.CommandLine
