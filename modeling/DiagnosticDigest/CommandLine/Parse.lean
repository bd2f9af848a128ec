import DiagnosticDigest.CommandLine.Similarity
import DiagnosticDigest.CommandLine.Usage
import DiagnosticDigest.Text.Terminal

/-!
# Reading the command line

Arguments are read from left to right, and the first thing that stops the reading counts: a request
for help, or a fault. Everything behind `--` is an input, and so is a lone `-`. Whether an input is
empty is checked when a flag follows, or at the end.

## Main definitions

* `CommandLine.Options`: what the arguments ask for.
* `CommandLine.Fault`, `CommandLine.Stop`: faults, and what stops the reading.
* `CommandLine.parse`: the options of a list of arguments.
-/

namespace DiagnosticDigest.CommandLine

/-- What the arguments ask for. -/
structure Options where
  version : Bool
  inputs : List String
  deriving DecidableEq

/-- What can be wrong with arguments. -/
inductive Fault where
  | unknown (argument : String) (meant : Option Flag) (usage : Usage)
  | repeated (flag : Flag)
  | unexpectedValue (flag : Flag) (value : String) (usage : Usage)
  | emptyInput
  deriving DecidableEq

/-- What stops the reading: a request for one of the helps, or a fault. -/
inductive Stop where
  | help (long : Bool)
  | fault (f : Fault)
  deriving DecidableEq

namespace Fault

/-- The name of the kind of a fault. -/
def kind : Fault → String
  | unknown _ _ _ => "UnknownArgument"
  | repeated _ => "ArgumentConflict"
  | unexpectedValue _ _ _ => "TooManyValues"
  | emptyInput => "InvalidValue"

/-- What a fault consists in, with a hint where there is one. Of what was written on the command line
only that is repeated which shows on a terminal. -/
def complaint (interruption : Terminal.Interruption) : Fault → String
  | unknown argument none _ =>
    let argument := Terminal.strip interruption argument
    "unexpected argument '" ++ argument ++ "' found\n\n  tip: to pass '" ++ argument ++
      "' as a value, use '-- " ++ argument ++ "'"
  | unknown argument (some flag) _ =>
    "unexpected argument '" ++ Terminal.strip interruption argument ++
      "' found\n\n  tip: a similar argument exists: '" ++ flag.label ++ "'"
  | repeated flag => "the argument '" ++ flag.label ++ "' cannot be used multiple times"
  | unexpectedValue flag value _ =>
    "unexpected value '" ++ Terminal.strip interruption value ++ "' for '" ++ flag.label ++
      "' found; no more were expected"
  | emptyInput => "a value is required for '[INPUT]...' but none was supplied"

/-- The usage that a fault recalls, if any. -/
def usage? : Fault → Option Usage
  | unknown _ _ usage | unexpectedValue _ _ usage => some usage
  | repeated _ => some Usage.general
  | emptyInput => none

/-- The message on a fault. -/
def message (f : Fault) (interruption : Terminal.Interruption) : String :=
  "error: " ++ f.complaint interruption ++
    (match f.usage? with
      | some usage => "\n\n" ++ usage.line
      | none => "") ++
    "\n\nFor more information, try '--help'.\n"

end Fault

namespace Stop

/-- The name of the kind of a stop. -/
def kind : Stop → String
  | help _ => "DisplayHelp"
  | fault f => f.kind

/-- The text that a stop ends with. -/
def message (s : Stop) (interruption : Terminal.Interruption) : String :=
  match s with
  | help true => longHelp
  | help false => shortHelp
  | fault f => f.message interruption

/-- The exit code that a stop ends with. -/
def exitCode : Stop → Nat
  | help _ => 0
  | fault _ => 2

end Stop

/-! ## Similar flags -/

/-- The flag whose long name resembles a name most, if one resembles it enough. -/
def similarFlag? (name : String) : Option Flag :=
  let version := Similarity.degree name.toList Flag.version.longName.toList
  let help := Similarity.degree name.toList Flag.help.longName.toList
  if 0.7 < help && version ≤ help then some .help
  else if 0.7 < version then some .version
  else none

/-! ## Reading -/

/-- How far the reading is: whether the version was asked for, the inputs that have been checked, and
those that have not. -/
structure Progress where
  version : Bool
  checked : List String
  unchecked : List String

namespace Progress

/-- Nothing read. -/
def start : Progress :=
  ⟨false, [], []⟩

/-- The flags that were given. -/
def flags (p : Progress) : List Flag :=
  if p.version then [.version] else []

/-- Takes in an input. -/
def addInput (p : Progress) (argument : String) : Progress :=
  { p with unchecked := p.unchecked ++ [argument] }

/-- Checks the inputs that have not been checked: none of them may be empty. -/
def check (p : Progress) : Except Stop Progress :=
  if "" ∈ p.unchecked then .error (.fault .emptyInput)
  else .ok { p with checked := p.checked ++ p.unchecked, unchecked := [] }

/-- Takes in a flag. -/
def addFlag (p : Progress) (flag : Flag) (long : Bool) : Except Stop Progress :=
  match p.check with
  | .error stop => .error stop
  | .ok p =>
    match flag with
    | .help => .error (.help long)
    | .version =>
      if p.version then .error (.fault (.repeated .version)) else .ok { p with version := true }

/-- The usage that a value for a flag recalls. Once the version has been asked for, it and the inputs
are recalled as the one choice that they are. -/
def usageOfValue (p : Progress) (flag : Flag) : Usage :=
  if p.version then ⟨if flag = .version then [] else [flag], .anything⟩
  else ⟨[flag], .anyInputs⟩

/-- The usage that an unknown flag recalls: the flags that were given, the one that was meant, and
whether there were inputs. -/
def usageOfUnknown (p : Progress) (meant : Option Flag) : Usage :=
  let flags :=
    match meant with
    | some flag => if flag ∈ p.flags then p.flags else p.flags ++ [flag]
    | none => p.flags
  ⟨flags, if p.checked.isEmpty && p.unchecked.isEmpty then .anyInputs else .someInputs⟩

/-- Takes in a flag by its long name, perhaps with a value, which no flag takes. -/
def addLong (p : Progress) (name : String) (value : Option String) : Except Stop Progress :=
  match Flag.ofLongName? name, value with
  | some flag, none => p.addFlag flag true
  | some flag, some value =>
    .error (.fault (.unexpectedValue flag value (p.usageOfValue flag)))
  | none, _ =>
    let meant := similarFlag? name
    .error (.fault (.unknown ("--" ++ name) meant (p.usageOfUnknown meant)))

/-- Takes in a cluster of flags by their letters. -/
def addLetters (p : Progress) : List Char → Except Stop Progress
  | [] => .ok p
  | letter :: rest =>
    match Flag.ofLetter? letter with
    | none => .error (.fault (.unknown (String.ofList ['-', letter]) none Usage.general))
    | some flag =>
      match p.addFlag flag false with
      | .error stop => .error stop
      | .ok p => addLetters p rest

end Progress

/-- An argument before `--`, by its form. -/
inductive Argument where
  | separator
  | long (name : String) (value : Option String)
  | letters (letters : List Char)
  | input
  deriving DecidableEq

/-- The form of an argument. A long flag ends at the first equals sign, behind which its value
stands. -/
def Argument.ofChars : List Char → Argument
  | ['-', '-'] => .separator
  | '-' :: '-' :: text =>
    let name := String.ofList (text.takeWhile (· ≠ '='))
    match text.dropWhile (· ≠ '=') with
    | [] => .long name none
    | _ :: value => .long name (some (String.ofList value))
  | '-' :: letter :: rest => .letters (letter :: rest)
  | _ => .input

/-- Reads arguments on top of what has been read. -/
def parseFrom (p : Progress) : List String → Except Stop Progress
  | [] => p.check
  | argument :: rest =>
    match Argument.ofChars argument.toList with
    | .separator => Progress.check { p with unchecked := p.unchecked ++ rest }
    | .input => parseFrom (p.addInput argument) rest
    | .long name value =>
      match p.addLong name value with
      | .error stop => .error stop
      | .ok p => parseFrom p rest
    | .letters letters =>
      match p.addLetters letters with
      | .error stop => .error stop
      | .ok p => parseFrom p rest

/-- The options that arguments ask for, or what stops the reading. -/
def parse (arguments : List String) : Except Stop Options :=
  match parseFrom Progress.start arguments with
  | .error stop => .error stop
  | .ok p => .ok ⟨p.version, p.checked⟩

/-- The arguments behind the name under which the program is called as a subcommand. -/
def withoutSubcommand : List String → List String
  | first :: rest => if first = "ediag" then rest else first :: rest
  | [] => []

end DiagnosticDigest.CommandLine
