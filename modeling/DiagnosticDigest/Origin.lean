/-!
# Origins of input

Where input comes from: the standard input, which the argument `-` stands for, or a file.

## Main definitions

* `Origin`: the standard input or a file.
* `Origin.ofArgument`: the origin that an argument names.
-/

namespace DiagnosticDigest

/-- Where input comes from. -/
inductive Origin where
  | standardInput
  | file (path : String)
  deriving DecidableEq

namespace Origin

/-- How messages name an origin. -/
def label : Origin → String
  | standardInput => "stdin"
  | file path => path

/-- The origin that an argument names. -/
def ofArgument (argument : String) : Origin :=
  if argument = "-" then standardInput else file argument

/-- The origins that arguments name; without arguments, the standard input. -/
def ofArguments : List String → List Origin
  | [] => [standardInput]
  | arguments => arguments.map ofArgument

end Origin

end DiagnosticDigest
