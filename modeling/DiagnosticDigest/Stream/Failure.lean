/-!
# Failures of streams

Why a stream could not be opened, read or written. What the program does depends on the kind of the
failure only where a reader has gone away; everywhere else a failure is passed on with its text.

## Main definitions

* `Failure.Kind`, `Failure`: a kind of failure, and a failure with its text.
* `Failure.noSuchFile` and the others: the failures of a file system.
-/

namespace DiagnosticDigest

/-- The kinds of failures: an interruption, a pipe that nobody reads any more, a sink that takes no
byte, and all others by their names. -/
inductive Failure.Kind where
  | interrupted
  | brokenPipe
  | writeZero
  | named (name : String)
  deriving DecidableEq

/-- The name of a kind. -/
def Failure.Kind.name : Failure.Kind → String
  | interrupted => "Interrupted"
  | brokenPipe => "BrokenPipe"
  | writeZero => "WriteZero"
  | named name => name

/-- The kind with a name. -/
def Failure.Kind.ofName (name : String) : Failure.Kind :=
  if name = "Interrupted" then interrupted
  else if name = "BrokenPipe" then brokenPipe
  else if name = "WriteZero" then writeZero
  else named name

/-- A failure: its kind and the text that tells it. -/
structure Failure where
  kind : Failure.Kind
  text : String
  deriving DecidableEq

namespace Failure

/-- A sink took no byte of what was offered. -/
def tookNothing : Failure :=
  ⟨.writeZero, "failed to write whole buffer"⟩

/-- The reader of a pipe has gone away. -/
def closedPipe : Failure :=
  ⟨.brokenPipe, "Broken pipe (os error 32)"⟩

/-- A device is full. -/
def deviceFull : Failure :=
  ⟨.named "StorageFull", "No space left on device (os error 28)"⟩

/-- A path leads to nothing. -/
def noSuchFile : Failure :=
  ⟨.named "NotFound", "No such file or directory (os error 2)"⟩

/-- A path goes through something that is not a directory. -/
def notDirectory : Failure :=
  ⟨.named "NotADirectory", "Not a directory (os error 20)"⟩

/-- A directory cannot be read as a file. -/
def isDirectory : Failure :=
  ⟨.named "IsADirectory", "Is a directory (os error 21)"⟩

/-- A path, or a name in it, is too long. -/
def nameTooLong : Failure :=
  ⟨.named "InvalidFilename", "File name too long (os error 36)"⟩

/-- A path holds the character that ends paths. -/
def nulInPath : Failure :=
  ⟨.named "InvalidInput", "file name contained an unexpected NUL byte"⟩

end Failure

end DiagnosticDigest
