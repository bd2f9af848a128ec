import DiagnosticDigest.Collection
import DiagnosticDigest.Trouble

/-!
# Gathering inputs

The inputs of a run are taken in one after the other, each a stream of its own. The first one that
cannot be opened or read stops the run.

## Main definitions

* `Files`: what opening a path gives.
* `Gathering`: the digest of the inputs so far and the notes on them.
* `gather`: taking in all inputs.
-/

namespace DiagnosticDigest

/-- What opening a path gives: a source, or why there is none. -/
abbrev Files := String → Except Failure Source

/-- The digest of the inputs so far, and all notes. -/
structure Gathering where
  digest : Digest
  notes : List Note

namespace Gathering

/-- Nothing taken in. -/
def start : Gathering :=
  ⟨Digest.empty, []⟩

/-- Takes in the source of an origin. How many lines it had is noted only if it ended well. -/
def addSource (g : Gathering) (origin : Origin) (source : Source) : Gathering × Option Trouble :=
  match collect g.digest source with
  | (c, none) => (⟨c.digest, g.notes ++ c.notes ++ [.linesRead c.lines origin]⟩, none)
  | (c, some reason) => (⟨c.digest, g.notes ++ c.notes⟩, some (.reading origin reason))

/-- Takes in origins in order. The standard input can be read once; after that it is at its end. -/
def addOrigins (files : Files) (stdin : Source) (g : Gathering) :
    List Origin → Gathering × Option Trouble
  | [] => (g, none)
  | .standardInput :: rest =>
    match g.addSource .standardInput stdin with
    | (g, none) => addOrigins files [] g rest
    | (g, some trouble) => (g, some trouble)
  | .file path :: rest =>
    match files path with
    | .error reason => (g, some (.opening path reason))
    | .ok source =>
      match g.addSource (.file path) source with
      | (g, none) => addOrigins files stdin g rest
      | (g, some trouble) => (g, some trouble)

end Gathering

/-- Takes in the inputs that arguments name. -/
def gather (files : Files) (stdin : Source) (arguments : List String) :
    Gathering × Option Trouble :=
  Gathering.start.addOrigins files stdin (Origin.ofArguments arguments)

end DiagnosticDigest
