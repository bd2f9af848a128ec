import DiagnosticDigest.Program

/-!
# The executable

Reads the inputs that the arguments name, hands them to `Program.run`, and writes what the run
leaves behind. Everything that is decided is decided there.
-/

namespace DiagnosticDigest.Executable

/-- A failure of the operating system. -/
def failureOf : IO.Error → Failure
  | .noFileOrDirectory _ _ _ => .noSuchFile
  | .inappropriateType _ code _ => if code = 21 then .isDirectory else .notDirectory
  | .resourceVanished _ _ => .closedPipe
  | .resourceExhausted _ _ _ => .deviceFull
  | other => ⟨.named "Other", toString other⟩

/-- Reads a stream to its end. -/
partial def readAll (stream : IO.FS.Stream) (done : ByteArray) : IO ByteArray := do
  let piece ← stream.read 65536
  if piece.isEmpty then return done else readAll stream (done ++ piece)

/-- The source that a reading action gives. -/
def sourceOf (read : IO ByteArray) : IO Source := do
  try
    return Source.whole (← read).data.toList
  catch error =>
    return [.failure (failureOf error)]

/-- Opens a file and reads it. -/
def openFile (path : String) : IO (Except Failure Source) := do
  if '\x00' ∈ path.toList then return .error .nulInPath
  try
    let handle ← IO.FS.Handle.mk path .read
    return .ok (← sourceOf handle.readBinToEnd)
  catch error =>
    return .error (failureOf error)

/-- What was read of the inputs: the files by their paths, and the standard input. -/
structure Inputs where
  files : List (String × Except Failure Source)
  stdin : Option Source

/-- Reads origins in order. -/
def readOrigins (inputs : Inputs) : List Origin → IO Inputs
  | [] => return inputs
  | .standardInput :: rest => do
    match inputs.stdin with
    | some _ => readOrigins inputs rest
    | none =>
      let source ← sourceOf (do readAll (← IO.getStdin) ByteArray.empty)
      readOrigins { inputs with stdin := some source } rest
  | .file path :: rest => do
    match ← openFile path with
    | .error reason => return { inputs with files := (path, .error reason) :: inputs.files }
    | .ok source =>
      readOrigins { inputs with files := (path, .ok source) :: inputs.files } rest

/-- The origins that a run with given arguments reads. -/
def origins (arguments : List String) : List Origin :=
  match CommandLine.parse (CommandLine.withoutSubcommand arguments) with
  | .error _ => []
  | .ok options => if options.version then [] else Origin.ofArguments options.inputs

/-- Writes the output of a run. -/
def writeOutput (outcome : Program.Outcome) : IO Unit := do
  let stdout ← IO.getStdout
  stdout.write ⟨outcome.output.arrived.toArray⟩
  stdout.flush

end DiagnosticDigest.Executable

open DiagnosticDigest Executable in
/-- Runs the program. If the output cannot be written, the run is taken up again with a sink that
refuses every byte for that reason. -/
def main (arguments : List String) : IO UInt32 := do
  let inputs ← readOrigins ⟨[], none⟩ (origins arguments)
  let files : Files := fun path => (inputs.files.lookup path).getD (.error .noSuchFile)
  let run (sink : Sink) := Program.run files (inputs.stdin.getD []) sink arguments
  let outcome ← try
      writeOutput (run Sink.unlimited)
      pure (run Sink.unlimited)
    catch error => pure (run (Sink.refusing (failureOf error)))
  let (filter, complaints) := match ← IO.getEnv "RUST_LOG" with
    | some spec => NoteFilter.parse spec
    | none => (NoteFilter.silent, [])
  let stderr ← IO.getStderr
  for line in outcome.shown filter complaints do
    stderr.putStr (if line.endsWith "\n" then line else line ++ "\n")
  return UInt32.ofNat outcome.exitCode
