import DiagnosticDigest.Digest
import DiagnosticDigest.Dismissal
import DiagnosticDigest.Stream.Source

/-!
# Collecting a stream

A stream is taken in byte by byte. Whenever a line is complete it is folded into the digest, so what
was complete before a failure stays; the line that a failure interrupts is lost.

## Main definitions

* `Collection`: the digest so far, how many lines were read, and what was noted.
* `Collection.addLine`: taking in a complete line.
* `Intake`: a collection with the line that is being read.
* `collect`: taking in a whole source.
* `Digest.ofSource`: the digest of a source that is read to its end.
-/

namespace DiagnosticDigest

/-- What has been collected: the digest, the number of lines read, and the notes on them. -/
structure Collection where
  digest : Digest
  lines : Nat
  notes : List Note

/-- Nothing read yet, on top of a digest. -/
def Collection.start (d : Digest) : Collection :=
  ⟨d, 0, []⟩

/-- Takes in a complete line. Every line counts, and at most one note is made on it. -/
def Collection.addLine (c : Collection) (bytes : List UInt8) : Collection :=
  let number := c.lines + 1
  match Entry.ofBytes bytes with
  | .error dismissal => ⟨c.digest, number, c.notes ++ (dismissal.note? number).toList⟩
  | .ok entry =>
    if c.digest.isNew entry then ⟨c.digest.insert entry, number, c.notes⟩
    else ⟨c.digest, number, c.notes ++ [.duplicate entry]⟩

/-- A collection, and the bytes of the line that is being read, the latest first. -/
structure Intake where
  collection : Collection
  pending : List UInt8

namespace Intake

/-- The byte that ends a line. -/
def lineFeed : UInt8 := 10

/-- Takes in a byte. A line feed belongs to the line that it ends. -/
def addByte (s : Intake) (b : UInt8) : Intake :=
  if b = lineFeed then ⟨s.collection.addLine (b :: s.pending).reverse, []⟩
  else ⟨s.collection, b :: s.pending⟩

/-- Takes in the last line at the end of a stream, where it needs no line feed. -/
def finish (s : Intake) : Collection :=
  if s.pending.isEmpty then s.collection else s.collection.addLine s.pending.reverse

/-- Takes in what a source delivers, up to its end or its first failure. -/
def drain (s : Intake) : Source → Collection × Option Failure
  | [] => (s.finish, none)
  | .piece first more :: rest => drain ((first :: more).foldl addByte s) rest
  | .interrupted :: rest => drain s rest
  | .failure reason :: _ => (s.collection, some reason)

end Intake

/-- Takes in a source on top of a digest. -/
def collect (d : Digest) (source : Source) : Collection × Option Failure :=
  Intake.drain ⟨Collection.start d, []⟩ source

/-- The digest of a source that is read to its end, or the failure that cut it off. -/
def Digest.ofSource (source : Source) : Except Failure Digest :=
  match collect Digest.empty source with
  | (c, none) => .ok c.digest
  | (_, some reason) => .error reason

end DiagnosticDigest
