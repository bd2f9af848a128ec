import DiagnosticDigest.Stream.Failure

/-!
# Sources

A source is what successive reads of a stream give: pieces of bytes, interruptions that only mean
to read again, and perhaps a failure. It ends where the list ends.

## Main definitions

* `Delivery`, `Source`: the result of one read, and of all reads.
* `Source.whole`: bytes that arrive at once.
* `Source.inPieces`: bytes that arrive in pieces of a size, with or without interruptions.
-/

namespace DiagnosticDigest

/-- What one read of a stream gives. A piece is not empty, since an empty read is the end. -/
inductive Delivery where
  | piece (first : UInt8) (more : List UInt8)
  | interrupted
  | failure (reason : Failure)
  deriving DecidableEq

/-- What the reads of a stream give, in order. -/
abbrev Source := List Delivery

namespace Source

/-- The bytes that arrive before the first failure. -/
def bytes : Source → List UInt8
  | [] => []
  | .piece first more :: rest => first :: more ++ bytes rest
  | .interrupted :: rest => bytes rest
  | .failure _ :: _ => []

/-- Bytes that arrive at once. -/
def whole : List UInt8 → Source
  | [] => []
  | first :: more => [.piece first more]

@[simp] theorem bytes_whole (bs : List UInt8) : bytes (whole bs) = bs := by
  cases bs <;> simp [whole, bytes]

/-- Bytes that arrive in pieces of `extra + 1` bytes, the last one perhaps shorter, before each of
them an interruption if `interrupts`. -/
def inPieces (interrupts : Bool) (extra : Nat) : List UInt8 → Source
  | [] => []
  | first :: more =>
    (if interrupts then [.interrupted] else []) ++
      .piece first (more.take extra) :: inPieces interrupts extra (more.drop extra)
termination_by bs => bs.length
decreasing_by
  simp only [List.length_drop, List.length_cons]
  omega

theorem bytes_inPieces (interrupts : Bool) (extra : Nat) (bs : List UInt8) :
    bytes (inPieces interrupts extra bs) = bs := by
  fun_induction inPieces interrupts extra bs with
  | case1 => rfl
  | case2 first more ih => cases interrupts <;> simp [bytes, ih]

/-- Cuts a source off by a failure after some bytes, if it has that many. -/
def failingAfter (count : Nat) (reason : Failure) (cut : List UInt8 → Source) (bs : List UInt8) :
    Source :=
  if count ≤ bs.length then cut (bs.take count) ++ [.failure reason] else cut bs

end Source

end DiagnosticDigest
