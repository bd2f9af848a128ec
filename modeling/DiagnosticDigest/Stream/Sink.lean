import DiagnosticDigest.Stream.Failure

/-!
# Sinks

A sink takes bytes. It may take them in small pieces, interrupt, refuse bytes beyond its room, and
fail when it is flushed. Writing everything means to go on through pieces and interruptions until
all bytes are taken or the sink refuses.

## Main definitions

* `Sink.Manner`, `Sink`: how a sink answers an offer, and a sink with the bytes that arrived.
* `Sink.writeAll`, `Sink.writeEach`: writing bytes in one piece or in several.
* `Sink.flush`: flushing.
-/

namespace DiagnosticDigest

/-- How a sink answers one offer of bytes: not now, or by taking at most `extra + 1` of them. -/
inductive Sink.Manner where
  | interrupted
  | upTo (extra : Nat)
  deriving DecidableEq

/-- A sink. `room` is how many more bytes it takes, if there is a limit. Further ones it refuses with
a failure, or by taking none of them. The next offers are answered in the given manners, all later
ones by taking whatever there is room for. -/
structure Sink where
  arrived : List UInt8
  room : Option Nat
  refusal : Option Failure
  manners : List Sink.Manner
  flushFailure : Option Failure

namespace Sink

/-- A sink that takes everything. -/
def unlimited : Sink :=
  ⟨[], none, none, [], none⟩

/-- A sink that refuses every byte. -/
def refusing (reason : Failure) : Sink :=
  ⟨[], some 0, some reason, [], none⟩

/-- How many of `count` offered bytes there is room for. -/
def fitting (s : Sink) (count : Nat) : Nat :=
  match s.room with
  | none => count
  | some room => min room count

/-- The failure of a write that the sink has no room for. -/
def refusalFailure (s : Sink) : Failure :=
  s.refusal.getD .tookNothing

/-- The sink after it has taken bytes. -/
def take (s : Sink) (bytes : List UInt8) : Sink :=
  { s with
    arrived := s.arrived ++ bytes
    room := s.room.map (· - bytes.length) }

/-- Offers bytes until all are taken or the sink refuses; answers in the given manners first. -/
def offer (s : Sink) (bytes : List UInt8) : List Manner → Sink × Option Failure
  | [] =>
    let count := s.fitting bytes.length
    let taken := { s.take (bytes.take count) with manners := [] }
    if count < bytes.length then (taken, some s.refusalFailure) else (taken, none)
  | .interrupted :: manners =>
    if bytes.isEmpty then ({ s with manners := .interrupted :: manners }, none)
    else offer s bytes manners
  | .upTo extra :: manners =>
    if bytes.isEmpty then ({ s with manners := .upTo extra :: manners }, none)
    else
      let count := s.fitting (min (extra + 1) bytes.length)
      if count = 0 then ({ s with manners := manners }, some s.refusalFailure)
      else offer (s.take (bytes.take count)) (bytes.drop count) manners

/-- Writes all of the bytes, or as many as the sink takes before it refuses. -/
def writeAll (s : Sink) (bytes : List UInt8) : Sink × Option Failure :=
  s.offer bytes s.manners

/-- Writes pieces one after the other, all of each, up to the first failure. -/
def writeEach (s : Sink) : List (List UInt8) → Sink × Option Failure
  | [] => (s, none)
  | piece :: rest =>
    match s.writeAll piece with
    | (s, none) => s.writeEach rest
    | (s, some reason) => (s, some reason)

/-- Flushes a sink. An interruption of that is a failure like any other. -/
def flush (s : Sink) : Option Failure :=
  s.flushFailure

end Sink

end DiagnosticDigest
