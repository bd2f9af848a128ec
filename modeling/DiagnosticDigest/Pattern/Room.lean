import DiagnosticDigest.Pattern.Encoding
import DiagnosticDigest.Pattern.Outline
import DiagnosticDigest.Text.Utf8

/-!
# The room that a pattern takes

A pattern is laid out twice, as a machine that reads the bytes of a text forwards and as one that reads
them backwards, with every repetition written out. Either must fit into ten mebibytes: `(a{1000}){1000}`
does not.

A state of a machine takes 32 bytes. A state that goes on by the next byte takes 8 more for each range of
bytes, one that goes on without reading takes 4 more for each state it may go to. Only a step by a
single range is part of the state itself.

## Main definitions

* `Outline.room`: the bytes that the states for an outline take.
* `Pattern.fits`: whether both machines for a pattern are small enough.
-/

namespace DiagnosticDigest

/-- The direction in which a machine reads. -/
inductive Direction where
  | forwards
  | backwards
  deriving DecidableEq

namespace Room

/-- The bytes of a state that reads a range of bytes, or nothing, and goes on to one other. -/
def state : Nat := 32

/-- The bytes of a state that goes on by ranges of bytes. -/
def reading (ranges : Nat) : Nat :=
  state + 8 * ranges

/-- The bytes of a state that may go on to others without reading. -/
def branching (branches : Nat) : Nat :=
  state + 4 * branches

/-! ## Sets -/

/-- The bytes for a character of a set. ASCII characters are read in one step. Otherwise a machine that
reads forwards shares the states from which the same may still come, and one that reads backwards those
in front of which the same bytes stand. -/
def ofSet (direction : Direction) (spans : List (Nat × Nat)) : Nat :=
  if spans.all fun span => span.2 < 0x80 then state + reading spans.length
  else
    let words := spans.flatMap fun span => Encoding.sequences span.1 span.2
    match direction with
    | .forwards =>
      (Encoding.suffixes 4 words).foldl
        (fun room tails => room + reading (Encoding.branches tails).length) state
    | .backwards => state + branching words.length + (Encoding.prefixes words).length * state

/-! ## Texts to choose from -/

/-- Cuts a list of words at those that are empty. -/
def cutAtEmpty : List (List UInt8) → List (List (List UInt8))
  | [] => [[]]
  | word :: rest =>
    match word.isEmpty, cutAtEmpty rest with
    | false, chunk :: chunks => (word :: chunk) :: chunks
    | _, chunks => [] :: chunks

/-- The words between those that are empty. That the empty word comes first more than once is not
noted. -/
def chunks (words : List (List UInt8)) : List (List (List UInt8)) :=
  let rest := cutAtEmpty (words.dropWhile List.isEmpty)
  if words.head? = some [] then [] :: rest else rest

/-- The bytes for a tree of words of at most `length` letters, in order of preference. A word that
ends inside the tree is preferred to those behind it, so their letters make another state. -/
def ofTree : Nat → List (List UInt8) → Nat
  | 0, _ => 0
  | length + 1, words =>
    let chunks := chunks words
    let sizes := chunks.map fun chunk => (Encoding.branches chunk).length
    let steps := sizes.map fun n => if n = 0 then 0 else if n = 1 then state else reading n
    let below := chunks.flatMap fun chunk =>
      (Encoding.branches chunk).filter fun tails => !tails.all List.isEmpty
    steps.sum + branching ((sizes.filter (· ≠ 0)).length + (chunks.length - 1)) +
      (below.map (ofTree length)).sum

/-- The bytes for a choice between texts, which are read as a tree. -/
def ofTexts (direction : Direction) (texts : List (List Char)) : Nat :=
  let words := texts.map fun chars => chars.flatMap String.utf8EncodeChar
  let words := match direction with
    | .forwards => words
    | .backwards => words.map List.reverse
  state + ofTree (words.foldl (fun n word => max n word.length) 0) words

/-! ## Repetition -/

/-- The bytes for a repetition, from those for one time, and from whether each time takes a
character. -/
def ofRepeated (least : Nat) (most : Option Nat) (takes : Bool) (once : Nat) : Nat :=
  match least, most with
  | 0, none =>
    if takes then branching 2 + once else once + 2 * branching 2 + state
  | least, none => least * once + branching 2
  | 0, some 1 => branching 2 + once + state
  | least, some most =>
    let needed := if least = 0 then state else least * once
    if most = least then needed
    else needed + state + (most - least) * (branching 2 + once)

end Room

/-! ## Outlines -/

namespace Outline

/-- The characters of a text. -/
def text? : Outline → Option (List Char)
  | .text chars => some chars
  | _ => none

mutual

/-- The bytes that the states for an outline take. Only a machine that reads forwards notes what a
group takes. -/
def room (direction : Direction) : Outline → Nat
  | .nothing | .edge _ | .scriptWordEdge => Room.state
  | .text chars => Utf8.size chars * Room.state
  | .set _ spans => Room.ofSet direction spans
  | .group _ inside =>
    inside.room direction + if direction = .forwards then 2 * Room.state else 0
  | .sequence items => roomOfAll direction items
  | .choice branches =>
    match branches.mapM text? with
    | some texts => Room.ofTexts direction texts
    | none =>
      roomOfAll direction branches + Room.branching branches.length + Room.state
  | .repeated least most _ inside =>
    Room.ofRepeated least most (inside.least?.any (0 < ·)) (inside.room direction)

/-- The bytes that the states for outlines take. -/
def roomOfAll (direction : Direction) : List Outline → Nat
  | [] => 0
  | o :: rest => o.room direction + roomOfAll direction rest

end

/-! ## Anchors -/

mutual

/-- Whether an outline is seen to match only where its edge is: at the start of a text, or at its end if
it is read backwards. -/
def isAnchored (direction : Direction) : Outline → Bool
  | .edge e => e = if direction = .forwards then .textStart else .textEnd
  | .nothing | .scriptWordEdge | .text _ | .set _ _ => false
  | .group _ inside => inside.isAnchored direction
  | .repeated least _ _ inside => 0 < least && inside.isAnchored direction
  | .sequence items =>
    match direction with
    | .forwards => firstAnchored items
    | .backwards => lastAnchored items
  | .choice branches => allAnchored direction branches

/-- Whether one of some outlines is anchored at the start, in front of which no characters are taken. -/
def firstAnchored : List Outline → Bool
  | [] => false
  | o :: rest => o.isAnchored .forwards || (o.isHollow && firstAnchored rest)

/-- Whether one of some outlines is anchored at the end, behind which no characters are taken. -/
def lastAnchored : List Outline → Bool
  | [] => false
  | o :: rest => lastAnchored rest || (allHollow rest && o.isAnchored .backwards)

/-- Whether all outlines are anchored. -/
def allAnchored (direction : Direction) : List Outline → Bool
  | [] => true
  | o :: rest => o.isAnchored direction && allAnchored direction rest

end

/-- The bytes of a whole machine. Unless it is anchored it starts by passing over any bytes, and going
forwards it notes what it takes as a whole. -/
def wholeRoom (direction : Direction) (o : Outline) : Nat :=
  let start :=
    if o.isAnchored direction then Room.state
    else Room.branching 2 + Room.state + Room.reading 1
  let finish := match direction with
    | .forwards => 3 * Room.state
    | .backwards => Room.state
  start + o.room direction + finish

end Outline

namespace Pattern

/-- How much room a pattern may take. -/
def maxRoom : Nat := 10 * 0x100000

/-- Whether an outline can be laid out in either direction. -/
def fits (o : Outline) : Bool :=
  o.wholeRoom .forwards ≤ maxRoom && o.wholeRoom .backwards ≤ maxRoom

end Pattern

end DiagnosticDigest
