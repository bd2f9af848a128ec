/-!
# Edges

A pattern can ask for a place in a text without taking any character there: where the text or a line
starts or ends, and where a word does. Which it is shows from the characters on either side. The
characters of words are the letters and digits of ASCII and the underscore.

## Main definitions

* `Gap`: a place between characters, by its neighbours; `Gap.ofChars`, the places of a text.
* `Edge`, `Edge.holds`: what can be asked of a place.
-/

namespace DiagnosticDigest

/-- A place in a text, by the characters before and after it. -/
structure Gap where
  before : Option Char
  after : Option Char
  deriving DecidableEq

/-- The places of a text: one more than there are characters. -/
def Gap.ofChars (text : List Char) : List Gap :=
  List.zipWith Gap.mk (none :: text.map some) (text.map some ++ [none])

@[simp] theorem Gap.length_ofChars (text : List Char) :
    (Gap.ofChars text).length = text.length + 1 := by
  simp [ofChars]

/-- Whether a character belongs to words. -/
def isWordChar (c : Char) : Bool :=
  c.isAlphanum || c = '_'

namespace Gap

/-- Whether a place stands behind a character of a word. -/
def behindWord (g : Gap) : Bool :=
  g.before.any isWordChar

/-- Whether a place stands before a character of a word. -/
def beforeWord (g : Gap) : Bool :=
  g.after.any isWordChar

end Gap

/-- What can be asked of a place with regard to words: that it is an edge of one, or is not; that a
word starts or ends there; that none goes on to its left or to its right. -/
inductive WordEdge where
  | either
  | neither
  | start
  | finish
  | noneBefore
  | noneAfter
  deriving DecidableEq

/-- Whether a place is such an edge. -/
def WordEdge.holds (e : WordEdge) (g : Gap) : Bool :=
  match e with
  | either => g.behindWord != g.beforeWord
  | neither => g.behindWord == g.beforeWord
  | start => !g.behindWord && g.beforeWord
  | finish => g.behindWord && !g.beforeWord
  | noneBefore => !g.behindWord
  | noneAfter => !g.beforeWord

/-- What can be asked of a place. Lines end at line feeds, or in the `wide` forms at carriage returns
too, where a carriage return and the line feed behind it are one end. -/
inductive Edge where
  | textStart
  | textEnd
  | lineStart
  | lineEnd
  | wideLineStart
  | wideLineEnd
  | word (e : WordEdge)
  deriving DecidableEq

/-- Whether a place is an edge. -/
def Edge.holds (e : Edge) (g : Gap) : Bool :=
  match e with
  | textStart => g.before = none
  | textEnd => g.after = none
  | lineStart => g.before = none || g.before = some '\n'
  | lineEnd => g.after = none || g.after = some '\n'
  | wideLineStart =>
    g.before = none || g.before = some '\n' || (g.before = some '\r' && g.after ≠ some '\n')
  | wideLineEnd =>
    g.after = none || g.after = some '\r' || (g.after = some '\n' && g.before ≠ some '\r')
  | word e => e.holds g

end DiagnosticDigest
