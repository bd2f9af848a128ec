import DiagnosticDigest.Pattern.CharSet
import DiagnosticDigest.Pattern.Edge

/-!
# Patterns

A pattern describes texts: it is put together from sets of characters and from edges, one after the
other, by choice, and by repetition. It is kept as it was written, since how deep it may be nested is
limited.

## Main definitions

* `Pattern`: patterns, as they are written.
* `Pattern.depth`: how deep a pattern is nested.
-/

namespace DiagnosticDigest

/-- A pattern, as it is written: nothing; a character of a set, which may be about ASCII; an edge; an
edge of a word in any script; a group, with a number if it is noted what it takes; patterns one after
the other; a choice of patterns; and a pattern that is repeated at least and at most so many times,
often or rarely by preference. -/
inductive Pattern where
  | nothing
  | char (ascii : Bool) (set : CharSet)
  | edge (e : Edge)
  | scriptWordEdge
  | group (number : Option Nat) (inside : Pattern)
  | sequence (items : List Pattern)
  | choice (branches : List Pattern)
  | repeated (least : Nat) (most : Option Nat) (greedy : Bool) (inside : Pattern)

namespace Pattern

mutual

/-- How deep a pattern is nested: everything counts that is put together from others. -/
def depth : Pattern → Nat
  | .nothing | .edge _ | .scriptWordEdge => 0
  | .char _ set => set.depth
  | .group _ inside => inside.depth + 1
  | .sequence items => depthOfList items
  | .choice branches => depthOfList branches
  | .repeated _ _ _ inside => inside.depth + 1

/-- How deep patterns are nested that are put together to one. -/
def depthOfList : List Pattern → Nat
  | [] => 0
  | p :: rest => max (p.depth + 1) (depthOfList rest)

end

end Pattern

end DiagnosticDigest
