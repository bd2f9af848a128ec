import DiagnosticDigest.Pattern.Room
import DiagnosticDigest.Pattern.Token

/-!
# Reading patterns

The tokens of a pattern are put together by one pass over them, which keeps what has been read of the
groups and of the brackets that are open.

## Main definitions

* `Pattern.Draft`: what has been read of a pattern, and `Pattern.Draft.add`, one token more.
* `Pattern.ofText?`: the pattern that a text describes.
-/

namespace DiagnosticDigest.Pattern

/-! ## Sets -/

/-- What has been read of a set: whether it is a complement, what stands before the last operation on
sets, with that operation, and the parts behind it, the latest first. -/
structure SetDraft where
  complemented : Bool
  left : Option (CharSet × SetOperation)
  parts : List CharSet

namespace SetDraft

/-- A set of which nothing has been read. -/
def empty (complemented : Bool) : SetDraft :=
  ⟨complemented, none, []⟩

/-- The set that parts side by side make, the latest of them first. -/
def ofParts : List CharSet → CharSet
  | [part] => part
  | parts => .union parts.reverse

/-- All that has been read, the operations from left to right. -/
def operand (d : SetDraft) : CharSet :=
  match d.left with
  | none => ofParts d.parts
  | some (left, operation) => .combined operation left (ofParts d.parts)

/-- Adds a part. -/
def add (d : SetDraft) (part : CharSet) : SetDraft :=
  { d with parts := part :: d.parts }

/-- Adds an operation. -/
def operate (d : SetDraft) (operation : SetOperation) : SetDraft :=
  { d with left := some (d.operand, operation), parts := [] }

/-- The set when its bracket is closed. -/
def close (d : SetDraft) : CharSet :=
  .bracketed (if d.complemented then .complement d.operand else d.operand)

end SetDraft

/-! ## Groups -/

/-- What has been read of a group: the branches before the last bar and the items behind it, the
latest first. -/
structure GroupDraft where
  branches : List Pattern
  items : List Pattern

namespace GroupDraft

/-- A group of which nothing has been read. -/
def empty : GroupDraft :=
  ⟨[], []⟩

/-- The pattern that items one after the other make, the latest of them first. -/
def ofItems : List Pattern → Pattern
  | [] => .nothing
  | [item] => item
  | items => .sequence items.reverse

/-- Adds an item. -/
def add (d : GroupDraft) (item : Pattern) : GroupDraft :=
  { d with items := item :: d.items }

/-- Starts another branch. -/
def branch (d : GroupDraft) : GroupDraft :=
  ⟨ofItems d.items :: d.branches, []⟩

/-- Repeats the latest item, which must be there and be more than a change of flags. -/
def repeatLatest? (d : GroupDraft) (least : Nat) (most : Option Nat) (greedy : Bool) :
    Option GroupDraft :=
  match d.items with
  | [] | .nothing :: _ => none
  | item :: items => some { d with items := .repeated least most greedy item :: items }

/-- The pattern when the group is closed. -/
def close (d : GroupDraft) : Pattern :=
  match d.branches with
  | [] => ofItems d.items
  | branches => .choice (ofItems d.items :: branches).reverse

end GroupDraft

/-! ## Patterns -/

/-- What has been read of a pattern: the innermost group, those around it with the number of the one
inside, and the sets whose brackets are open, the innermost first. -/
structure Draft where
  group : GroupDraft
  outer : List (Option Nat × GroupDraft)
  sets : List SetDraft

namespace Draft

/-- A pattern of which nothing has been read. -/
def empty : Draft :=
  ⟨GroupDraft.empty, [], []⟩

/-- Adds an item to the innermost group. -/
def addItem (d : Draft) (item : Pattern) : Draft :=
  { d with group := d.group.add item }

/-- Changes the innermost set. -/
def changeSet (d : Draft) (change : SetDraft → SetDraft) : Option Draft :=
  match d.sets with
  | [] => none
  | inner :: sets => some { d with sets := change inner :: sets }

/-- Adds a token. -/
def add (d : Draft) : Token → Option Draft
  | .item p => some (d.addItem p)
  | .setting => some (d.addItem .nothing)
  | .openGroup number =>
    some { d with group := GroupDraft.empty, outer := (number, d.group) :: d.outer }
  | .closeGroup =>
    match d.outer with
    | [] => none
    | (number, group) :: outer =>
      some { d with group := group.add (.group number d.group.close), outer := outer }
  | .bar => some { d with group := d.group.branch }
  | .times least most greedy =>
    (d.group.repeatLatest? least most greedy).map fun group => { d with group := group }
  | .openSet complemented => some { d with sets := SetDraft.empty complemented :: d.sets }
  | .part set => d.changeSet fun inner => inner.add set
  | .operation operation => d.changeSet fun inner => inner.operate operation
  | .closeSet ascii =>
    match d.sets with
    | [] => none
    | [inner] => some ({ d with sets := [] }.addItem (.char ascii inner.close))
    | inner :: around :: sets => some { d with sets := around.add inner.close :: sets }

/-- The pattern when nothing follows, if all groups and brackets are closed. -/
def close? (d : Draft) : Option Pattern :=
  match d.outer, d.sets with
  | [], [] => some d.group.close
  | _, _ => none

end Draft

/-- The pattern that tokens make. -/
def ofTokens? (tokens : List Token) : Option Pattern :=
  (tokens.foldlM Draft.add Draft.empty).bind Draft.close?

/-- How deep a pattern may be nested. -/
def maxDepth : Nat := 250

/-- Whether a pattern can be used: it is not nested too deep, the words of all scripts do not matter
to it, and there is room for it. -/
def isUsable (p : Pattern) : Bool :=
  p.depth ≤ maxDepth && !p.outline.asksForScripts && fits p.outline

/-- The pattern that a text describes, if it describes one that can be used. -/
def ofText? (text : String) : Option Pattern :=
  match (tokens? text.toList).bind ofTokens? with
  | none => none
  | some p => if p.isUsable then some p else none

end DiagnosticDigest.Pattern
